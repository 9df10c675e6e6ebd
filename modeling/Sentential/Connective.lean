/-! The six logical connectives and their fixed properties. -/
namespace Sentential

inductive Connective where
  | not
  | and
  | or
  | xor
  | implies
  | iff
  deriving DecidableEq, Repr

namespace Connective

def all : List Connective := [.not, .and, .or, .xor, .implies, .iff]

/-- The one word by which a normal statement writes the connective. -/
def keyword : Connective → String
  | .not => "not"
  | .and => "and"
  | .or => "or"
  | .xor => "xor"
  | .implies => "->"
  | .iff => "iff"

/-- The sign used in displayed formulas. -/
def symbol : Connective → String
  | .not => "¬"
  | .and => "∧"
  | .or => "∨"
  | .xor => "⊻"
  | .implies => "→"
  | .iff => "↔"

def ofKeyword? (word : String) : Option Connective := all.find? (·.keyword == word)

def isKeyword (word : String) : Bool := (ofKeyword? word).isSome

/-- A higher number binds tighter. -/
def precedence : Connective → Nat
  | .iff => 1
  | .implies => 2
  | .xor => 3
  | .or => 4
  | .and => 5
  | .not => 6

/-- The binary connectives from the loosest to the tightest, the order in which a sequence of
items is split. -/
def binary : List Connective := [.iff, .implies, .xor, .or, .and]

def isCommutative : Connective → Bool
  | .and | .or | .xor | .iff => true
  | .not | .implies => false

/-- Nested uses of an associative connective merge into one node. `iff` stays binary. -/
def isAssociative : Connective → Bool
  | .and | .or | .xor => true
  | .not | .implies | .iff => false

end Connective
end Sentential
