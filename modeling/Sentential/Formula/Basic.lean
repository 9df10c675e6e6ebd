import Sentential.Connective
import Sentential.Distinct

/-! Formulas of propositional logic. They are built with `not`, `and`, `or`, `xor`, `implies` and
`iff`, which keep them canonical: no negation is negated, and a conjunction, disjunction or
exclusive disjunction has none of its own kind among its operands. -/
namespace Sentential

/-- The connectives that join any number of operands. -/
inductive Junction where
  | and
  | or
  | xor
  deriving DecidableEq, Repr

def Junction.connective : Junction → Connective
  | .and => .and
  | .or => .or
  | .xor => .xor

inductive Formula where
  | var (name : String)
  | neg (operand : Formula)
  | junction (kind : Junction) (operands : List Formula)
  | conditional (left right : Formula)
  | biconditional (left right : Formula)
  deriving Repr, Inhabited

namespace Formula

/-- A negation of a negation is the formula within. -/
def not : Formula → Formula
  | .neg operand => operand
  | formula => .neg formula

/-- What a formula contributes to a junction: its operands, if it is one of the same kind. -/
def spliced (kind : Junction) : Formula → List Formula
  | .junction kind' operands =>
    if kind' = kind then operands else [.junction kind' operands]
  | formula => [formula]

def join (kind : Junction) (left right : Formula) : Formula :=
  .junction kind (left.spliced kind ++ right.spliced kind)

def and (left right : Formula) : Formula := join .and left right

def or (left right : Formula) : Formula := join .or left right

def xor (left right : Formula) : Formula := join .xor left right

def implies (left right : Formula) : Formula := .conditional left right

def iff (left right : Formula) : Formula := .biconditional left right

/-- Puts a connective between two formulas. For `not` that is the negation of the second. -/
def combine : Connective → Formula → Formula → Formula
  | .and, left, right => left.and right
  | .or, left, right => left.or right
  | .xor, left, right => left.xor right
  | .implies, left, right => left.implies right
  | .iff, left, right => left.iff right
  | .not, _, right => right.not

/-- The connective at the root, if the formula is not a variable. -/
def connective? : Formula → Option Connective
  | .var _ => none
  | .neg _ => some .not
  | .junction kind _ => some kind.connective
  | .conditional _ _ => some .implies
  | .biconditional _ _ => some .iff

/-- The name, if the formula is a variable. -/
def name? : Formula → Option String
  | .var name => some name
  | _ => none

def isVariable (formula : Formula) : Bool := formula.name?.isSome

/-- The formulas directly under the root, from left to right. -/
def operands : Formula → List Formula
  | .var _ => []
  | .neg operand => [operand]
  | .junction _ operands => operands
  | .conditional left right => [left, right]
  | .biconditional left right => [left, right]

end Formula
end Sentential
