import Sentential.Formula.Basic

/-! The text of a formula, with no more parentheses than reading it back needs. -/
namespace Sentential.Formula

/-- Whether connectives are written as signs or as keywords. -/
inductive Style where
  | signs
  | keywords
  deriving DecidableEq, Repr

def Style.connective : Style → Connective → List Char
  | .signs, k => k.symbol.toList
  | .keywords, k => k.keyword.toList

/-- A negation sign touches its operand, the keyword does not. -/
def Style.negation : Style → List Char
  | .signs => Connective.not.symbol.toList
  | .keywords => Connective.not.keyword.toList ++ [' ']

def Style.between (style : Style) (k : Connective) : List Char :=
  ' ' :: style.connective k ++ [' ']

/-- How tight the root binds; nothing binds tighter than a variable. -/
def strength (formula : Formula) : Nat :=
  match formula.connective? with
  | some k => k.precedence
  | none => Connective.not.precedence + 1

def enclose (needed : Bool) (text : List Char) : List Char :=
  if needed then '(' :: text ++ [')'] else text

mutual

/-- Chains of `->` and of `iff` group to the right, so only their left operand needs parentheses
when it binds no tighter than they do. After a negation only a variable stands bare. -/
def chars (style : Style) : Formula → List Char
  | .var name => name.toList
  | .neg operand => style.negation ++ enclose (!operand.isVariable) (operand.chars style)
  | .junction kind operands =>
    (style.between kind.connective).intercalate
      (charsEach style kind.connective.precedence operands)
  | .conditional left right =>
    enclose (left.strength ≤ Connective.implies.precedence) (left.chars style) ++
      style.between .implies ++
      enclose (right.strength < Connective.implies.precedence) (right.chars style)
  | .biconditional left right =>
    enclose (left.strength ≤ Connective.iff.precedence) (left.chars style) ++
      style.between .iff ++
      enclose (right.strength < Connective.iff.precedence) (right.chars style)

/-- The operands of a junction; those that bind looser stand in parentheses. -/
def charsEach (style : Style) (precedence : Nat) : List Formula → List (List Char)
  | [] => []
  | operand :: operands =>
    enclose (operand.strength < precedence) (operand.chars style) ::
      charsEach style precedence operands

end

def render (style : Style) (formula : Formula) : String := String.ofList (formula.chars style)

/-- The usual text of a formula, with signs. -/
def text (formula : Formula) : String := formula.render .signs

end Sentential.Formula
