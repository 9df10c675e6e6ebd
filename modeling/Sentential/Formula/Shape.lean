import Sentential.Formula.Basic

/-! Equality of formulas up to the order of operands. Operands of `and`, `or` and `xor` may stand
in any order and the sides of `iff` may be exchanged, at every depth. -/
namespace Sentential

/-- A list without the first element that satisfies `p`, if there is one. -/
def takeOut? (p : α → Bool) : List α → Option (List α)
  | [] => none
  | x :: xs => if p x then some xs else (takeOut? p xs).map (x :: ·)

namespace Formula

mutual

/-- Operands of a junction are paired off one by one. The first partner that fits is taken: shape
equality is an equivalence, so no other choice could do better. -/
def sameShape : Formula → Formula → Bool
  | .var name, .var name' => name == name'
  | .neg operand, .neg operand' => operand.sameShape operand'
  | .junction kind operands, .junction kind' operands' =>
    kind == kind' && sameOperands operands operands'
  | .conditional left right, .conditional left' right' =>
    left.sameShape left' && right.sameShape right'
  | .biconditional left right, .biconditional left' right' =>
    left.sameShape left' && right.sameShape right' ||
      left.sameShape right' && right.sameShape left'
  | _, _ => false

def sameOperands : List Formula → List Formula → Bool
  | [], others => others.isEmpty
  | operand :: operands, others =>
    match takeOut? operand.sameShape others with
    | some rest => sameOperands operands rest
    | none => false

end

/-- Formulas compare equal when they have the same shape. -/
instance : BEq Formula := ⟨sameShape⟩

end Formula
end Sentential
