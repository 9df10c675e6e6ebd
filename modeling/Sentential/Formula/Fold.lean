import Sentential.Formula.Basic

/-! Folding a formula from its leaves to its root, and what is counted or collected that way. -/
namespace Sentential.Formula

/-- One node of a formula, with the results of its operands in their places. -/
inductive Node (α : Type u) where
  | var (name : String)
  | neg (operand : α)
  | junction (kind : Junction) (operands : List α)
  | conditional (left right : α)
  | biconditional (left right : α)
  deriving DecidableEq, Repr

/-- The results of the operands, from left to right. -/
def Node.operands : Node α → List α
  | .var _ => []
  | .neg operand => [operand]
  | .junction _ operands => operands
  | .conditional left right => [left, right]
  | .biconditional left right => [left, right]

mutual

def fold (step : Node α → α) : Formula → α
  | .var name => step (.var name)
  | .neg operand => step (.neg (operand.fold step))
  | .junction kind operands => step (.junction kind (foldEach step operands))
  | .conditional left right => step (.conditional (left.fold step) (right.fold step))
  | .biconditional left right => step (.biconditional (left.fold step) (right.fold step))

def foldEach (step : Node α → α) : List Formula → List α
  | [] => []
  | formula :: formulas => formula.fold step :: foldEach step formulas

end

/-- The names at the leaves from left to right, once for each occurrence. -/
def leaves : Formula → List String :=
  fold fun node =>
    match node with
    | .var name => [name]
    | node => node.operands.flatten

/-- The variables in the order of their first occurrence. -/
def vars (formula : Formula) : List String := distinct formula.leaves

/-- The variables in ascending order of code points. -/
def sortedVars (formula : Formula) : List String := formula.vars.mergeSort

/-- The number of nodes. -/
def size : Formula → Nat := fold fun node => node.operands.foldl (· + ·) 1

end Sentential.Formula
