import Sentential.Formula.Shape

/-! The formulas within a formula. -/
namespace Sentential.Formula

mutual

/-- Every subformula, operands before the formula they are in, once for each occurrence. -/
def subformulas : Formula → List Formula
  | .var name => [.var name]
  | .neg operand => operand.subformulas ++ [.neg operand]
  | .junction kind operands => subformulasEach operands ++ [.junction kind operands]
  | .conditional left right =>
    left.subformulas ++ right.subformulas ++ [.conditional left right]
  | .biconditional left right =>
    left.subformulas ++ right.subformulas ++ [.biconditional left right]

def subformulasEach : List Formula → List Formula
  | [] => []
  | formula :: formulas => formula.subformulas ++ subformulasEach formulas

end

/-- The subformulas with only the first of each shape, the formula itself last. -/
def constituents (formula : Formula) : List Formula := distinctBy sameShape formula.subformulas

end Sentential.Formula
