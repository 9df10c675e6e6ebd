import Sentential.Assignment
import Sentential.Formula.Fold
import Sentential.Rows
import Sentential.Text.Quoted

/-! The truth value of a formula under an assignment, and what holds of its values under all. -/
namespace Sentential

inductive EvaluationError where
  /-- A variable of the formula has no value. -/
  | unassigned (name : String)
  deriving DecidableEq, Repr

def EvaluationError.message : EvaluationError → String
  | .unassigned name => "Variable " ++ Text.quote name ++ " has no assigned value"

/-- The value of a junction that has operands with these values. -/
def Junction.value : Junction → List Bool → Bool
  | .and, values => values.foldl (· && ·) true
  | .or, values => values.foldl (· || ·) false
  | .xor, values => values.foldl (· ^^ ·) false

namespace Formula

mutual

/-- Operands are evaluated from left to right, all of them, so the error names the first variable
without a value. -/
def eval (assignment : Assignment) : Formula → Except EvaluationError Bool
  | .var name =>
    match assignment.get? name with
    | some value => .ok value
    | none => .error (.unassigned name)
  | .neg operand => do return !(← operand.eval assignment)
  | .junction kind operands => do return kind.value (← evalEach assignment operands)
  | .conditional left right => do
    let premise ← left.eval assignment
    let consequence ← right.eval assignment
    return !premise || consequence
  | .biconditional left right => do
    let one ← left.eval assignment
    let other ← right.eval assignment
    return one == other

def evalEach (assignment : Assignment) : List Formula → Except EvaluationError (List Bool)
  | [] => .ok []
  | formula :: formulas => do
    let value ← formula.eval assignment
    let values ← evalEach assignment formulas
    return value :: values

end

/-- The value under a row of values for the formula's own variables. Such a row leaves no variable
without a value. -/
def valueOn (formula : Formula) (vars : List String) (row : List Bool) : Bool :=
  match formula.eval (.ofRow vars row) with
  | .ok value => value
  | .error _ => false

/-- Whether the value is `expected` on every row over the formula's own variables. -/
def isConstantly (expected : Bool) (formula : Formula) : Bool :=
  let vars := formula.vars
  allRows vars.length fun row => formula.valueOn vars row == expected

def isTautology (formula : Formula) : Bool := formula.isConstantly true

def isContradiction (formula : Formula) : Bool := formula.isConstantly false

def isSatisfiable (formula : Formula) : Bool := !formula.isContradiction

/-- Whether two formulas have the same value under every assignment. -/
def equivalent (left right : Formula) : Bool := (left.iff right).isTautology

end Formula
end Sentential
