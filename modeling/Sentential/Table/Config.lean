import Sentential.Formula.Fold
import Sentential.Table.Labels

/-! What a truth table shows and how large it may be. -/
namespace Sentential

inductive VariableOrder where
  | firstSeen
  | sorted
  deriving DecidableEq, Repr

structure Config where
  /-- Rows run from all true down to all false. -/
  reversed : Bool := false
  labels? : Option TruthLabels := none
  /-- Every subformula has a column, not just the whole statement. -/
  showConstituents : Bool := true
  order : VariableOrder := .firstSeen
  maxVariables : Nat := 20
  deriving DecidableEq, Repr

/-- Puts variables that stand in the order of their first occurrence into the order wanted. -/
def VariableOrder.arrange : VariableOrder → List String → List String
  | .firstSeen, vars => vars
  | .sorted, vars => vars.mergeSort

/-- Refuses more variables than the limit, before any table is filled. -/
def Config.allow (config : Config) (count : Nat) : Except ConfigError Unit :=
  if config.maxVariables < count then .error (.tooManyVariables count config.maxVariables)
  else .ok ()

end Sentential
