import Sentential.Error

/-! Two characters to stand for true and false in a table. -/
namespace Sentential

structure TruthLabels where
  whenTrue : Char
  whenFalse : Char
  deriving DecidableEq, Repr

namespace TruthLabels

/-- Reads two different characters, the one for true first. -/
def parse (labels : String) : Except ConfigError TruthLabels :=
  match labels.toList with
  | [whenTrue, whenFalse] =>
    if whenTrue = whenFalse then .error (.badLabels labels .identical)
    else .ok ⟨whenTrue, whenFalse⟩
  | _ => .error (.badLabels labels .length)

def label (labels : TruthLabels) (value : Bool) : Char :=
  if value then labels.whenTrue else labels.whenFalse

def text (labels : TruthLabels) : String := String.ofList [labels.whenTrue, labels.whenFalse]

end TruthLabels

/-- A truth value in a table, with labels or as a digit. -/
def cellText (labels? : Option TruthLabels) (value : Bool) : String :=
  match labels? with
  | some labels => String.singleton (labels.label value)
  | none => truthDigit value

end Sentential
