import Sentential.Rows

/-! Notices that accompany an answer. -/
namespace Sentential

inductive Notice where
  | largeTable (width : Nat)
  | validity (valid : Bool) (failing : Nat)
  deriving DecidableEq, Repr

namespace Notice

/-- Tables over more variables than this are announced. -/
def quietWidth : Nat := 16

def ofWidth (width : Nat) : List Notice :=
  if quietWidth < width then [.largeTable width] else []

def isWarning : Notice → Bool
  | .largeTable _ => true
  | .validity _ _ => false

def text : Notice → String
  | .largeTable width =>
    "truth table over " ++ toString width ++ " variables will have " ++
      toString ((rowCount? width).getD maxCount) ++ " rows"
  | .validity valid failing =>
    "argument is " ++ (if valid then "valid" else "invalid") ++ " (" ++ toString failing ++
      " failing rows)"

/-- The text after the word for its level. -/
def record (notice : Notice) : String :=
  (if notice.isWarning then "WARN " else "INFO ") ++ notice.text

end Notice
end Sentential
