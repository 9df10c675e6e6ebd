import Sentential.Formula.Semantics
import Sentential.Statement.Error

/-! Why a question about statements has no answer. -/
namespace Sentential

/-- What is wrong with a pair of labels. -/
inductive LabelProblem where
  /-- There are not exactly two characters. -/
  | length
  | identical
  deriving DecidableEq, Repr

inductive ConfigError where
  | badLabels (labels : String) (problem : LabelProblem)
  | tooManyVariables (count limit : Nat)
  deriving DecidableEq, Repr

/-- The number of rows that a message names. The count of variables is taken as a 32-bit number and
the rows as a 128-bit number, the largest one where they do not fit. -/
def statedRows (count : Nat) : Nat :=
  let width := count % 0x100000000
  if width < 128 then rowTotal width else 0xFFFFFFFFFFFFFFFFFFFFFFFFFFFFFFFF

def ConfigError.message : ConfigError → String
  | .badLabels labels .length =>
    "Custom label string must be of length 2, got " ++ Text.quote labels ++ "."
  | .badLabels labels .identical =>
    "Custom labels must be different, got " ++ Text.quote labels ++ "."
  | .tooManyVariables count limit =>
    "Statement uses " ++ toString count ++ " variables but truth tables are limited to " ++
      toString limit ++ " (" ++ toString (statedRows count) ++ " rows would be needed)."

inductive LogicError where
  | statement (error : Statement.Error)
  | config (error : ConfigError)
  /-- A table lacked a variable of one of its formulas, which no statement brings about. -/
  | evaluation (error : EvaluationError)
  | missingConclusion
  | emptyArgument
  deriving DecidableEq, Repr

namespace LogicError

/-- The message of the error within, if there is one. -/
def cause? : LogicError → Option String
  | .statement error => some error.message
  | .config error => some error.message
  | .evaluation error => some error.message
  | .missingConclusion | .emptyArgument => none

def message : LogicError → String
  | .statement error => error.message
  | .config error => error.message
  | .evaluation error => "An unexpected error occurred: " ++ error.message
  | .missingConclusion => "The argument has no conclusion to check validity against."
  | .emptyArgument => "The argument has no statements."

/-- Whether the fault lies in the program and not in what it was given. -/
def isInternal : LogicError → Bool
  | .evaluation _ => true
  | _ => false

/-- The text shown when the error ends a run. -/
def report : LogicError → String
  | .evaluation error => error.message
  | error => error.message

end LogicError
end Sentential
