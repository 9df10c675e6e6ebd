import Sentential.Proposition

/-! Arguments: premises and perhaps a conclusion, in one table. -/
namespace Sentential

structure Argument where
  premises : List Proposition
  conclusion? : Option Proposition
  /-- The variables of all statements in the order of their columns. -/
  vars : List String
  config : Config

/-- Which statements are compared. -/
inductive Comparison where
  /-- Each statement with the first one. -/
  | direct
  /-- Each statement with every other one. -/
  | pairwise
  deriving DecidableEq, Repr

structure Validity where
  /-- The places of the rows with true premises and a false conclusion. -/
  failingRows : List Nat
  /-- What the first of them assigns. -/
  countermodel? : Option Assignment
  deriving DecidableEq, Repr

/-- An argument is valid if no row fails. -/
def Validity.valid (validity : Validity) : Bool := validity.failingRows.isEmpty

def Validity.notice (validity : Validity) : Notice :=
  .validity validity.valid validity.failingRows.length

/-- The comparison of two statements by their places. -/
structure EquivalenceTest where
  left : Nat
  right : Nat
  sameShape : Bool
  equivalent : Bool
  /-- One statement if and only if the other, a tautology just when they are equivalent. -/
  biconditional : Proposition

namespace Argument

def make (premises : List Proposition) (conclusion? : Option Proposition) (config : Config) :
    Except LogicError Argument :=
  if premises.isEmpty && conclusion?.isNone then .error .emptyArgument
  else
    let seen := (premises ++ conclusion?.toList).flatMap fun statement =>
      statement.formula.vars
    let vars := config.order.arrange (distinct seen)
    match config.allow vars.length with
    | .ok () => .ok ⟨premises, conclusion?, vars, config⟩
    | .error error => .error (.config error)

/-- Reads every statement under the configuration of the argument. -/
def parse (premises : List String) (conclusion? : Option String) (config : Config) :
    Except LogicError Argument := do
  let premises ← premises.mapM (Proposition.parse · config)
  let conclusion? ← conclusion?.mapM (Proposition.parse · config)
  make premises conclusion? config

/-- The notice given when an argument is made. Its statements have their own. -/
def notices (argument : Argument) : List Notice := Notice.ofWidth argument.vars.length

/-- The premises, then the conclusion. -/
def statements (argument : Argument) : List Proposition :=
  argument.premises ++ argument.conclusion?.toList

def conclusionColumn? (argument : Argument) : Option Nat :=
  argument.conclusion?.map fun _ => argument.vars.length + argument.premises.length

def table (argument : Argument) : Except LogicError TruthTable :=
  let formulas := argument.statements.map Proposition.formula
  match TruthTable.build argument.vars formulas argument.config.reversed with
  | .ok table => .ok table
  | .error error => .error (.evaluation error)

/-- The values of the statements on a row. -/
def statementCells (argument : Argument) (cells : List Bool) : List Bool :=
  cells.drop argument.vars.length

/-- Whether every premise is true on a row and the conclusion, which comes next, is false. -/
def isCounterexample (argument : Argument) (cells : List Bool) : Bool :=
  let values := argument.statementCells cells
  (values.take argument.premises.length).all id && values[argument.premises.length]? == some false

/-- Checks that no row is a counterexample. -/
def validity (argument : Argument) : Except LogicError Validity :=
  match argument.conclusion? with
  | none => .error .missingConclusion
  | some _ => do
    let table ← argument.table
    let failing := table.rows.zipIdx.filterMap fun (cells, place) =>
      if argument.isCounterexample cells then some place else none
    return ⟨failing, failing.head?.bind table.assignment?⟩

/-- The pairs that are compared, each with its members in the order of the list. -/
def pairs : Comparison → List α → List (α × α)
  | _, [] => []
  | .direct, first :: others => others.map (first, ·)
  | .pairwise, first :: others => others.map (first, ·) ++ pairs .pairwise others

/-- Compares two statements, given with their places, by the table of their biconditional, which
shows only the variables and the whole. -/
def compare (argument : Argument) (left right : Proposition × Nat) :
    Except LogicError EquivalenceTest := do
  let config := { argument.config with showConstituents := false }
  let biconditional ← Proposition.ofFormula (left.1.formula.iff right.1.formula) config
  let equivalent ← biconditional.isTautology
  return ⟨left.2, right.2, left.1.formula.sameShape right.1.formula, equivalent, biconditional⟩

def equivalenceTests (argument : Argument) (comparison : Comparison) :
    Except LogicError (List EquivalenceTest) :=
  (pairs comparison argument.statements.zipIdx).mapM fun pair => argument.compare pair.1 pair.2

/-- Whether a row passes under a mark. -/
def passes (argument : Argument) (mark : PlainText.Mark) (cells : List Bool) : Bool :=
  match mark with
  | .equivalent =>
    match argument.statementCells cells with
    | [] => true
    | first :: others => others.all (· == first)
  | .counterexample => !argument.isCounterexample cells

/-- For each row whether it passes. -/
def marks (argument : Argument) (mark : PlainText.Mark) : Except LogicError (List Bool) := do
  return (← argument.table).rows.map (argument.passes mark)

def rendered (argument : Argument) : Except LogicError (List Column) := do
  return (← argument.table).render argument.config.labels?

def plainText (argument : Argument) (mark? : Option PlainText.Mark) :
    Except LogicError String := do
  let columns ← argument.rendered
  let marks? ← mark?.mapM argument.marks
  return PlainText.render columns marks?

end Argument

namespace EquivalenceTest

/-- Whether all comparisons found their statements equivalent. -/
def allEquivalent (tests : List EquivalenceTest) : Bool := tests.all (·.equivalent)

/-- The comparisons that found a difference. -/
def failures (tests : List EquivalenceTest) : List EquivalenceTest :=
  tests.filter (!·.equivalent)

end EquivalenceTest
end Sentential
