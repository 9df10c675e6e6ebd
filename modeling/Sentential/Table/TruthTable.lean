import Sentential.Formula.Render
import Sentential.Table.Labels

/-! Truth tables: a column for each variable, then one for each formula. -/
namespace Sentential

structure TruthTable where
  vars : List String
  /-- The variables, then the texts of the formulas. -/
  headers : List String
  rows : List (List Bool)
  deriving DecidableEq, Repr

/-- A column as text. -/
structure Column where
  header : String
  cells : List String
  deriving DecidableEq, Repr

namespace TruthTable

/-- The cells of one row: the values of the variables, then those of the formulas. -/
def fillRow (vars : List String) (formulas : List Formula) (row : List Bool) :
    Except EvaluationError (List Bool) := do
  return row ++ (← Formula.evalEach (.ofRow vars row) formulas)

/-- Fills a table over every row of values for the variables. It fails where a formula has a
variable that is not among them. -/
def build (vars : List String) (formulas : List Formula) (reversed : Bool) :
    Except EvaluationError TruthTable := do
  let filled ← (Sentential.rows reversed vars.length).mapM (fillRow vars formulas)
  return ⟨vars, vars ++ formulas.map Formula.text, filled⟩

/-- The number of rows. -/
def size (table : TruthTable) : Nat := table.rows.length

/-- The number of columns. -/
def width (table : TruthTable) : Nat := table.headers.length

/-- The place of the first column with a header. -/
def index? (table : TruthTable) (header : String) : Option Nat := table.headers.idxOf? header

/-- The values of a column from top to bottom, none if there is no such column. -/
def column (table : TruthTable) (index : Nat) : List Bool := table.rows.filterMap (·[index]?)

/-- The values of the first column with a header. -/
def column? (table : TruthTable) (header : String) : Option (List Bool) :=
  (table.index? header).map table.column

/-- Whether there is such a column and all its values are as expected. -/
def isConstant (table : TruthTable) (expected : Bool) (index : Nat) : Bool :=
  index < table.width && (table.column index).all (· == expected)

/-- The values that a row gives to the variables. -/
def assignment? (table : TruthTable) (row : Nat) : Option Assignment :=
  table.rows[row]?.map fun cells => .ofRow table.vars (cells.take table.vars.length)

def cell? (table : TruthTable) (row index : Nat) : Option Bool :=
  table.rows[row]?.bind (·[index]?)

def renderColumn? (table : TruthTable) (labels? : Option TruthLabels) (index : Nat) :
    Option Column :=
  table.headers[index]?.map fun header => ⟨header, (table.column index).map (cellText labels?)⟩

/-- The columns at the given places as text. Places without a column are passed over. -/
def renderColumns (table : TruthTable) (labels? : Option TruthLabels) (indices : List Nat) :
    List Column :=
  indices.filterMap (table.renderColumn? labels?)

def render (table : TruthTable) (labels? : Option TruthLabels) : List Column :=
  table.renderColumns labels? (List.range table.width)

end TruthTable
end Sentential
