import Sentential.Table.TruthTable
import Sentential.Text.Blank

/-! Tables as lines of plain text. Columns are as wide as their widest cell, stand between bars and
are ruled off below the headers; rows may end in a mark. -/
namespace Sentential.PlainText

open Text

/-- What a mark says of a row. -/
inductive Mark where
  /-- Every statement has the same value. -/
  | equivalent
  /-- A cross where every premise is true and the conclusion is false. -/
  | counterexample
  deriving DecidableEq, Repr

def checkMark : Char := '✓'

def crossMark : Char := '✗'

def mark (passed : Bool) : Char := if passed then checkMark else crossMark

def width (column : Column) : Nat :=
  (column.cells.map String.length).foldl max column.header.length

def pad (width : Nat) (text : String) : List Char :=
  text.toList ++ List.replicate (width - text.length) ' '

/-- One line of cells. Blanks at its end are dropped. -/
def line (cells : List (List Char)) : List Char := trimEnd ([' ', '|', ' '].intercalate cells)

def rule (widths : List Nat) : List Char :=
  ['-', '+', '-'].intercalate (widths.map (List.replicate · '-'))

/-- The next `count` lines of cells from the columns that are left. A column that has run out
continues with empty cells, marks that have run out with empty marks. -/
def body (widths : List Nat) : Nat → List (List String) → Option (List Bool) → List (List Char)
  | 0, _, _ => []
  | count + 1, columns, marks? =>
    let cells := List.zipWith (fun width cells => pad width (cells.headD "")) widths columns
    let marked := marks?.toList.map fun marks => (marks.head?.map mark).toList
    line (cells ++ marked) ::
      body widths count (columns.map List.tail) (marks?.map List.tail)

/-- The lines of a table: headers, a rule, and one line for each cell of the longest column. -/
def lines (columns : List Column) (marks? : Option (List Bool)) : List (List Char) :=
  let widths := columns.map width
  let count := (columns.map fun column => column.cells.length).foldl max 0
  line (List.zipWith (fun width column => pad width column.header) widths columns) ::
    rule widths :: body widths count (columns.map Column.cells) marks?

def render (columns : List Column) (marks? : Option (List Bool)) : String :=
  String.ofList ((lines columns marks?).flatMap (· ++ ['\n']))

end Sentential.PlainText
