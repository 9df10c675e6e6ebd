/-! The rows of a truth table: all lists of truth values of a given width, in binary order with the
first value as the highest digit. `rows` lists them, `Cursor` steps through them without a list or
a count of them, and `allRows` asks a question of each. -/
namespace Sentential

/-- The rows in ascending order from all false, or in the opposite order from all true. -/
def rows (reversed : Bool) : Nat → List (List Bool)
  | 0 => [[]]
  | width + 1 =>
    (rows reversed width).map (reversed :: ·) ++ (rows reversed width).map ((!reversed) :: ·)

/-- Whether every row satisfies `p`. Rows are tried in ascending order and only as far as the first
that does not. -/
def allRows : Nat → (List Bool → Bool) → Bool
  | 0, p => p []
  | width + 1, p =>
    allRows width (fun row => p (false :: row)) && allRows width (fun row => p (true :: row))

/-- The number of rows: each further value doubles it. -/
def rowTotal : Nat → Nat
  | 0 => 1
  | width + 1 => 2 * rowTotal width

/-- The number of rows, if it fits in a word of 64 bits. -/
def rowCount? (width : Nat) : Option Nat := if width < 64 then some (rowTotal width) else none

/-- The largest word of 64 bits. -/
def maxCount : Nat := 0xFFFFFFFFFFFFFFFF

/-- The row after a row. Trailing values equal to `last` roll over and the one before them turns
into `last`; nothing comes after the row that holds only `last`. -/
def rowAfter? (last : Bool) : List Bool → Option (List Bool)
  | [] => none
  | value :: row =>
    match rowAfter? last row with
    | some next => some (value :: next)
    | none => if value = last then none else some (last :: row.map fun _ => !last)

/-- How many rows come after a row. -/
def rowsLeft (last : Bool) : List Bool → Nat
  | [] => 0
  | value :: row => (if value = last then 0 else rowTotal row.length) + rowsLeft last row

theorem rowsLeft_fresh (last : Bool) (row : List Bool) :
    rowsLeft last (row.map fun _ => !last) + 1 = rowTotal row.length := by
  induction row with
  | nil => rfl
  | cons value row ih =>
    have differs : (!last) ≠ last := by cases last <;> decide
    simp only [List.map_cons, rowsLeft, if_neg differs, List.length_map, List.length_cons, rowTotal]
    omega

/-- Each step leaves exactly one row fewer, and a row without a successor leaves none. -/
theorem rowsLeft_rowAfter (last : Bool) (row : List Bool) :
    match rowAfter? last row with
    | some next => rowsLeft last next + 1 = rowsLeft last row ∧ next.length = row.length
    | none => rowsLeft last row = 0 := by
  induction row with
  | nil => simp [rowAfter?, rowsLeft]
  | cons value row ih =>
    simp only [rowAfter?]
    cases step : rowAfter? last row with
    | some next =>
      rw [step] at ih
      simp only [rowsLeft, List.length_cons, ih.2, and_true]
      omega
    | none =>
      rw [step] at ih
      by_cases same : value = last
      · simp [same, rowsLeft, ih]
      · have fresh := rowsLeft_fresh last row
        simp only [if_neg same, rowsLeft, if_true, List.length_cons, List.length_map, and_true]
        simp only [ih]
        omega

/-- All rows after a row, in order. -/
def rowsAfter (last : Bool) (row : List Bool) : List (List Bool) :=
  match _step : rowAfter? last row with
  | some next => next :: rowsAfter last next
  | none => []
termination_by rowsLeft last row
decreasing_by
  have := rowsLeft_rowAfter last row
  rw [_step] at this
  omega

/-- A place in the enumeration of rows: the row to come and, where it fits in a word, the number of
rows still to come. -/
structure Cursor where
  reversed : Bool
  next? : Option (List Bool)
  remaining? : Option Nat
  deriving DecidableEq, Repr

namespace Cursor

def start (width : Nat) (reversed : Bool) : Cursor :=
  ⟨reversed, some (List.replicate width reversed), rowCount? width⟩

/-- The cursor after the row to come was taken. -/
def advance (cursor : Cursor) : Cursor :=
  match cursor.next? with
  | none => cursor
  | some row =>
    { cursor with
      next? := rowAfter? (!cursor.reversed) row
      remaining? := cursor.remaining?.map (· - 1) }

/-- A lower bound on the rows still to come and an upper one, if one is known. -/
def sizeBounds (cursor : Cursor) : Nat × Option Nat :=
  match cursor.next?, cursor.remaining? with
  | none, _ => (0, some 0)
  | some _, some count => (count, some count)
  | some _, none => (maxCount, none)

/-- The rows still to come. -/
def toList (cursor : Cursor) : List (List Bool) :=
  match cursor.next? with
  | none => []
  | some row => row :: rowsAfter (!cursor.reversed) row

end Cursor
end Sentential
