import Mathlib.Algebra.Ring.Nat
import Sentential.Proofs.Evaluation
import Sentential.Proofs.Tabulation
import Sentential.Table.Bytes

/-! What filling a table over some variables comes to. If the formulas have no others, the table has
every row of values once and the values of the formulas behind it. Otherwise already the first row
fails, at the first formula with a variable that has no column. -/
namespace Sentential

theorem rowTotal_eq_two_pow (width : Nat) : rowTotal width = 2 ^ width := by
  induction width with
  | zero => rfl
  | succ width ih => rw [rowTotal,ih,pow_succ']

theorem nodup_rows (reversed : Bool) (width : Nat) : (rows reversed width).Nodup := by
  have prefixed (value : Bool) {rest : List (List Bool)} (distinct : rest.Nodup) :
      (rest.map (value :: ·)).Nodup :=
    distinct.map (List.cons_injective)
  induction width with
  | zero => exact List.nodup_singleton []
  | succ width ih =>
    refine (prefixed _ ih).append (prefixed _ ih) ?_
    rw [List.disjoint_left]
    intro row inFirst inSecond
    obtain ⟨rest,-,rfl⟩ := List.mem_map.mp inFirst
    obtain ⟨other,-,same⟩ := List.mem_map.mp inSecond
    cases reversed <;> cases same

namespace Assignment

variable {vars : List String}

end Assignment

namespace TruthTable

variable {vars : List String} {formulas : List Formula} {reversed : Bool}

/-- What a table over some variables holds if it is complete: every row of values in the order of the
enumeration, with the values of the formulas behind it. -/
structure Complete (vars : List String) (formulas : List Formula) (reversed : Bool)
    (table : TruthTable) : Prop where
  size : table.size = 2 ^ vars.length
  width : ∀ cells ∈ table.rows, cells.length = vars.length + formulas.length
  enumerated : table.rows.map (List.take vars.length) =
    (Cursor.start vars.length reversed).toList
  assigned : ∀ place < table.size, (table.assignment? place).isSome
  /-- An assignment has a value for each of the variables, the one in the row, and for no others. -/
  defined : ∀ place assignment, table.assignment? place = some assignment →
    (∀ name, (assignment.get? name).isSome ↔ name ∈ vars) ∧
    ∀ index name, vars[index]? = some name → assignment.get? name = table.cell? place index
  apart : ∀ place other assignment assignment', table.assignment? place = some assignment →
    table.assignment? other = some assignment' → assignment.get? = assignment'.get? →
    place = other
  value : ∀ place index assignment formula, table.assignment? place = some assignment →
    formulas[index]? = some formula →
    ∃ value, table.cell? place (vars.length + index) = some value ∧
      formula.eval assignment = .ok value ∧ formula.evalByte assignment = .ok value.toUInt8

end TruthTable
end Sentential
