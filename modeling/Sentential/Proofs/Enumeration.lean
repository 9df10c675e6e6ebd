import Sentential.Proofs.Valuation

/-! Stepping through rows. A cursor turns the trailing values of a row over and the one before them,
without a list of rows or a count of them; the rows that it comes to are those of the list, each
once and in the order of the list. -/
namespace Sentential

theorem length_rowAfter {last : Bool} {row next : List Bool}
    (step : rowAfter? last row = some next) : next.length = row.length := by
  have counted := rowsLeft_rowAfter last row
  rw [step] at counted
  exact counted.2

theorem rowsAfter_of_some {last : Bool} {row next : List Bool}
    (step : rowAfter? last row = some next) : rowsAfter last row = next :: rowsAfter last next := by
  rw [rowsAfter]
  split
  · next found =>
    cases step.symm.trans found
    rfl
  · next none => cases step.symm.trans none

theorem rowsAfter_of_none {last : Bool} {row : List Bool} (step : rowAfter? last row = none) :
    rowsAfter last row = [] := by
  rw [rowsAfter]
  split
  · next found => cases step.symm.trans found
  · rfl

/-- Rows with the same first value come first. Then, unless that value is the last one, it turns and
the values behind it start again. -/
theorem rowsAfter_cons (last value : Bool) (row : List Bool) :
    rowsAfter last (value :: row) = (rowsAfter last row).map (value :: ·) ++
      if value = last then []
      else
        let turned := last :: List.replicate row.length (!last)
        turned :: rowsAfter last turned := by
  fun_induction rowsAfter last row with
  | case1 row next step ih =>
    have ahead : rowAfter? last (value :: row) = some (value :: next) := by
      simp only [rowAfter?,step]
    rw [rowsAfter_of_some ahead,ih,length_rowAfter step,List.map_cons,List.cons_append]
  | case2 row step =>
    by_cases same : value = last
    · have spent : rowAfter? last (value :: row) = none := by simp [rowAfter?,step,same]
      rw [rowsAfter_of_none spent,if_pos same]
      rfl
    · have turns : rowAfter? last (value :: row) =
          some (last :: List.replicate row.length (!last)) := by
        simp [rowAfter?,step,same,List.map_const']
      rw [rowsAfter_of_some turns,if_neg same]
      rfl

namespace Cursor

/-- A cursor comes to every row, in the order of the list of rows. -/
theorem toList_start (width : Nat) (reversed : Bool) :
    (start width reversed).toList = rows reversed width := by
  have whole (width : Nat) : rows reversed width = List.replicate width reversed ::
      rowsAfter (!reversed) (List.replicate width reversed) := by
    induction width with
    | zero => simp [rows,rowsAfter,rowAfter?]
    | succ width ih =>
      have apart : ¬reversed = !reversed := by cases reversed <;> decide
      have turned : rowsAfter (!reversed) ((!reversed) :: List.replicate width reversed) =
          (rowsAfter (!reversed) (List.replicate width reversed)).map ((!reversed) :: ·) := by
        simp [rowsAfter_cons]
      rw [List.replicate_succ,rowsAfter_cons,if_neg apart]
      simp [rows,ih,turned]
  exact (whole width).symm

/-- The rows still to come are the row to come and those after a step. -/
theorem toList_advance {cursor : Cursor} {row : List Bool} (ahead : cursor.next? = some row) :
    cursor.toList = row :: cursor.advance.toList := by
  simp only [toList,advance,ahead]
  cases step : rowAfter? (!cursor.reversed) row with
  | some next => rw [rowsAfter_of_some step]
  | none => rw [rowsAfter_of_none step]

end Cursor

/-- Asking a question of all rows is asking it of each row in the list. -/
theorem allRows_eq_all (width : Nat) (p : List Bool → Bool) :
    allRows width p = (rows false width).all p := by
  rw [Bool.eq_iff_iff,allRows_iff,List.all_eq_true]
  simp only [mem_rows]

theorem length_rows (reversed : Bool) (width : Nat) :
    (rows reversed width).length = rowTotal width := by
  induction width with
  | zero => rfl
  | succ width ih =>
    rw [rows,List.length_append,List.length_map,List.length_map,ih,rowTotal]
    omega

theorem rows_not (reversed : Bool) (width : Nat) :
    rows (!reversed) width = (rows reversed width).reverse := by
  induction width with
  | zero => rfl
  | succ width ih =>
    rw [rows,rows,List.reverse_append,← List.map_reverse,← List.map_reverse,ih,Bool.not_not]

end Sentential
