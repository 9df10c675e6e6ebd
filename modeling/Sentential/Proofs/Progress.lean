import Mathlib.Logic.Function.Iterate
import Mathlib.Tactic.Ring
import Sentential.Proofs.Filling
import Sentential.Rows.Odometer

/-! How far a cursor is. Each step moves to the next row in binary order and leaves one row fewer, and
the step from the last row is the only one that leads nowhere. What is counted beside the rows agrees
with them as long as their number fits in a word; for more rows than that nothing is counted, and the
lower bound stays where it is. An odometer that turns its wheels in place keeps step with a cursor. -/
namespace Sentential

/-- The number that a row is in binary, with the first value as the highest digit. -/
def binary (row : List Bool) : Nat := row.foldl (fun number digit => 2 * number + digit.toNat) 0

theorem foldl_binary (number : Nat) (row : List Bool) :
    row.foldl (fun number digit => 2 * number + digit.toNat) number =
      number * 2 ^ row.length + binary row := by
  induction row generalizing number with
  | nil => simp [binary]
  | cons value row ih =>
    have first := ih (2 * number + value.toNat)
    have alone := ih (2 * 0 + value.toNat)
    rw [binary,List.foldl_cons,List.foldl_cons,first,alone,List.length_cons,pow_succ]
    ring

theorem binary_cons (value : Bool) (row : List Bool) :
    binary (value :: row) = value.toNat * 2 ^ row.length + binary row := by
  rw [binary,List.foldl_cons,foldl_binary]
  simp

/-- In descending order a row is the number of rows after it; in ascending order the two numbers and
the row itself make up all rows. -/
theorem binary_rowsLeft (row : List Bool) :
    binary row = rowsLeft false row ∧ binary row + rowsLeft true row + 1 = 2 ^ row.length := by
  induction row with
  | nil => exact ⟨rfl,rfl⟩
  | cons value row ih =>
    obtain ⟨descending,ascending⟩ := ih
    have doubled : 2 ^ (value :: row).length = 2 ^ row.length + 2 ^ row.length := by
      rw [List.length_cons,pow_succ]
      omega
    rw [binary_cons,doubled,rowsLeft,rowsLeft,rowTotal_eq_two_pow]
    cases value <;> simp <;> omega

namespace Cursor

variable {width taken : Nat} {reversed : Bool} {cursor : Cursor}

/-- Where a cursor over rows of a width is after some rows were taken. -/
structure Progress (width : Nat) (reversed : Bool) (taken : Nat) (cursor : Cursor) : Prop where
  reversed_eq : cursor.reversed = reversed
  remaining_eq : cursor.remaining? = (rowCount? width).map (· - taken)
  ahead : ∀ row ∈ cursor.next?,
    row.length = width ∧ taken + rowsLeft (!reversed) row + 1 = 2 ^ width
  ended : cursor.next? = none → 2 ^ width ≤ taken

theorem advance_of_none (found : cursor.next? = none) : cursor.advance = cursor := by
  rw [advance,found]

theorem progress_start (width : Nat) (reversed : Bool) :
    Progress width reversed 0 (start width reversed) where
  reversed_eq := rfl
  remaining_eq := by simp [start]
  ahead := by
    rintro row ⟨⟩
    have fresh := rowsLeft_fresh (!reversed) (List.replicate width reversed)
    rw [Bool.not_not,List.map_replicate,List.length_replicate,rowTotal_eq_two_pow] at fresh
    refine ⟨List.length_replicate,?_⟩
    omega
  ended := nofun

theorem Progress.advance (progress : Progress width reversed taken cursor) :
    Progress width reversed (taken + 1) cursor.advance := by
  cases found : cursor.next? with
  | none =>
    have ended := progress.ended found
    rw [advance_of_none found]
    refine ⟨progress.reversed_eq,?_,by simp [found],fun _ => by omega⟩
    rw [progress.remaining_eq,rowCount?,rowTotal_eq_two_pow]
    split
    · apply congrArg some
      show 2 ^ width - taken = 2 ^ width - (taken + 1)
      omega
    · rfl
  | some row =>
    obtain ⟨long,left⟩ := progress.ahead row found
    have step := rowsLeft_rowAfter (!reversed) row
    have moved : cursor.advance = ⟨reversed,rowAfter? (!reversed) row,
        (rowCount? width).map (· - (taken + 1))⟩ := by
      rw [Cursor.advance,found,progress.remaining_eq,progress.reversed_eq]
      simp [Function.comp_def,Nat.sub_sub]
    rw [moved]
    refine ⟨rfl,rfl,?_,?_⟩
    · intro next after
      have after : rowAfter? (!reversed) row = some next := after
      rw [after] at step
      omega
    · intro last
      have last : rowAfter? (!reversed) row = none := last
      rw [last] at step
      omega

/-- Where a fresh cursor is after any number of steps. -/
theorem progress (width : Nat) (reversed : Bool) (taken : Nat) :
    Progress width reversed taken (advance^[taken] (start width reversed)) := by
  induction taken with
  | zero => exact progress_start width reversed
  | succ taken ih =>
    rw [Function.iterate_succ_apply']
    exact ih.advance

theorem length_rowsAfter (last : Bool) (row : List Bool) :
    (rowsAfter last row).length = rowsLeft last row := by
  fun_induction rowsAfter last row with
  | case1 row next step ih =>
    have counted := rowsLeft_rowAfter last row
    rw [step] at counted
    rw [List.length_cons,ih]
    exact counted.1
  | case2 row step =>
    have counted := rowsLeft_rowAfter last row
    rw [step] at counted
    exact counted.symm

theorem Progress.length_toList (progress : Progress width reversed taken cursor) :
    cursor.toList.length = 2 ^ width - taken := by
  rw [toList,progress.reversed_eq]
  split
  · next found =>
    have ended := progress.ended found
    rw [List.length_nil]
    omega
  · next row found =>
    obtain ⟨-,left⟩ := progress.ahead row found
    rw [List.length_cons,length_rowsAfter]
    omega

/-- The row to come is the number of rows taken, counted from the end in descending order. -/
theorem Progress.binary_eq (progress : Progress width reversed taken cursor) {row : List Bool}
    (found : cursor.next? = some row) :
    binary row = if reversed then 2 ^ width - 1 - taken else taken := by
  obtain ⟨long,left⟩ := progress.ahead row found
  obtain ⟨descending,ascending⟩ := binary_rowsLeft row
  rw [long] at ascending
  cases reversed
  · rw [Bool.not_false] at left
    rw [if_neg Bool.false_ne_true]
    omega
  · rw [Bool.not_true] at left
    rw [if_pos rfl]
    omega

theorem Progress.exists_next (progress : Progress width reversed taken cursor)
    (more : taken < 2 ^ width) : ∃ row, cursor.next? = some row := by
  apply Option.ne_none_iff_exists'.mp
  intro found
  have ended := progress.ended found
  omega

theorem Progress.next_eq_none (progress : Progress width reversed taken cursor)
    (spent : 2 ^ width ≤ taken) : cursor.next? = none := by
  rw [Option.eq_none_iff_forall_ne_some]
  intro row found
  obtain ⟨-,left⟩ := progress.ahead row found
  omega

/-- The row that is taken after some number of others. -/
def nth? (cursor : Cursor) (taken : Nat) : Option (List Bool) := (advance^[taken] cursor).next?

/-- The rows still to come are those that the steps from here come to. -/
theorem getElem_toList (cursor : Cursor) (place : Nat) :
    cursor.toList[place]? = cursor.nth? place := by
  induction place generalizing cursor with
  | zero =>
    rw [toList,nth?]
    cases found : cursor.next? <;> simp [found]
  | succ place ih =>
    rw [nth?,Function.iterate_succ_apply,← nth?]
    cases found : cursor.next? with
    | none =>
      have none : cursor.toList = [] := by rw [toList,found]
      rw [← ih,advance_of_none found,none]
      rfl
    | some row => rw [toList_advance found,List.getElem?_cons_succ,ih]

theorem fits_iff (width : Nat) : 2 ^ width ≤ maxCount ↔ width < 64 := by
  constructor
  · intro fits
    by_contra wide
    have power : 2 ^ 64 ≤ 2 ^ width := Nat.pow_le_pow_right (by decide) (by omega)
    have top : maxCount < 2 ^ 64 := by decide
    omega
  · intro narrow
    have power : 2 ^ width ≤ 2 ^ 63 := Nat.pow_le_pow_right (by decide) (by omega)
    have top : 2 ^ 63 ≤ maxCount := by decide
    omega

/-- Rows that fit in a word are counted. -/
theorem Progress.bounds_of_fits (progress : Progress width reversed taken cursor)
    (fits : 2 ^ width ≤ maxCount) :
    cursor.sizeBounds = (2 ^ width - taken,some (2 ^ width - taken)) := by
  have counted : cursor.remaining? = some (2 ^ width - taken) := by
    rw [progress.remaining_eq,rowCount?,if_pos ((fits_iff width).mp fits),rowTotal_eq_two_pow]
    rfl
  rw [sizeBounds,counted]
  cases found : cursor.next? with
  | none =>
    have ended := progress.ended found
    have spent : 2 ^ width - taken = 0 := by omega
    rw [spent]
  | some row => rfl

/-- More rows are not counted, and until they end the lower bound is the largest word. -/
theorem Progress.bounds_of_not_fits (progress : Progress width reversed taken cursor)
    (wide : ¬2 ^ width ≤ maxCount) :
    cursor.sizeBounds = if taken < 2 ^ width then (maxCount,none) else (0,some 0) := by
  have uncounted : cursor.remaining? = none := by
    rw [progress.remaining_eq,rowCount?,if_neg (mt (fits_iff width).mpr wide)]
    rfl
  rw [sizeBounds,uncounted]
  cases found : cursor.next? with
  | none =>
    have ended := progress.ended found
    rw [if_neg (by omega)]
  | some row =>
    obtain ⟨-,left⟩ := progress.ahead row found
    rw [if_pos (by omega)]

theorem Progress.le_upper (progress : Progress width reversed taken cursor) :
    ∀ upper ∈ cursor.sizeBounds.2, 2 ^ width - taken ≤ upper := by
  by_cases fits : 2 ^ width ≤ maxCount
  · rw [progress.bounds_of_fits fits]
    rintro upper ⟨⟩
    omega
  · rw [progress.bounds_of_not_fits fits]
    split
    · nofun
    · rintro upper ⟨⟩
      omega

theorem Progress.lower_le_iff (progress : Progress width reversed taken cursor) :
    cursor.sizeBounds.1 ≤ 2 ^ width - taken ↔
      2 ^ width ≤ maxCount ∨ maxCount ≤ 2 ^ width - taken ∨ 2 ^ width - taken = 0 := by
  by_cases fits : 2 ^ width ≤ maxCount
  · rw [progress.bounds_of_fits fits]
    simp only [fits,true_or,iff_true]
    omega
  · rw [progress.bounds_of_not_fits fits]
    split <;> simp only [fits,false_or] <;> omega

end Cursor

namespace Odometer

/-- The values of a row on wheels. -/
def wheels (row : List Bool) : List UInt8 := row.map Bool.toUInt8

/-- An odometer is where a cursor is. -/
structure Shows (odometer : Odometer) (cursor : Cursor) : Prop where
  current_eq : odometer.current? = cursor.next?.map wheels
  reversed_eq : odometer.reversed = cursor.reversed
  remaining_eq : odometer.remaining?.map UInt64.toNat = cursor.remaining?

theorem turn_append (spent fresh : UInt8) (front back : List UInt8) :
    turn spent fresh (front ++ back) =
      let (turned,stopped) := turn spent fresh front
      if stopped then (turned ++ back,true)
      else
        let (others,stopped) := turn spent fresh back
        (turned ++ others,stopped) := by
  induction front with
  | nil => simp [turn]
  | cons wheel front ih =>
    by_cases same : wheel = spent
    · simp only [List.cons_append,turn,if_pos same,ih]
      split <;> rfl
    · simp [turn,same]

/-- Turning wheels from the last one on moves a row to the one after it. -/
theorem step_wheels (reversed : Bool) (row : List Bool) :
    step reversed (wheels row) =
      match rowAfter? (!reversed) row with
      | some next => (wheels next,true)
      | none => (wheels (row.map fun _ => reversed),false) := by
  have unfolded (row : List Bool) : step reversed (wheels row) =
      let result := turn (!reversed).toUInt8 reversed.toUInt8 (wheels row).reverse
      (result.1.reverse,result.2) := by
    cases reversed <;> rfl
  rw [unfolded]
  induction row with
  | nil => rfl
  | cons value row ih =>
    have front : (wheels (value :: row)).reverse = (wheels row).reverse ++ [value.toUInt8] := by
      simp [wheels]
    rw [front,turn_append]
    generalize turn (!reversed).toUInt8 reversed.toUInt8 (wheels row).reverse = result at ih ⊢
    obtain ⟨turned,stopped⟩ := result
    cases after : rowAfter? (!reversed) row with
    | some next =>
      rw [after] at ih
      obtain ⟨same,rfl⟩ := Prod.mk.inj ih
      simp only [rowAfter?,after]
      simp [same,wheels]
    | none =>
      rw [after] at ih
      obtain ⟨same,rfl⟩ := Prod.mk.inj ih
      -- all wheels behind the value have come round, so it is the value that turns
      simp only [rowAfter?,after]
      cases value <;> cases reversed <;> simp [turn,same,wheels,Bool.toUInt8]

theorem wordCount_eq (width : Nat) : (wordCount? width).map UInt64.toNat = rowCount? width := by
  rw [wordCount?,rowCount?,rowTotal_eq_two_pow]
  split
  · next narrow =>
    have power : 2 ^ width < 18446744073709551616 := Nat.pow_lt_pow_right (by decide) narrow
    simp [UInt64.toNat_shiftLeft,Nat.shiftLeft_eq,Nat.mod_eq_of_lt,narrow,power]
  · rfl

theorem toNat_saturatingPred (count : UInt64) : (saturatingPred count).toNat = count.toNat - 1 := by
  rw [saturatingPred]
  split
  · next zero =>
    rw [zero]
    rfl
  · next positive =>
    have one : 1 ≤ count := by
      rw [UInt64.le_iff_toNat_le]
      have apart : count.toNat ≠ 0 := fun same => positive (UInt64.toNat_inj.mp same)
      exact Nat.one_le_iff_ne_zero.mpr apart
    exact UInt64.toNat_sub_of_le count 1 one

variable {width : Nat} {reversed : Bool} {odometer : Odometer} {cursor : Cursor}

theorem shows_start (width : Nat) (reversed : Bool) :
    Shows (start width reversed) (.start width reversed) where
  current_eq := by cases reversed <;> simp [start,Cursor.start,wheels,Bool.toUInt8]
  reversed_eq := rfl
  remaining_eq := wordCount_eq width

/-- Taking a row from an odometer gives the row that the cursor comes to, and leaves the odometer
where the cursor is next. -/
theorem Shows.next (shows : Shows odometer cursor) :
    odometer.next.1 = cursor.next?.map wheels ∧ Shows odometer.next.2 cursor.advance := by
  rw [Odometer.next,Cursor.advance,shows.current_eq]
  cases cursor.next? with
  | none => exact ⟨rfl,shows⟩
  | some row =>
    have counted : (odometer.remaining?.map saturatingPred).map UInt64.toNat =
        cursor.remaining?.map (· - 1) := by
      rw [← shows.remaining_eq,Option.map_map,Option.map_map]
      exact congrArg (Option.map · _) (funext toNat_saturatingPred)
    refine ⟨rfl,?_,shows.reversed_eq,counted⟩
    simp only [Option.map_some,shows.reversed_eq,step_wheels]
    cases rowAfter? (!cursor.reversed) row <;> rfl

theorem Shows.sizeBounds_eq (shows : Shows odometer cursor) :
    odometer.sizeBounds.map UInt64.toNat (Option.map UInt64.toNat) = cursor.sizeBounds := by
  rw [sizeBounds,Cursor.sizeBounds,← shows.remaining_eq,shows.current_eq]
  cases cursor.next? with
  | none => rfl
  | some row => cases odometer.remaining? <;> rfl

/-- The two stay together over any number of steps. -/
theorem shows_run (width : Nat) (reversed : Bool) (taken : Nat) :
    Shows ((fun odometer => odometer.next.2)^[taken] (start width reversed))
      (Cursor.advance^[taken] (.start width reversed)) := by
  induction taken with
  | zero => exact shows_start width reversed
  | succ taken ih =>
    rw [Function.iterate_succ_apply',Function.iterate_succ_apply']
    exact ih.next.2

/-- The row that is taken after some number of others. -/
def nth? (odometer : Odometer) (taken : Nat) : Option (List UInt8) :=
  ((fun odometer => odometer.next.2)^[taken] odometer).next.1

end Odometer

namespace Cursor

/-- For every width and in either direction as many rows are taken as there are, and then none any
more. Read in binary they count up from 0, or down to it; so none is missing and none comes twice, and
one direction is the other one backwards. Wheels that turn in place come to the same rows. -/
theorem binary_order (width : Nat) :
    (∀ reversed,
      (∀ taken < 2 ^ width, ∃ row, (start width reversed).nth? taken = some row ∧
        row.length = width ∧
        binary row = if reversed then 2 ^ width - 1 - taken else taken) ∧
      (∀ taken, 2 ^ width ≤ taken → (start width reversed).nth? taken = none) ∧
      (∀ taken, (start width reversed).toList[taken]? = (start width reversed).nth? taken) ∧
      (start width reversed).toList.length = 2 ^ width ∧
      (start width reversed).toList.Nodup ∧
      (∀ row, row ∈ (start width reversed).toList ↔ row.length = width) ∧
      ∀ taken, (Odometer.start width reversed).nth? taken =
        ((start width reversed).nth? taken).map Odometer.wheels) ∧
    (start width true).toList = (start width false).toList.reverse := by
  constructor
  · intro reversed
    refine ⟨?_,?_,getElem_toList _,?_,?_,?_,?_⟩
    · intro taken more
      have reached := progress width reversed taken
      obtain ⟨row,found⟩ := reached.exists_next more
      exact ⟨row,found,(reached.ahead row found).1,reached.binary_eq found⟩
    · intro taken spent
      exact (progress width reversed taken).next_eq_none spent
    · exact (progress_start width reversed).length_toList
    · rw [toList_start]
      exact nodup_rows reversed width
    · intro row
      rw [toList_start]
      exact mem_rows
    · intro taken
      exact (Odometer.shows_run width reversed taken).next.1
  · rw [toList_start,toList_start]
    exact rows_not false width

/-- After any number of steps, the rows still to come are all rows less those taken. Where all rows fit
in a word, the bounds are this very number. An upper bound is never too low. The lower bound is right
exactly if all rows fit in a word, or those to come do not or fill it, or none are to come; for otherwise
it is the largest word. An odometer gives the same bounds. -/
theorem size_bounds_exact (width : Nat) (reversed : Bool) (taken : Nat) :
    let cursor := advance^[taken] (start width reversed)
    let left := cursor.toList.length
    left = 2 ^ width - taken ∧
    (2 ^ width ≤ maxCount → cursor.sizeBounds = (left,some left)) ∧
    (∀ upper ∈ cursor.sizeBounds.2, left ≤ upper) ∧
    (cursor.sizeBounds.1 ≤ left ↔ 2 ^ width ≤ maxCount ∨ maxCount ≤ left ∨ left = 0) ∧
    let odometer := (fun odometer : Odometer => odometer.next.2)^[taken] (.start width reversed)
    odometer.sizeBounds.map UInt64.toNat (Option.map UInt64.toNat) = cursor.sizeBounds := by
  intro cursor left
  have reached : Progress width reversed taken cursor := progress width reversed taken
  have counted : left = 2 ^ width - taken := reached.length_toList
  refine ⟨counted,?_,?_,?_,(Odometer.shows_run width reversed taken).sizeBounds_eq⟩
  · intro fits
    rw [reached.bounds_of_fits fits,counted]
  · rw [counted]
    exact reached.le_upper
  · rw [counted]
    exact reached.lower_le_iff

/-- Two of the rows of 64 values are taken. Those that are left would fit in a word, and are one fewer
than the lower bound says. -/
theorem lower_bound_too_high :
    let cursor := advance^[2] (start 64 false)
    cursor.sizeBounds = (2 ^ 64 - 1,none) ∧ cursor.toList.length = 2 ^ 64 - 2 ∧
      ¬cursor.sizeBounds.1 ≤ cursor.toList.length := by
  intro cursor
  have reached : Progress 64 false 2 cursor := progress 64 false 2
  have bounds : cursor.sizeBounds = (2 ^ 64 - 1,none) := by
    rw [reached.bounds_of_not_fits (by decide)]
    rfl
  have left := reached.length_toList
  refine ⟨bounds,left,?_⟩
  rw [bounds,left]
  decide

end Cursor
end Sentential
