import Sentential.Formula.Constituents
import Sentential.Proofs.Shape

/-! The formulas within a formula. Each of them but the formula itself is smaller than it, and
formulas of one shape are of one size, so the list of those that differ in shape ends with the
formula. -/
namespace Sentential

/-- A further element stays unless one before it stands for it. -/
theorem distinctBy_append_singleton (same : α → α → Bool) (xs : List α) (x : α) :
    distinctBy same (xs ++ [x]) =
      if xs.any (same · x) then distinctBy same xs else distinctBy same xs ++ [x] := by
  induction xs with
  | nil => rfl
  | cons y ys ih =>
    rw [List.cons_append,distinctBy,ih,List.any_cons]
    cases first : same y x <;> cases ys.any (same · x) <;> simp [distinctBy,first]

theorem distinctBy_sublist (same : α → α → Bool) (xs : List α) :
    (distinctBy same xs).Sublist xs := by
  induction xs with
  | nil => exact .slnil
  | cons x xs ih => exact (List.filter_sublist.trans ih).cons_cons x

/-- Every element is stood for by one that is kept, if elements are the same by what a key tells. -/
theorem exists_mem_distinctBy {same : α → α → Bool} {key : α → β}
    (keyed : ∀ x y, same x y ↔ key x = key y) {xs : List α} {x : α} (member : x ∈ xs) :
    ∃ kept ∈ distinctBy same xs, key kept = key x := by
  induction xs with
  | nil => cases member
  | cons first others ih =>
    rw [distinctBy]
    by_cases first_stands : key first = key x
    · exact ⟨first,List.mem_cons_self ..,first_stands⟩
    · rcases List.mem_cons.mp member with rfl | member
      · exact absurd rfl first_stands
      · obtain ⟨kept,listed,stands⟩ := ih member
        have stays : same first kept = false := by
          rw [← Bool.not_eq_true,keyed,stands]
          exact first_stands
        refine ⟨kept,List.mem_cons_of_mem _ ?_,stands⟩
        simp [listed,stays]

theorem add_le_foldl_add {count : Nat} {counts : List Nat} (member : count ∈ counts) (start : Nat) :
    start + count ≤ counts.foldl (· + ·) start := by
  have grows (start : Nat) (counts : List Nat) : start ≤ counts.foldl (· + ·) start := by
    induction counts generalizing start with
    | nil => exact Nat.le_refl start
    | cons first later ih => exact Nat.le_trans (Nat.le_add_right start first) (ih _)
  induction counts generalizing start with
  | nil => cases member
  | cons first later ih =>
    rcases List.mem_cons.mp member with rfl | member
    · exact grows _ later
    · have := ih member (start + first)
      rw [List.foldl_cons]
      omega

namespace Formula

/-- Induction on formulas from operands to the formula they are in. -/
@[elab_as_elim]
theorem operandsInd {motive : Formula → Prop}
    (step : ∀ formula, (∀ operand ∈ formula.operands, motive operand) → motive formula)
    (formula : Formula) : motive formula := by
  induction formula using ind with
  | var name => exact step _ nofun
  | neg operand ih => exact step _ (List.forall_mem_singleton.mpr ih)
  | junction kind operands ih => exact step _ ih
  | conditional left right ihLeft ihRight =>
    exact step _ (List.forall_mem_cons.mpr ⟨ihLeft,List.forall_mem_singleton.mpr ihRight⟩)
  | biconditional left right ihLeft ihRight =>
    exact step _ (List.forall_mem_cons.mpr ⟨ihLeft,List.forall_mem_singleton.mpr ihRight⟩)

theorem size_eq (formula : Formula) : formula.size = (formula.operands.map size).foldl (· + ·) 1 := by
  cases formula with
  | junction kind operands => exact size_junction kind operands
  | _ => rfl

theorem size_operand_lt {formula operand : Formula} (member : operand ∈ formula.operands) :
    operand.size < formula.size := by
  have := add_le_foldl_add (List.mem_map_of_mem (f := size) member) 1
  rw [← size_eq] at this
  omega

theorem leaves_operand_subset {formula operand : Formula} (member : operand ∈ formula.operands) :
    operand.leaves ⊆ formula.leaves := by
  have collected : formula.operands.flatMap leaves ⊆ formula.leaves := by
    cases formula with
    | var => exact List.nil_subset _
    | neg => simp [operands,leaves_neg]
    | junction => simp [operands,leaves_junction]
    | conditional => simp [operands,leaves_conditional]
    | biconditional => simp [operands,leaves_biconditional]
  exact fun name leaf => collected (List.mem_flatMap.mpr ⟨operand,member,leaf⟩)

theorem subformulasEach_eq_flatMap (formulas : List Formula) :
    subformulasEach formulas = formulas.flatMap subformulas := by
  induction formulas with
  | nil => rfl
  | cons formula formulas ih => rw [subformulasEach,ih,List.flatMap_cons]

/-- The subformulas of the operands come before the formula. -/
theorem subformulas_eq (formula : Formula) :
    formula.subformulas = formula.operands.flatMap subformulas ++ [formula] := by
  cases formula with
  | junction kind members => rw [subformulas,subformulasEach_eq_flatMap,operands]
  | _ => simp [subformulas,operands]

theorem mem_subformulas {formula within : Formula} :
    within ∈ formula.subformulas ↔
      within = formula ∨ ∃ operand ∈ formula.operands, within ∈ operand.subformulas := by
  rw [subformulas_eq,List.mem_append,List.mem_singleton,List.mem_flatMap,or_comm]

theorem size_le_of_mem_subformulas {formula within : Formula}
    (member : within ∈ formula.subformulas) : within.size ≤ formula.size := by
  induction formula using operandsInd with
  | step formula ih =>
    rcases mem_subformulas.mp member with rfl | ⟨operand,operandOf,member⟩
    · exact Nat.le_refl _
    · exact Nat.le_of_lt (Nat.lt_of_le_of_lt (ih operand operandOf member) (size_operand_lt operandOf))

theorem leaves_subset_of_mem_subformulas {formula within : Formula}
    (member : within ∈ formula.subformulas) : within.leaves ⊆ formula.leaves := by
  induction formula using operandsInd with
  | step formula ih =>
    rcases mem_subformulas.mp member with rfl | ⟨operand,operandOf,member⟩
    · exact List.Subset.refl _
    · exact List.Subset.trans (ih operand operandOf member) (leaves_operand_subset operandOf)

/-- Nothing within an operand has the shape of the whole formula. -/
theorem sameShape_eq_false_of_within {formula operand within : Formula}
    (operandOf : operand ∈ formula.operands) (member : within ∈ operand.subformulas) :
    within.sameShape formula = false := by
  rw [← Bool.not_eq_true]
  intro same
  have := (size_leaves_of_shape_eq (sameShape_iff.mp same)).1
  have := size_le_of_mem_subformulas member
  have := size_operand_lt operandOf
  omega

/-- The formula itself is the last of its constituents. -/
theorem constituents_eq (formula : Formula) :
    formula.constituents =
      distinctBy sameShape (formula.operands.flatMap subformulas) ++ [formula] := by
  rw [constituents,subformulas_eq,distinctBy_append_singleton,if_neg]
  rw [List.any_eq_true]
  rintro ⟨within,member,same⟩
  obtain ⟨operand,operandOf,member⟩ := List.mem_flatMap.mp member
  rw [sameShape_eq_false_of_within operandOf member] at same
  cases same

theorem leaves_subset_of_mem_constituents {formula within : Formula}
    (member : within ∈ formula.constituents) : within.leaves ⊆ formula.leaves :=
  leaves_subset_of_mem_subformulas ((distinctBy_sublist _ _).subset member)

end Formula
end Sentential
