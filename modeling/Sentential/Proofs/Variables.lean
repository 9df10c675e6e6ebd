import Mathlib.Data.List.Nodup
import Sentential.Proofs.Compilation
import Sentential.Table.Config

/-! The variables of formulas and what rows of values assign to them. Variables are listed without
repeats and in some order; a row over such a list gives each of them the value at its place, and
every assignment of values to them is that of a row. -/
namespace Sentential

theorem mem_distinct [BEq α] [LawfulBEq α] {x : α} {xs : List α} : x ∈ distinct xs ↔ x ∈ xs := by
  induction xs with
  | nil => rfl
  | cons y ys ih =>
    have rest : x ∈ distinct (y :: ys) ↔ x = y ∨ x ∈ distinct ys ∧ ¬y = x := by
      simp [distinct,distinctBy]
    rw [rest,ih,List.mem_cons]
    constructor
    · rintro (same | ⟨member,-⟩)
      · exact .inl same
      · exact .inr member
    · rintro (same | member)
      · exact .inl same
      · by_cases same : y = x
        · exact .inl same.symm
        · exact .inr ⟨member,same⟩

theorem nodup_distinct [BEq α] [LawfulBEq α] (xs : List α) : (distinct xs).Nodup := by
  induction xs with
  | nil => exact List.nodup_nil
  | cons y ys ih =>
    refine List.nodup_cons.mpr ⟨?_,ih.filter _⟩
    simp

theorem Formula.mem_vars {formula : Formula} {name : String} :
    name ∈ formula.vars ↔ name ∈ formula.leaves :=
  mem_distinct

theorem VariableOrder.arrange_perm (order : VariableOrder) (vars : List String) :
    (order.arrange vars).Perm vars := by
  cases order with
  | firstSeen => exact .refl vars
  | sorted => exact List.mergeSort_perm vars _

/-- Two variables that are seen in the wrong order change places. -/
theorem mergeSort_swapped {first second : String} (later : ¬second ≤ first) :
    [second,first].mergeSort = [first,second] := by
  simp [List.mergeSort,List.MergeSort.Internal.splitInTwo,later]

namespace Assignment

/-- Each of the names has a value. -/
def Covers (assignment : Assignment) (names : List String) : Prop :=
  ∀ name ∈ names, (assignment.get? name).isSome

theorem Covers.get? {assignment : Assignment} {names : List String}
    (covers : assignment.Covers names) {name : String} (member : name ∈ names) :
    assignment.get? name = some (assignment.truth name) := by
  obtain ⟨value,found⟩ := Option.isSome_iff_exists.mp (covers name member)
  rw [truth,found]
  rfl

theorem put_of_fresh {name : String} {value : Bool} {entries : List (String × Bool)}
    (fresh : name ∉ entries.map Prod.fst) : put name value entries = entries ++ [(name,value)] := by
  induction entries with
  | nil => rfl
  | cons entry entries ih =>
    rw [List.map_cons,List.mem_cons,not_or] at fresh
    rw [put,if_neg (Ne.symm fresh.1),ih fresh.2,List.cons_append]

/-- Inserting new names one by one puts them behind each other. -/
theorem foldl_insert_of_nodup {entries pairs : List (String × Bool)}
    (distinct : ((entries ++ pairs).map Prod.fst).Nodup) :
    pairs.foldl (fun assignment pair => assignment.insert pair.1 pair.2) ⟨entries⟩ =
      (⟨entries ++ pairs⟩ : Assignment) := by
  induction pairs generalizing entries with
  | nil => simp
  | cons pair pairs ih =>
    have fresh : pair.1 ∉ entries.map Prod.fst := by
      rw [List.map_append,List.map_cons] at distinct
      intro member
      exact (List.nodup_append.mp distinct).2.2 _ member _ (List.mem_cons_self ..) rfl
    have moved : entries ++ pair :: pairs = entries ++ [pair] ++ pairs := by simp
    rw [moved] at distinct ⊢
    rw [List.foldl_cons,insert,put_of_fresh fresh]
    exact ih distinct

/-- A row assigns its values to the variables in their order. -/
theorem ofRow_eq_zip {vars : List String} (distinct : vars.Nodup) {row : List Bool}
    (width : row.length = vars.length) : ofRow vars row = ⟨vars.zip row⟩ := by
  have names : (vars.zip row).map Prod.fst = vars := List.map_fst_zip (Nat.le_of_eq width.symm)
  have nodup : (([] ++ vars.zip row).map Prod.fst).Nodup := by rwa [List.nil_append,names]
  exact foldl_insert_of_nodup nodup

theorem names_ofRow {vars : List String} (distinct : vars.Nodup) {row : List Bool}
    (width : row.length = vars.length) : (ofRow vars row).entries.map Prod.fst = vars := by
  rw [ofRow_eq_zip distinct width]
  exact List.map_fst_zip (Nat.le_of_eq width.symm)

/-- The row of the values that a valuation gives to the variables. -/
theorem get_ofRow_map {vars : List String} (distinct : vars.Nodup) (truth : String → Bool)
    {name : String} (member : name ∈ vars) :
    (ofRow vars (vars.map truth)).get? name = some (truth name) := by
  rw [ofRow_eq_zip distinct (List.length_map _),get?]
  have pairs : vars.zip (vars.map truth) = vars.map fun name => (name,truth name) := by
    simpa using List.zip_map' (f := id) (g := truth) (l := vars)
  rw [pairs]
  exact List.lookup_graph truth member

/-- What the row of a valuation assigns, as a map from names. -/
theorem get_ofRow_eq {vars : List String} (distinct : vars.Nodup) (truth : String → Bool) :
    (ofRow vars (vars.map truth)).get? =
      fun name => if name ∈ vars then some (truth name) else none := by
  funext name
  split
  · next member => exact get_ofRow_map distinct truth member
  · next fresh =>
    rw [get?,List.lookup_eq_none_iff]
    intro entry member
    have named : entry.1 ∈ (ofRow vars (vars.map truth)).entries.map Prod.fst :=
      List.mem_map_of_mem member
    rw [names_ofRow distinct (List.length_map _)] at named
    simpa using fun same : name = entry.1 => fresh (same ▸ named)

/-- Every row is that of a valuation, which the assignment of the row gives back. -/
theorem exists_valuation {vars : List String} (distinct : vars.Nodup) {row : List Bool}
    (width : row.length = vars.length) : ∃ truth : String → Bool, row = vars.map truth := by
  induction vars generalizing row with
  | nil => exact ⟨fun _ => false,List.length_eq_zero_iff.mp width⟩
  | cons name vars ih =>
    obtain ⟨value,row,rfl⟩ := List.exists_cons_of_length_eq_add_one width
    obtain ⟨fresh,distinct⟩ := List.nodup_cons.mp distinct
    obtain ⟨truth,rfl⟩ := ih distinct (Nat.succ.inj width)
    refine ⟨Function.update truth name value,?_⟩
    have others : vars.map (Function.update truth name value) = vars.map truth := by
      apply List.map_congr_left
      intro other member
      have differs : other ≠ name := by
        rintro rfl
        exact fresh member
      exact Function.update_of_ne differs value truth
    rw [List.map_cons,Function.update_self,others]

theorem row_eq_map {vars : List String} (distinct : vars.Nodup) {row : List Bool}
    (width : row.length = vars.length) : row = vars.map (ofRow vars row).truth := by
  obtain ⟨truth,rfl⟩ := exists_valuation distinct width
  apply List.map_congr_left
  intro name member
  rw [Assignment.truth,get_ofRow_map distinct truth member]
  rfl

theorem covers_ofRow {vars : List String} (distinct : vars.Nodup) {row : List Bool}
    (width : row.length = vars.length) : (ofRow vars row).Covers vars := by
  intro name member
  rw [row_eq_map distinct width,get_ofRow_map distinct _ member]
  rfl

end Assignment
end Sentential
