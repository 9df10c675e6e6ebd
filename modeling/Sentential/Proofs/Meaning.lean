import Sentential.Proofs.Results

/-! What formulas of one shape have in common besides the shape: their variables and their value under
every assignment. Each single rearrangement keeps both, so any number of them does, and comparing
shapes is a sound test of equivalence. Of the constituents only one of each shape has a column, and
that column is right for all subformulas of this shape. -/
namespace Sentential

/-- A value joins the others in any order. -/
theorem Junction.value_perm (kind : Junction) {values values' : List Bool}
    (perm : values.Perm values') : kind.value values = kind.value values' := by
  cases kind with
  | and => exact perm.foldl_eq true
  | or => exact perm.foldl_eq false
  | xor =>
    refine perm.foldl_eq' ?_ false
    intro x _ y _ start
    exact Bool.xor_right_comm start x y

namespace Formula

/-- A rearrangement changes no value. -/
theorem Rearranges.value_eq {formula formula' : Formula} (step : Rearranges formula formula')
    (truth : String → Bool) : formula.value truth = formula'.value truth := by
  induction step with
  | permute perm =>
    rw [value_junction,value_junction]
    exact Junction.value_perm _ (perm.map _)
  | exchange =>
    rw [value_biconditional,value_biconditional]
    exact Bool.beq_comm
  | operand _ ih => simp only [value_junction,List.map_append,List.map_cons,ih]
  | neg _ ih => rw [value_neg,value_neg,ih]
  | antecedent _ ih => rw [value_conditional,value_conditional,ih]
  | consequent _ ih => rw [value_conditional,value_conditional,ih]
  | left _ ih => rw [value_biconditional,value_biconditional,ih]
  | right _ ih => rw [value_biconditional,value_biconditional,ih]

theorem value_of_shape_eq {left right : Formula} (same : left.shape = right.shape)
    (truth : String → Bool) : left.value truth = right.value truth := by
  induction shape_eq_iff_rearranges.mp same with
  | refl => rfl
  | tail steps step ih =>
    exact (ih (shape_eq_iff_rearranges.mpr steps)).trans (step.value_eq truth)

theorem mem_vars_of_shape_eq {left right : Formula} (same : left.shape = right.shape)
    {name : String} : name ∈ left.vars ↔ name ∈ right.vars := by
  rw [mem_vars,mem_vars]
  exact (size_leaves_of_shape_eq same).2.mem_iff

theorem eval_of_shape_eq {left right : Formula} (same : left.shape = right.shape)
    {assignment : Assignment} (covers : assignment.Covers left.vars) :
    ∃ value, left.eval assignment = .ok value ∧ right.eval assignment = .ok value := by
  have within : right.leaves ⊆ left.vars :=
    fun name leaf => (mem_vars_of_shape_eq same).mpr (mem_vars.mpr leaf)
  refine ⟨_,eval_of_covers covers fun name leaf => mem_vars.mpr leaf,?_⟩
  rw [value_of_shape_eq same]
  exact eval_of_covers covers within

theorem equivalent_of_shape_eq {left right : Formula} (same : left.shape = right.shape) :
    left.equivalent right :=
  equivalent_iff.mpr (value_of_shape_eq same)

theorem exists_constituent {formula within : Formula} (member : within ∈ formula.subformulas) :
    ∃ kept ∈ formula.constituents, kept.shape = within.shape := by
  have keyed (left right : Formula) : left.sameShape right ↔ left.shape = right.shape :=
    sameShape_iff
  exact exists_mem_distinctBy keyed member

end Formula

/-- The cells of a row are the values of all formulas with a column, variables among them. -/
theorem TruthTable.cellsOf_eq_map {vars : List String} (distinct : vars.Nodup)
    {formulas : List Formula} {row : List Bool} (width : row.length = vars.length) :
    cellsOf vars formulas row =
      (vars.map Formula.var ++ formulas).map (Formula.value (Assignment.ofRow vars row).truth) := by
  have own : row = (vars.map Formula.var).map (Formula.value (Assignment.ofRow vars row).truth) := by
    rw [List.map_map]
    exact Assignment.row_eq_map distinct width
  rw [cellsOf,List.map_append,← own]

theorem TruthTable.getElem_cellsOf {vars : List String} (distinct : vars.Nodup)
    {formulas : List Formula} {row : List Bool} (width : row.length = vars.length) {index : Nat}
    {formula : Formula} (found : (vars.map Formula.var ++ formulas)[index]? = some formula) :
    (cellsOf vars formulas row)[index]? =
      some (formula.value (Assignment.ofRow vars row).truth) := by
  rw [cellsOf_eq_map distinct width,List.getElem?_map,found,Option.map_some]

namespace Proposition

variable {proposition : Proposition}

/-- The formulas with a column, in the order of the columns. -/
def headed (proposition : Proposition) : List Formula :=
  proposition.vars.map .var ++ proposition.columns

/-- Where the constituents are shown there is a formula for each shape among the subformulas. -/
theorem Arranged.exists_headed (arranged : proposition.Arranged)
    (shown : proposition.config.showConstituents) {within : Formula}
    (member : within ∈ proposition.formula.subformulas) :
    ∃ kept ∈ proposition.headed, kept.shape = within.shape := by
  obtain ⟨kept,listed,stands⟩ := Formula.exists_constituent member
  refine ⟨kept,?_,stands⟩
  rw [headed,List.mem_append]
  cases variable_or : kept.isVariable with
  | true =>
    obtain ⟨name,rfl⟩ : ∃ name, kept = .var name := by
      cases kept <;> simp [Formula.isVariable,Formula.name?] at variable_or ⊢
    have leaf : name ∈ proposition.formula.leaves :=
      Formula.leaves_subset_of_mem_constituents listed (List.mem_singleton_self name)
    exact .inl (List.mem_map_of_mem (arranged.within leaf))
  | false =>
    right
    rw [columns,if_pos shown,constituents]
    exact List.mem_filter.mpr ⟨listed,by simp [variable_or]⟩

/-- In the column of a formula stand its values under what the rows assign. -/
theorem Arranged.cell (arranged : proposition.Arranged) {index place : Nat} {formula : Formula}
    (found : proposition.headed[index]? = some formula) {assignment : Assignment}
    (assigns : proposition.filled.assignment? place = some assignment) :
    proposition.filled.cell? place index = some (formula.value assignment.truth) ∧
      assignment.Covers proposition.vars := by
  rw [filled,TruthTable.assignment_filled] at assigns
  obtain ⟨row,listed,rfl⟩ := Option.map_eq_some_iff.mp assigns
  have width := TruthTable.width_of_getElem listed
  refine ⟨?_,Assignment.covers_ofRow arranged.distinct width⟩
  rw [TruthTable.cell?,filled,TruthTable.getElem_filled,listed,Option.map_some,Option.bind_some]
  exact TruthTable.getElem_cellsOf arranged.distinct width found

/-- A column with the values that a formula has on the rows. -/
structure ShownAt (within : Formula) (table : TruthTable) (index : Nat) : Prop where
  bound : index < table.width
  values : ∀ place < table.size, ∃ assignment value,
    table.assignment? place = some assignment ∧ within.eval assignment = .ok value ∧
      table.cell? place index = some value

/-- No subformula misses its column, as that of another one of its shape has the same values. -/
theorem Arranged.exists_shownAt (arranged : proposition.Arranged)
    (shown : proposition.config.showConstituents) {within : Formula}
    (member : within ∈ proposition.formula.subformulas) :
    ∃ index, ShownAt within proposition.filled index := by
  obtain ⟨kept,listed,stands⟩ := arranged.exists_headed shown member
  obtain ⟨index,found⟩ := List.mem_iff_getElem?.mp listed
  have bound : index < proposition.filled.width := by
    rw [filled,TruthTable.width_filled]
    simpa [headed] using (List.getElem?_eq_some_iff.mp found).1
  have leaves : within.leaves ⊆ proposition.vars :=
    List.Subset.trans (Formula.leaves_subset_of_mem_subformulas member) arranged.within
  refine ⟨index,bound,fun place listed => ?_⟩
  obtain ⟨assignment,assigns⟩ : ∃ assignment,
      proposition.filled.assignment? place = some assignment := by
    rw [TruthTable.assignment?,List.getElem?_eq_getElem listed]
    exact ⟨_,rfl⟩
  obtain ⟨cell,covers⟩ := arranged.cell found assigns
  rw [Formula.value_of_shape_eq stands] at cell
  exact ⟨assignment,_,assigns,Formula.eval_of_covers covers leaves,cell⟩

end Proposition

namespace Argument

/-- A comparison reports of the two formulas what they are, and its biconditional has a table. -/
theorem eq_of_compare {argument : Argument} {left right : Proposition × Nat}
    {test : EquivalenceTest} (compared : argument.compare left right = .ok test) :
    test.sameShape = left.1.formula.sameShape right.1.formula ∧
      test.equivalent = left.1.formula.equivalent right.1.formula ∧
      test.biconditional.Arranged := by
  obtain ⟨biconditional,made,compared⟩ := bind_eq_ok.mp compared
  obtain ⟨equivalent,answered,compared⟩ := bind_eq_ok.mp compared
  have arranged := Proposition.arranged_of_assemble made
  obtain ⟨-,rfl⟩ := Proposition.assemble_eq_ok.mp made
  cases compared
  exact ⟨rfl,Except.ok.inj (answered.symm.trans arranged.isTautology),arranged⟩

theorem equivalent_of_sameShape {argument : Argument} {comparison : Comparison}
    {tests : List EquivalenceTest} (compared : argument.equivalenceTests comparison = .ok tests)
    {test : EquivalenceTest} (member : test ∈ tests) (same : test.sameShape) : test.equivalent := by
  obtain ⟨pair,-,compared⟩ := exists_of_mem_mapM compared member
  obtain ⟨shape,equivalent,-⟩ := eq_of_compare compared
  rw [equivalent]
  rw [shape,Formula.sameShape_iff] at same
  exact Formula.equivalent_of_shape_eq same

end Argument

/-- Formulas of one shape have the same variables and are equivalent: where the variables have values
both can be evaluated, to one value. So it loses nothing to list the subformulas of a formula by their
shapes only, or to have a column for each shape, and no comparison of statements finds one shape and
yet a difference. -/
theorem same_shape_sound :
    (∀ left right : Formula, left.sameShape right →
      (∀ name, name ∈ left.vars ↔ name ∈ right.vars) ∧
      (∀ assignment : Assignment, assignment.Covers left.vars → ∃ value,
        left.eval assignment = .ok value ∧ right.eval assignment = .ok value) ∧
      left.equivalent right) ∧
    (∀ formula within : Formula, within ∈ formula.subformulas → ∃ kept ∈ formula.constituents,
      kept.sameShape within ∧ kept.equivalent within) ∧
    (∀ proposition : Proposition, proposition.Constructed → proposition.config.showConstituents →
      ∃ table, proposition.table = .ok table ∧
        ∀ within ∈ proposition.formula.subformulas, ∃ index,
          Proposition.ShownAt within table index) ∧
    (∀ (argument : Argument) (comparison : Comparison) (tests : List EquivalenceTest),
      argument.equivalenceTests comparison = .ok tests →
        ∀ test ∈ tests, test.sameShape → test.equivalent) := by
  refine ⟨?_,?_,?_,?_⟩
  · intro left right same
    have same := Formula.sameShape_iff.mp same
    exact ⟨fun _ => Formula.mem_vars_of_shape_eq same,fun _ => Formula.eval_of_shape_eq same,
      Formula.equivalent_of_shape_eq same⟩
  · intro formula within member
    obtain ⟨kept,listed,same⟩ := Formula.exists_constituent member
    exact ⟨kept,listed,Formula.sameShape_iff.mpr same,Formula.equivalent_of_shape_eq same⟩
  · intro proposition constructed shown
    have arranged := constructed.arranged
    exact ⟨_,arranged.table,fun within member => arranged.exists_shownAt shown member⟩
  · intro argument comparison tests compared test member same
    exact Argument.equivalent_of_sameShape compared member same

end Sentential
