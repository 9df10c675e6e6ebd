import Mathlib.Data.List.Perm.Subperm
import Sentential.Proofs.Tabulation

/-! Equivalence of the statements of an argument. It is found by comparing each statement with the
first one, by comparing all of them pairwise, or by marking the rows on which all have the same
value. Each comparison fills a table over the variables of two statements only, which is never too
wide, and all three ways come to the same answer. -/
namespace Sentential

namespace Formula

variable {formula left right : Formula}

theorem equivalent_refl (formula : Formula) : formula.equivalent formula :=
  equivalent_iff.mpr fun _ => rfl

theorem equivalent_symm (same : left.equivalent right) : right.equivalent left :=
  equivalent_iff.mpr fun truth => (equivalent_iff.mp same truth).symm

theorem equivalent_trans (first : left.equivalent formula) (second : formula.equivalent right) :
    left.equivalent right :=
  equivalent_iff.mpr fun truth =>
    (equivalent_iff.mp first truth).trans (equivalent_iff.mp second truth)

end Formula

/-- A table that shows only the variables and the whole statement tells whether it is a
tautology. -/
theorem Proposition.isTautology_of_columns {proposition : Proposition}
    (distinct : proposition.vars.Nodup) (within : proposition.formula.leaves ⊆ proposition.vars)
    (compound : proposition.formula.name? = none)
    (shown : proposition.columns = [proposition.formula]) :
    proposition.isTautology = .ok proposition.formula.isTautology := by
  have built : TruthTable.build proposition.vars [proposition.formula]
      proposition.config.reversed =
        .ok (.filled proposition.vars [proposition.formula] proposition.config.reversed) :=
    TruthTable.build_eq_ok distinct (by simpa using within)
  have result : proposition.resultColumn = proposition.vars.length + 0 := by
    rw [resultColumn,compound,shown]
    rfl
  rw [isTautology,table,shown,built]
  show Except.ok (TruthTable.isConstant _ true proposition.resultColumn) = _
  rw [result,TruthTable.isConstant_filled distinct rfl within,Formula.isTautology]

namespace Argument

theorem map_pairs (f : α → β) (comparison : Comparison) (xs : List α) :
    (pairs comparison xs).map (Prod.map f f) = pairs comparison (xs.map f) := by
  induction xs with
  | nil => cases comparison <;> rfl
  | cons x xs ih =>
    cases comparison with
    | direct => simp [pairs,Function.comp_def]
    | pairwise => simp [pairs,Function.comp_def,ih]

theorem mem_of_mem_pairs {comparison : Comparison} {xs : List α} {pair : α × α}
    (member : pair ∈ pairs comparison xs) : pair.1 ∈ xs ∧ pair.2 ∈ xs := by
  induction xs with
  | nil => cases comparison <;> cases member
  | cons x xs ih =>
    have with_first (member : pair ∈ xs.map (x,·)) : pair.1 ∈ x :: xs ∧ pair.2 ∈ x :: xs := by
      obtain ⟨y,other,rfl⟩ := List.mem_map.mp member
      exact ⟨List.mem_cons_self ..,List.mem_cons_of_mem _ other⟩
    cases comparison with
    | direct => exact with_first member
    | pairwise =>
      rcases List.mem_append.mp member with first | later
      · exact with_first first
      · obtain ⟨left,right⟩ := ih later
        exact ⟨List.mem_cons_of_mem _ left,List.mem_cons_of_mem _ right⟩

/-- Each two elements are paired, in their order. -/
theorem mem_pairs_pairwise {xs : List Nat} (ascending : xs.Pairwise (· < ·)) {i j : Nat} :
    (i,j) ∈ pairs .pairwise xs ↔ i ∈ xs ∧ j ∈ xs ∧ i < j := by
  induction xs with
  | nil => simp [pairs]
  | cons x xs ih =>
    obtain ⟨least,ascending⟩ := List.pairwise_cons.mp ascending
    rw [pairs,List.mem_append,ih ascending,List.mem_map]
    constructor
    · rintro (⟨y,member,same⟩ | ⟨left,right,before⟩)
      · cases same
        exact ⟨List.mem_cons_self ..,List.mem_cons_of_mem _ member,least _ member⟩
      · exact ⟨List.mem_cons_of_mem _ left,List.mem_cons_of_mem _ right,before⟩
    · rintro ⟨left,right,before⟩
      rcases List.mem_cons.mp right with rfl | later
      · rcases List.mem_cons.mp left with rfl | later
        · exact absurd before (Nat.lt_irrefl _)
        · exact absurd (least i later) (Nat.lt_asymm before)
      · rcases List.mem_cons.mp left with rfl | later'
        · exact .inl ⟨j,later,rfl⟩
        · exact .inr ⟨later',later,before⟩

theorem nodup_pairs_pairwise {xs : List α} (distinct : xs.Nodup) :
    (pairs .pairwise xs).Nodup := by
  induction xs with
  | nil => exact List.nodup_nil
  | cons x xs ih =>
    obtain ⟨fresh,distinct⟩ := List.nodup_cons.mp distinct
    refine List.nodup_append.mpr ⟨?_,ih distinct,?_⟩
    · exact distinct.map fun y y' same => (Prod.mk.inj same).2
    · rintro pair first other later rfl
      obtain ⟨y,-,rfl⟩ := List.mem_map.mp first
      exact fresh (mem_of_mem_pairs later).1

/-- For an equivalence relation comparing with the first is enough, and comparing pairwise is no
more. -/
theorem forall_pairs_iff {R : α → α → Prop} (refl : ∀ x, R x x) (symm : ∀ {x y}, R x y → R y x)
    (trans : ∀ {x y z}, R x y → R y z → R x z) (comparison : Comparison) (xs : List α) :
    (∀ pair ∈ pairs comparison xs, R pair.1 pair.2) ↔ ∀ x ∈ xs, ∀ y ∈ xs, R x y := by
  constructor
  · intro compared
    cases xs with
    | nil => simp
    | cons first others =>
      have with_first : ∀ x ∈ first :: others, R first x := by
        have each : ∀ x ∈ others, R first x := by
          intro x member
          have pair : (first,x) ∈ others.map (first,·) := List.mem_map_of_mem member
          cases comparison with
          | direct => exact compared _ pair
          | pairwise => exact compared _ (List.mem_append_left _ pair)
        exact List.forall_mem_cons.mpr ⟨refl first,each⟩
      exact fun x member y member' => trans (symm (with_first x member)) (with_first y member')
  · intro all pair member
    obtain ⟨left,right⟩ := mem_of_mem_pairs member
    exact all _ left _ right

variable {argument : Argument}

/-- Under every assignment of the variables any two statements have the same value. -/
def StatementsAgree (argument : Argument) : Prop :=
  ∀ left ∈ argument.statements, ∀ right ∈ argument.statements,
    ∀ assignment : Assignment, assignment.Covers argument.vars →
      ∃ value, left.formula.eval assignment = .ok value ∧
        right.formula.eval assignment = .ok value

theorem WellFormed.statementsAgree_iff (wellFormed : argument.WellFormed) :
    argument.StatementsAgree ↔ ∀ left ∈ argument.statements, ∀ right ∈ argument.statements,
      left.formula.equivalent right.formula := by
  refine forall₂_congr fun left memberLeft => forall₂_congr fun right memberRight => ?_
  rw [Formula.equivalent_iff]
  constructor
  · intro agree truth
    have assigned (name : String) (member : name ∈ argument.vars) :=
      Assignment.get_ofRow_map wellFormed.distinct truth member
    have covers := Assignment.covers_ofRow wellFormed.distinct (List.length_map truth)
    obtain ⟨value,ofLeft,ofRight⟩ := agree _ covers
    rw [wellFormed.eval assigned memberLeft] at ofLeft
    rw [wellFormed.eval assigned memberRight] at ofRight
    exact Except.ok.inj (ofLeft.trans ofRight.symm)
  · intro same assignment covers
    have assigned (name : String) (member : name ∈ argument.vars) := covers.get? member
    refine ⟨_,wellFormed.eval assigned memberLeft,?_⟩
    rw [same]
    exact wellFormed.eval assigned memberRight

/-- The proposition that two formulas are equivalent, with a table of the whole only. -/
def biconditional (argument : Argument) (left right : Formula) : Proposition :=
  ⟨(left.iff right).text,left.iff right,argument.config.order.arrange (left.iff right).vars,
    { argument.config with showConstituents := false }⟩

/-- What comparing two statements finds. -/
def outcome (argument : Argument) (pair : (Proposition × Nat) × Proposition × Nat) :
    EquivalenceTest :=
  let left := pair.1.1.formula
  let right := pair.2.1.formula
  ⟨pair.1.2,pair.2.2,left.sameShape right,left.equivalent right,argument.biconditional left right⟩

/-- A comparison is never refused, as two statements have no more variables than all have. -/
theorem WellFormed.compare_eq_ok (wellFormed : argument.WellFormed)
    {pair : (Proposition × Nat) × Proposition × Nat} (left : pair.1.1 ∈ argument.statements)
    (right : pair.2.1 ∈ argument.statements) :
    argument.compare pair.1 pair.2 = .ok (argument.outcome pair) := by
  have order := argument.config.order.arrange_perm (pair.1.1.formula.iff pair.2.1.formula).vars
  have distinct := order.nodup_iff.mpr (nodup_distinct _)
  have limit : (argument.config.order.arrange
      (pair.1.1.formula.iff pair.2.1.formula).vars).length ≤ argument.config.maxVariables := by
    refine Nat.le_trans (List.Nodup.subperm distinct ?_).length_le wellFormed.limit
    intro name member
    rw [order.mem_iff,Formula.mem_vars,Formula.iff,Formula.leaves_biconditional] at member
    rcases List.mem_append.mp member with leaf | leaf
    · exact wellFormed.within _ left leaf
    · exact wellFormed.within _ right leaf
  have made : Proposition.ofFormula (pair.1.1.formula.iff pair.2.1.formula)
      { argument.config with showConstituents := false } =
        .ok (argument.biconditional pair.1.1.formula pair.2.1.formula) := by
    simp [Proposition.ofFormula,Proposition.assemble,Config.allow,Nat.not_lt_of_le limit,
      biconditional]
  have answered : (argument.biconditional pair.1.1.formula pair.2.1.formula).isTautology =
      .ok (pair.1.1.formula.equivalent pair.2.1.formula) := by
    apply Proposition.isTautology_of_columns distinct
    · exact fun name leaf => order.mem_iff.mpr (Formula.mem_vars.mpr leaf)
    · rfl
    · rfl
  rw [compare,made]
  show (Proposition.isTautology _ >>= _) = _
  rw [answered]
  rfl

theorem WellFormed.equivalenceTests_eq_ok (wellFormed : argument.WellFormed)
    (comparison : Comparison) :
    argument.equivalenceTests comparison =
      .ok ((pairs comparison argument.statements.zipIdx).map argument.outcome) := by
  apply mapM_of_ok
  intro pair member
  obtain ⟨left,right⟩ := mem_of_mem_pairs member
  exact wellFormed.compare_eq_ok (List.fst_mem_of_mem_zipIdx left)
    (List.fst_mem_of_mem_zipIdx right)

theorem WellFormed.allEquivalent_iff (wellFormed : argument.WellFormed)
    (comparison : Comparison) :
    EquivalenceTest.allEquivalent
        ((pairs comparison argument.statements.zipIdx).map argument.outcome) ↔
      argument.StatementsAgree := by
  rw [wellFormed.statementsAgree_iff,EquivalenceTest.allEquivalent,List.all_map,List.all_eq_true]
  have compared := forall_pairs_iff (R := fun left right : Proposition × Nat =>
      left.1.formula.equivalent right.1.formula) (fun _ => Formula.equivalent_refl _)
    Formula.equivalent_symm Formula.equivalent_trans comparison argument.statements.zipIdx
  refine compared.trans ⟨fun all left memberLeft right memberRight => ?_,fun all left memberLeft
    right memberRight => ?_⟩
  · rw [← List.zipIdx_map_fst 0 argument.statements] at memberLeft memberRight
    obtain ⟨left,placed,rfl⟩ := List.mem_map.mp memberLeft
    obtain ⟨right,placed',rfl⟩ := List.mem_map.mp memberRight
    exact all left placed right placed'
  · exact all _ (List.fst_mem_of_mem_zipIdx memberLeft) _ (List.fst_mem_of_mem_zipIdx memberRight)

theorem passes_equivalent_iff {cells : List Bool} :
    argument.passes .equivalent cells ↔ ∀ value ∈ argument.statementCells cells,
      ∀ other ∈ argument.statementCells cells, value = other := by
  rw [passes]
  cases argument.statementCells cells with
  | nil => simp
  | cons first others =>
    simp only [List.all_eq_true,beq_iff_eq]
    constructor
    · intro same
      have first_value : ∀ value ∈ first :: others, value = first :=
        List.forall_mem_cons.mpr ⟨rfl,same⟩
      exact fun value member other member' =>
        (first_value value member).trans (first_value other member').symm
    · exact fun same value member =>
        same value (List.mem_cons_of_mem _ member) first (List.mem_cons_self ..)

theorem WellFormed.marks_iff (wellFormed : argument.WellFormed) :
    (∀ mark ∈ argument.filled.rows.map (argument.passes .equivalent), mark = true) ↔
      argument.StatementsAgree := by
  have onRow (truth : String → Bool) : argument.passes .equivalent (TruthTable.cellsOf argument.vars
      (argument.statements.map Proposition.formula) (argument.vars.map truth)) ↔
        ∀ left ∈ argument.statements, ∀ right ∈ argument.statements,
          left.formula.value truth = right.formula.value truth := by
    rw [passes_equivalent_iff,statementCells_cellsOf (List.length_map truth),values]
    simp only [List.forall_mem_map]
    refine forall₂_congr fun left memberLeft => forall₂_congr fun right memberRight => ?_
    rw [Formula.value_ofRow_map wellFormed.distinct (wellFormed.within _ memberLeft),
      Formula.value_ofRow_map wellFormed.distinct (wellFormed.within _ memberRight)]
  have onRows : (∀ mark ∈ argument.filled.rows.map (argument.passes .equivalent), mark = true) ↔
      ∀ row : List Bool, row.length = argument.vars.length →
        argument.passes .equivalent (TruthTable.cellsOf argument.vars
          (argument.statements.map Proposition.formula) row) := by
    simp [filled,TruthTable.filled,mem_rows]
  rw [onRows,forall_rows_iff wellFormed.distinct,wellFormed.statementsAgree_iff]
  simp only [onRow,Formula.equivalent_iff]
  constructor
  · intro all left memberLeft right memberRight truth
    exact all truth left memberLeft right memberRight
  · intro all truth left memberLeft right memberRight
    exact all left memberLeft right memberRight truth

/-- The places of the statements that a test compares. -/
def sides (test : EquivalenceTest) : Nat × Nat := (test.left,test.right)

theorem map_sides_outcome (comparison : Comparison) :
    ((pairs comparison argument.statements.zipIdx).map argument.outcome).map sides =
      pairs comparison (List.range' 0 argument.statements.length) := by
  have swap : sides ∘ argument.outcome = Prod.map Prod.snd Prod.snd := rfl
  rw [List.map_map,swap,map_pairs,List.zipIdx_map_snd]

theorem outcome_of_mem {comparison : Comparison} {test : EquivalenceTest}
    (member : test ∈ (pairs comparison argument.statements.zipIdx).map argument.outcome) :
    ∃ left right, argument.statements[test.left]? = some left ∧
      argument.statements[test.right]? = some right ∧
      test.equivalent = left.formula.equivalent right.formula := by
  obtain ⟨pair,paired,rfl⟩ := List.mem_map.mp member
  obtain ⟨left,right⟩ := mem_of_mem_pairs paired
  exact ⟨pair.1.1,pair.2.1,List.mem_zipIdx_iff_getElem?.mp left,
    List.mem_zipIdx_iff_getElem?.mp right,rfl⟩

/-- Both ways of comparing the statements succeed. They find all of them equivalent exactly if the
statements agree under every assignment, and so do the marks of the rows. Comparing pairwise tests
each pair once, and a test finds its statements equivalent if their formulas are. -/
theorem equivalence_tests_agree {argument : Argument} (accepted : argument.Accepted) :
    ∃ direct pairwise marks, argument.equivalenceTests .direct = .ok direct ∧
      argument.equivalenceTests .pairwise = .ok pairwise ∧
      argument.marks .equivalent = .ok marks ∧
      (EquivalenceTest.allEquivalent direct ↔ argument.StatementsAgree) ∧
      (EquivalenceTest.allEquivalent pairwise ↔ argument.StatementsAgree) ∧
      ((∀ mark ∈ marks, mark = true) ↔ argument.StatementsAgree) ∧
      (pairwise.map sides).Nodup ∧
      (∀ i j, (i,j) ∈ pairwise.map sides ↔ i < j ∧ j < argument.statements.length) ∧
      ∀ test ∈ direct ++ pairwise, ∃ left right, argument.statements[test.left]? = some left ∧
        argument.statements[test.right]? = some right ∧
        test.equivalent = left.formula.equivalent right.formula := by
  have wellFormed := accepted.wellFormed
  refine ⟨_,_,_,wellFormed.equivalenceTests_eq_ok .direct,
    wellFormed.equivalenceTests_eq_ok .pairwise,wellFormed.marks_eq_ok .equivalent,
    wellFormed.allEquivalent_iff .direct,wellFormed.allEquivalent_iff .pairwise,
    wellFormed.marks_iff,?_,?_,?_⟩
  · rw [map_sides_outcome]
    exact nodup_pairs_pairwise List.nodup_range'
  · intro i j
    rw [map_sides_outcome,mem_pairs_pairwise List.pairwise_lt_range']
    simp only [List.mem_range'_1]
    omega
  · intro test member
    rcases List.mem_append.mp member with direct | pairwise
    · exact outcome_of_mem direct
    · exact outcome_of_mem pairwise

/-- `p -> q` is compared with its contrapositive and with `r or not r`, which has another
variable. -/
theorem equivalence_tests_agree_contrapositive :
    let conditional : Proposition := ⟨"p -> q",.conditional (.var "p") (.var "q"),["p","q"],{}⟩
    let contrapositive : Proposition :=
      ⟨"~q -> ~p",.conditional (.neg (.var "q")) (.neg (.var "p")),["q","p"],{}⟩
    let excluded : Proposition := ⟨"r or ~r",.junction .or [.var "r",.neg (.var "r")],["r"],{}⟩
    let argument : Argument :=
      ⟨[conditional,contrapositive,excluded],none,["p","q","r"],{}⟩
    argument.Accepted ∧
      ∃ pairwise, argument.equivalenceTests .pairwise = .ok pairwise ∧
        (EquivalenceTest.allEquivalent pairwise ↔ argument.StatementsAgree) ∧
        pairwise.map (fun test => (sides test,test.equivalent)) =
          [((0,1),true),((0,2),false),((1,2),false)] := by
  intro conditional contrapositive excluded argument
  have accepted : argument.Accepted := by
    have made : make [conditional,contrapositive,excluded] none {} = .ok argument := rfl
    exact .made made
  obtain ⟨direct,pairwise,marks,-,tested,-,-,agree,-⟩ := equivalence_tests_agree accepted
  have answer : (argument.equivalenceTests .pairwise).toOption.map
      (·.map fun test => (sides test,test.equivalent)) =
        some [((0,1),true),((0,2),false),((1,2),false)] := by
    decide +kernel
  rw [tested] at answer
  exact ⟨accepted,pairwise,tested,agree,Option.some.inj answer⟩

end Argument
end Sentential
