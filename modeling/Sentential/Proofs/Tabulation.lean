import Mathlib.Data.List.Forall2
import Sentential.Argument
import Sentential.Proofs.Enumeration
import Sentential.Proofs.Grammar

/-! Filling tables. A table over the variables of its formulas is never refused, its rows are all
the rows of values, and behind each row stand the values of the formulas under what the row assigns.
An argument is made with the variables of all its statements, so its table is such a table. -/
namespace Sentential

theorem mapM_of_ok {f : α → Except ε β} {g : α → β} {xs : List α}
    (each : ∀ x ∈ xs, f x = .ok (g x)) : xs.mapM f = .ok (xs.map g) := by
  induction xs with
  | nil => rfl
  | cons x xs ih =>
    obtain ⟨first,each⟩ := List.forall_mem_cons.mp each
    rw [List.mapM_cons,first,ih each]
    rfl

/-- What is made of each element, where none is refused. -/
theorem forall₂_of_mapM {f : α → Except ε β} {xs : List α} {ys : List β}
    (made : xs.mapM f = .ok ys) : List.Forall₂ (fun x y => f x = .ok y) xs ys := by
  induction xs generalizing ys with
  | nil =>
    cases made
    exact .nil
  | cons x xs ih =>
    rw [List.mapM_cons] at made
    obtain ⟨y,first,made⟩ := bind_eq_ok.mp made
    obtain ⟨ys,others,made⟩ := bind_eq_ok.mp made
    cases made
    exact .cons first (ih others)

theorem exists_of_forall₂_left {R : α → β → Prop} {xs : List α} {ys : List β} {x : α}
    (related : List.Forall₂ R xs ys) (member : x ∈ xs) : ∃ y ∈ ys, R x y := by
  induction related with
  | nil => cases member
  | cons first _ ih =>
    rcases List.mem_cons.mp member with rfl | member
    · exact ⟨_,List.mem_cons_self ..,first⟩
    · obtain ⟨y,later,related⟩ := ih member
      exact ⟨y,List.mem_cons_of_mem _ later,related⟩

theorem exists_of_forall₂_right {R : α → β → Prop} {xs : List α} {ys : List β} {y : β}
    (related : List.Forall₂ R xs ys) (member : y ∈ ys) : ∃ x ∈ xs, R x y :=
  exists_of_forall₂_left related.flip member

theorem exists_of_mem_mapM {f : α → Except ε β} {xs : List α} {ys : List β} {y : β}
    (made : xs.mapM f = .ok ys) (member : y ∈ ys) : ∃ x ∈ xs, f x = .ok y := by
  obtain ⟨x,of,made⟩ := exists_of_forall₂_right (forall₂_of_mapM made) member
  exact ⟨x,of,made⟩

theorem mapM_map_ok {f : α → Except ε β} {g : α → Except ε' γ} {h : β → γ}
    (each : ∀ x y, f x = .ok y → g x = .ok (h y)) {xs : List α} {ys : List β}
    (made : xs.mapM f = .ok ys) : xs.mapM g = .ok (ys.map h) := by
  have related := forall₂_of_mapM made
  clear made
  induction related with
  | nil => rfl
  | cons first _ ih =>
    rw [List.mapM_cons,each _ _ first,ih]
    rfl

theorem option_mapM_map_ok {f : α → Except ε β} {g : α → Except ε' γ} {h : β → γ}
    (each : ∀ x y, f x = .ok y → g x = .ok (h y)) {x? : Option α} {y? : Option β}
    (made : x?.mapM f = .ok y?) : x?.mapM g = .ok (y?.map h) := by
  cases x? with
  | none =>
    cases made
    rfl
  | some x =>
    obtain ⟨y,first,made⟩ := bind_eq_ok.mp made
    cases made
    rw [Option.mapM_some,each x y first]
    rfl

theorem forall₂_of_forall₂ {R : α → β → Prop} {S : α → γ → Prop} {T : β → γ → Prop}
    (each : ∀ x y z, R x y → S x z → T y z) {xs : List α} {ys : List β} {zs : List γ}
    (left : List.Forall₂ R xs ys) (right : List.Forall₂ S xs zs) : List.Forall₂ T ys zs := by
  induction left generalizing zs with
  | nil =>
    cases right
    exact .nil
  | cons first _ ih =>
    cases right with
    | cons other right => exact .cons (each _ _ _ first other) (ih right)

theorem Config.allow_eq_ok {config : Config} {count : Nat} :
    config.allow count = .ok () ↔ count ≤ config.maxVariables := by
  rw [Config.allow]
  split <;> simp <;> omega

namespace TruthTable

/-- The cells of a row: its values, then those of the formulas under what it assigns. -/
def cellsOf (vars : List String) (formulas : List Formula) (row : List Bool) : List Bool :=
  row ++ formulas.map (Formula.value (Assignment.ofRow vars row).truth)

/-- The table that has the cells of every row. -/
def filled (vars : List String) (formulas : List Formula) (reversed : Bool) : TruthTable :=
  ⟨vars,vars ++ formulas.map Formula.text,
    (Sentential.rows reversed vars.length).map (cellsOf vars formulas)⟩

section

variable {vars : List String} {formulas : List Formula} {reversed : Bool}

theorem build_eq_ok (distinct : vars.Nodup)
    (within : ∀ formula ∈ formulas, formula.leaves ⊆ vars) :
    build vars formulas reversed = .ok (filled vars formulas reversed) := by
  have fill (row : List Bool) (member : row ∈ Sentential.rows reversed vars.length) :
      fillRow vars formulas row = .ok (cellsOf vars formulas row) := by
    have covers := Assignment.covers_ofRow distinct (mem_rows.mp member)
    have evaluated := Formula.evalEach_of_ok fun formula of =>
      Formula.eval_of_covers covers (within formula of)
    rw [fillRow,evaluated]
    rfl
  rw [build,mapM_of_ok fill]
  rfl

theorem size_filled : (filled vars formulas reversed).size = rowTotal vars.length := by
  rw [size,filled,List.length_map,length_rows]

/-- The cells of the variables are the row itself. -/
theorem take_cellsOf {row : List Bool} (width : row.length = vars.length) :
    (cellsOf vars formulas row).take vars.length = row := by
  rw [cellsOf,← width,List.take_left]

theorem drop_cellsOf {row : List Bool} (width : row.length = vars.length) :
    (cellsOf vars formulas row).drop vars.length =
      formulas.map (Formula.value (Assignment.ofRow vars row).truth) := by
  rw [cellsOf,← width,List.drop_left]

theorem getElem_filled (place : Nat) :
    (filled vars formulas reversed).rows[place]? =
      (Sentential.rows reversed vars.length)[place]?.map (cellsOf vars formulas) :=
  List.getElem?_map

theorem width_of_getElem {place : Nat} {row : List Bool}
    (found : (Sentential.rows reversed vars.length)[place]? = some row) :
    row.length = vars.length :=
  mem_rows.mp (List.mem_of_getElem? found)

theorem assignment_filled (place : Nat) :
    (filled vars formulas reversed).assignment? place =
      (Sentential.rows reversed vars.length)[place]?.map (Assignment.ofRow vars) := by
  rw [assignment?,getElem_filled,Option.map_map]
  apply Option.map_congr
  intro row found
  have width := width_of_getElem found
  rw [Function.comp_apply]
  exact congrArg (Assignment.ofRow vars) (take_cellsOf width)

theorem column_filled {place : Nat} {formula : Formula} (found : formulas[place]? = some formula) :
    (filled vars formulas reversed).column (vars.length + place) =
      (Sentential.rows reversed vars.length).map fun row =>
        formula.value (Assignment.ofRow vars row).truth := by
  rw [column,filled,List.filterMap_map,← List.filterMap_eq_map]
  apply List.filterMap_congr
  intro row member
  have width := mem_rows.mp member
  rw [Function.comp_apply,cellsOf,← width,List.getElem?_append_right (Nat.le_add_right ..)]
  simp [found]

/-- A column that holds the values of a formula is constant if the formula is, whatever further
variables there are. -/
theorem isConstant_of_column (distinct : vars.Nodup) {index : Nat} {formula : Formula}
    (within : formula.leaves ⊆ vars) (bound : index < (filled vars formulas reversed).width)
    (column : (filled vars formulas reversed).column index =
      (Sentential.rows reversed vars.length).map fun row =>
        formula.value (Assignment.ofRow vars row).truth)
    (expected : Bool) :
    (filled vars formulas reversed).isConstant expected index = formula.isConstantly expected := by
  have onRows : ((filled vars formulas reversed).column index).all (· == expected) ↔
      ∀ row : List Bool, row.length = vars.length →
        formula.value (Assignment.ofRow vars row).truth = expected := by
    simp [column,mem_rows]
  rw [isConstant,decide_eq_true bound,Bool.true_and,Bool.eq_iff_iff,onRows,
    forall_rows_iff distinct,Formula.isConstantly_iff]
  simp only [Formula.value_ofRow_map distinct within]

theorem width_filled : (filled vars formulas reversed).width = vars.length + formulas.length := by
  simp [TruthTable.width,filled]

theorem isConstant_filled (distinct : vars.Nodup) {place : Nat} {formula : Formula}
    (found : formulas[place]? = some formula) (within : formula.leaves ⊆ vars)
    (expected : Bool) :
    (filled vars formulas reversed).isConstant expected (vars.length + place) =
      formula.isConstantly expected := by
  have bound : vars.length + place < (filled vars formulas reversed).width := by
    have := (List.getElem?_eq_some_iff.mp found).1
    rw [width_filled]
    omega
  exact isConstant_of_column distinct within bound (column_filled found) expected

end

end TruthTable

namespace Argument

/-- An argument that was made, from propositions or from statements. -/
inductive Accepted (argument : Argument) : Prop where
  | made {premises : List Proposition} {conclusion? : Option Proposition} {config : Config} :
      make premises conclusion? config = .ok argument → Accepted argument
  | parsed {premises : List String} {conclusion? : Option String} {config : Config} :
      parse premises conclusion? config = .ok argument → Accepted argument

/-- The columns of the variables are distinct and those of every statement are among them, within
the limit. -/
structure WellFormed (argument : Argument) : Prop where
  nonempty : argument.statements ≠ []
  distinct : argument.vars.Nodup
  within : ∀ statement ∈ argument.statements, statement.formula.leaves ⊆ argument.vars
  limit : argument.vars.length ≤ argument.config.maxVariables

variable {argument : Argument}

/-- An argument has a statement, and its variables are those of all statements, not too many. -/
theorem make_eq_ok {premises : List Proposition} {conclusion? : Option Proposition}
    {config : Config} :
    make premises conclusion? config = .ok argument ↔ argument.statements ≠ [] ∧
      argument.vars.length ≤ config.maxVariables ∧
      argument = ⟨premises,conclusion?,config.order.arrange (distinct
        ((premises ++ conclusion?.toList).flatMap fun statement => statement.formula.vars)),
          config⟩ := by
  constructor
  · intro made
    rw [make] at made
    split at made
    · cases made
    · next nonempty =>
      dsimp only at made
      split at made
      · next allowed =>
        cases made
        refine ⟨fun none => nonempty ?_,Config.allow_eq_ok.mp allowed,rfl⟩
        obtain ⟨noPremises,noConclusion⟩ : premises = [] ∧ conclusion?.toList = [] :=
          List.append_eq_nil_iff.mp none
        rw [Option.toList_eq_nil_iff] at noConclusion
        simp [noPremises,noConclusion]
      · cases made
  · rintro ⟨nonempty,limit,rfl⟩
    have some : ¬(premises.isEmpty && conclusion?.isNone) = true := by
      intro none
      rw [Bool.and_eq_true,List.isEmpty_iff,Option.isNone_iff_eq_none] at none
      exact nonempty (by simp [statements,none])
    rw [make,if_neg some]
    dsimp only
    rw [Config.allow_eq_ok.mpr limit]

theorem wellFormed_of_make {premises : List Proposition} {conclusion? : Option Proposition}
    {config : Config} (made : make premises conclusion? config = .ok argument) :
    argument.WellFormed := by
  obtain ⟨nonempty,limit,rfl⟩ := make_eq_ok.mp made
  have order := config.order.arrange_perm (Sentential.distinct
    ((premises ++ conclusion?.toList).flatMap fun statement => statement.formula.vars))
  refine ⟨nonempty,order.nodup_iff.mpr (nodup_distinct _),?_,limit⟩
  intro statement member name leaf
  apply order.mem_iff.mpr
  apply mem_distinct.mpr
  exact List.mem_flatMap.mpr ⟨statement,member,Formula.mem_vars.mpr leaf⟩

theorem Accepted.exists_make (accepted : argument.Accepted) :
    ∃ premises conclusion? config, make premises conclusion? config = .ok argument := by
  cases accepted with
  | made made => exact ⟨_,_,_,made⟩
  | parsed parsed =>
    obtain ⟨premises,-,made⟩ := bind_eq_ok.mp parsed
    obtain ⟨conclusion?,-,made⟩ := bind_eq_ok.mp made
    exact ⟨_,_,_,made⟩

theorem Accepted.wellFormed (accepted : argument.Accepted) : argument.WellFormed := by
  obtain ⟨_,_,_,made⟩ := accepted.exists_make
  exact wellFormed_of_make made

/-- The table of the statements over every row. -/
def filled (argument : Argument) : TruthTable :=
  .filled argument.vars (argument.statements.map Proposition.formula) argument.config.reversed

/-- The values of the statements, the conclusion last. -/
def values (argument : Argument) (truth : String → Bool) : List Bool :=
  argument.statements.map fun statement => statement.formula.value truth

theorem WellFormed.table (wellFormed : argument.WellFormed) :
    argument.table = .ok argument.filled := by
  have within : ∀ formula ∈ argument.statements.map Proposition.formula,
      formula.leaves ⊆ argument.vars := by
    intro formula member
    obtain ⟨statement,stated,rfl⟩ := List.mem_map.mp member
    exact wellFormed.within statement stated
  rw [Argument.table,TruthTable.build_eq_ok wellFormed.distinct within]
  rfl

theorem WellFormed.marks_eq_ok (wellFormed : argument.WellFormed) (mark : PlainText.Mark) :
    argument.marks mark = .ok (argument.filled.rows.map (argument.passes mark)) := by
  rw [Argument.marks,wellFormed.table]
  rfl

/-- Behind a row of values stand those of the statements. -/
theorem statementCells_cellsOf {row : List Bool} (width : row.length = argument.vars.length) :
    argument.statementCells (TruthTable.cellsOf argument.vars
      (argument.statements.map Proposition.formula) row) =
      argument.values (Assignment.ofRow argument.vars row).truth := by
  rw [statementCells,TruthTable.drop_cellsOf width,List.map_map]
  rfl

theorem WellFormed.eval {assignment : Assignment} {truth : String → Bool}
    (wellFormed : argument.WellFormed)
    (assigned : ∀ name ∈ argument.vars, assignment.get? name = some (truth name))
    {statement : Proposition} (member : statement ∈ argument.statements) :
    statement.formula.eval assignment = .ok (statement.formula.value truth) :=
  statement.formula.eval_of_assigned fun name leaf =>
    assigned name (wellFormed.within statement member leaf)

end Argument
end Sentential
