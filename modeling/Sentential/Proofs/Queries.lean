import Sentential.Proofs.Enumeration
import Sentential.Proofs.Equivalence

/-! What the queries about formulas find. They scan the rows over the variables of one formula, and
evaluating there never fails; what they answer holds under every assignment that covers these
variables. The rows stand for all assignments since only the values of the variables matter, not
the order in which they are assigned nor what else is. -/
namespace Sentential

/-- Any names can be given any values. -/
theorem Assignment.exists_of_truth (names : List String) (truth : String → Bool) :
    ∃ assignment : Assignment, ∀ name ∈ names, assignment.get? name = some (truth name) :=
  ⟨.ofRow (distinct names) ((distinct names).map truth),fun _ member =>
    get_ofRow_map (nodup_distinct names) truth (mem_distinct.mpr member)⟩

theorem Assignment.covers_of_get {assignment : Assignment} {names : List String}
    {truth : String → Bool}
    (assigned : ∀ name ∈ names, assignment.get? name = some (truth name)) :
    assignment.Covers names := by
  intro name member
  rw [assigned name member]
  rfl

namespace Formula

/-- The values on the rows over the formula's own variables, as a cursor comes to them. -/
def ownValues (formula : Formula) : List Bool :=
  (Cursor.start formula.vars.length false).toList.map (formula.valueOn formula.vars)

variable {formula : Formula}

theorem eval_of_covers_vars {assignment : Assignment} (covers : assignment.Covers formula.vars) :
    formula.eval assignment = .ok (formula.value assignment.truth) :=
  eval_of_covers covers fun _ leaf => mem_vars.mpr leaf

theorem isConstantly_eq_all (expected : Bool) (formula : Formula) :
    formula.isConstantly expected = formula.ownValues.all (· == expected) := by
  rw [isConstantly,allRows_eq_all,ownValues,Cursor.toList_start,List.all_map]
  rfl

theorem isSatisfiable_eq_any (formula : Formula) :
    formula.isSatisfiable = formula.ownValues.any (· == true) := by
  rw [isSatisfiable,isContradiction,isConstantly_eq_all,List.not_all_eq_any_not]
  congr 1
  funext value
  cases value <;> rfl

/-- On the rows over the variables of a formula evaluating never fails. -/
theorem eval_ownRow {row : List Bool} (width : row.length = formula.vars.length) :
    formula.eval (.ofRow formula.vars row) = .ok (formula.valueOn formula.vars row) := by
  have distinct : formula.vars.Nodup := nodup_distinct formula.leaves
  rw [valueOn,eval_of_covers_vars (Assignment.covers_ofRow distinct width)]

theorem isConstantly_iff_eval {expected : Bool} :
    formula.isConstantly expected ↔ ∀ assignment : Assignment,
      assignment.Covers formula.vars → formula.eval assignment = .ok expected := by
  rw [isConstantly_iff]
  constructor
  · intro constant assignment covers
    rw [eval_of_covers_vars covers,constant]
  · intro constant truth
    obtain ⟨assignment,assigned⟩ := Assignment.exists_of_truth formula.vars truth
    have evaluated := formula.eval_of_assigned fun name leaf => assigned name (mem_vars.mpr leaf)
    exact Except.ok.inj (evaluated.symm.trans
      (constant assignment (Assignment.covers_of_get assigned)))

theorem equivalent_iff_eval {left right : Formula} :
    left.equivalent right ↔ ∀ assignment : Assignment, assignment.Covers left.vars →
      assignment.Covers right.vars → ∃ value, left.eval assignment = .ok value ∧
        right.eval assignment = .ok value := by
  rw [equivalent_iff]
  constructor
  · intro same assignment ofLeft ofRight
    refine ⟨_,eval_of_covers_vars ofLeft,?_⟩
    rw [same]
    exact eval_of_covers_vars ofRight
  · intro agree truth
    obtain ⟨assignment,assigned⟩ := Assignment.exists_of_truth (left.vars ++ right.vars) truth
    obtain ⟨ofLeft,ofRight⟩ := List.forall_mem_append.mp assigned
    obtain ⟨value,evaluatedLeft,evaluatedRight⟩ :=
      agree assignment (Assignment.covers_of_get ofLeft) (Assignment.covers_of_get ofRight)
    rw [left.eval_of_assigned fun name leaf => ofLeft name (mem_vars.mpr leaf)] at evaluatedLeft
    rw [right.eval_of_assigned fun name leaf => ofRight name (mem_vars.mpr leaf)] at evaluatedRight
    exact Except.ok.inj (evaluatedLeft.trans evaluatedRight.symm)

theorem isSatisfiable_iff_eval :
    formula.isSatisfiable ↔ ∃ assignment : Assignment,
      assignment.Covers formula.vars ∧ formula.eval assignment = .ok true := by
  rw [isSatisfiable,Bool.not_eq_true',← Bool.not_eq_true,isContradiction,isConstantly_iff_eval,
    not_forall]
  refine exists_congr fun assignment => ?_
  rw [Classical.not_imp]
  refine and_congr_right fun covers => ?_
  rw [eval_of_covers_vars covers]
  simp

/-- What the queries about a formula answer. They scan the rows over its own variables and come to
know its value under every assignment that covers these, in any order and with any further names. -/
structure ExactQueries (formula : Formula) : Prop where
  tautology : formula.isTautology ↔ ∀ assignment : Assignment,
    assignment.Covers formula.vars → formula.eval assignment = .ok true
  contradiction : formula.isContradiction ↔ ∀ assignment : Assignment,
    assignment.Covers formula.vars → formula.eval assignment = .ok false
  satisfiable : formula.isSatisfiable ↔ ∃ assignment : Assignment,
    assignment.Covers formula.vars ∧ formula.eval assignment = .ok true
  satisfiable_iff_not : formula.isSatisfiable ↔ ¬formula.isContradiction
  scanned : formula.isTautology = formula.ownValues.all (· == true) ∧
    formula.isContradiction = formula.ownValues.all (· == false) ∧
    formula.isSatisfiable = formula.ownValues.any (· == true)
  evaluated : ∀ row ∈ (Cursor.start formula.vars.length false).toList,
    formula.eval (.ofRow formula.vars row) = .ok (formula.valueOn formula.vars row)

/-- The queries about formulas are exact, so that equivalence is an equivalence relation also
between formulas with different variables. -/
theorem semantic_queries_exact :
    (∀ formula : Formula, formula.ExactQueries) ∧
    (∀ left right : Formula, left.equivalent right ↔ ∀ assignment : Assignment,
      assignment.Covers left.vars → assignment.Covers right.vars →
        ∃ value, left.eval assignment = .ok value ∧ right.eval assignment = .ok value) ∧
    Equivalence fun left right : Formula => left.equivalent right = true := by
  refine ⟨fun formula => ?_,fun _ _ => equivalent_iff_eval,equivalent_refl,equivalent_symm,
    equivalent_trans⟩
  constructor
  case tautology => exact isConstantly_iff_eval
  case contradiction => exact isConstantly_iff_eval
  case satisfiable => exact isSatisfiable_iff_eval
  case satisfiable_iff_not => simp [isSatisfiable]
  case scanned =>
    exact ⟨isConstantly_eq_all true formula,isConstantly_eq_all false formula,
      isSatisfiable_eq_any formula⟩
  case evaluated =>
    intro row listed
    rw [Cursor.toList_start] at listed
    exact eval_ownRow (mem_rows.mp listed)

end Formula
end Sentential
