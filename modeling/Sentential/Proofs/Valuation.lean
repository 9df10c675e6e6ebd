import Sentential.Proofs.Canonical
import Sentential.Proofs.Variables

/-! The value of a formula where every variable has one, and the questions about all its values that
are answered row by row. Evaluating under an assignment gives that value as soon as the variables of
the formula are covered, and the rows over its variables stand for all valuations. -/
namespace Sentential

namespace Formula

/-- Induction on formulas, with a hypothesis for each operand of a junction. -/
@[elab_as_elim]
theorem ind {motive : Formula → Prop} (var : ∀ name, motive (.var name))
    (neg : ∀ operand, motive operand → motive (.neg operand))
    (junction : ∀ kind operands, (∀ operand ∈ operands, motive operand) →
      motive (.junction kind operands))
    (conditional : ∀ left right, motive left → motive right → motive (.conditional left right))
    (biconditional : ∀ left right, motive left → motive right →
      motive (.biconditional left right)) :
    ∀ formula, motive formula
  | .var name => var name
  | .neg operand => neg operand (ind var neg junction conditional biconditional operand)
  | .junction kind operands =>
    junction kind operands fun operand _ => ind var neg junction conditional biconditional operand
  | .conditional left right =>
    conditional left right (ind var neg junction conditional biconditional left)
      (ind var neg junction conditional biconditional right)
  | .biconditional left right =>
    biconditional left right (ind var neg junction conditional biconditional left)
      (ind var neg junction conditional biconditional right)

/-- The value of a formula where every name has a value. -/
def value (truth : String → Bool) : Formula → Bool :=
  fold fun node =>
    match node with
    | .var name => truth name
    | .neg operand => !operand
    | .junction kind operands => kind.value operands
    | .conditional left right => !left || right
    | .biconditional left right => left == right

section

variable (truth : String → Bool)

@[simp] theorem value_var (name : String) : (var name).value truth = truth name := rfl

@[simp] theorem value_neg (operand : Formula) :
    (neg operand).value truth = !operand.value truth := rfl

@[simp] theorem value_junction (kind : Junction) (operands : List Formula) :
    (junction kind operands).value truth = kind.value (operands.map (value truth)) := by
  simp only [value,fold,foldEach_eq_map]

@[simp] theorem value_conditional (left right : Formula) :
    (conditional left right).value truth = (!left.value truth || right.value truth) := rfl

@[simp] theorem value_biconditional (left right : Formula) :
    (biconditional left right).value truth = (left.value truth == right.value truth) := rfl

end

variable {assignment : Assignment} {truth : String → Bool}

theorem evalEach_of_ok {formulas : List Formula} {value : Formula → Bool}
    (evaluated : ∀ formula ∈ formulas, formula.eval assignment = .ok (value formula)) :
    evalEach assignment formulas = .ok (formulas.map value) := by
  induction formulas with
  | nil => rfl
  | cons formula formulas ih =>
    obtain ⟨first,evaluated⟩ := List.forall_mem_cons.mp evaluated
    rw [evalEach,first,ih evaluated]
    rfl

/-- Where all variables have values, evaluating gives the value of the formula. -/
theorem eval_of_assigned (formula : Formula)
    (assigned : ∀ name ∈ formula.leaves, assignment.get? name = some (truth name)) :
    formula.eval assignment = .ok (formula.value truth) := by
  induction formula using ind with
  | var name => simp only [eval,assigned name (List.mem_singleton_self name),value_var]
  | neg operand ih =>
    rw [leaves_neg] at assigned
    rw [eval,ih assigned]
    rfl
  | junction kind operands ih =>
    have evaluated : ∀ operand ∈ operands, operand.eval assignment = .ok (operand.value truth) := by
      intro operand member
      apply ih operand member
      intro name leaf
      apply assigned
      rw [leaves_junction]
      exact List.mem_flatMap.mpr ⟨operand,member,leaf⟩
    rw [eval,evalEach_of_ok evaluated,value_junction]
    rfl
  | conditional left right ihLeft ihRight =>
    rw [leaves_conditional] at assigned
    obtain ⟨ofLeft,ofRight⟩ := List.forall_mem_append.mp assigned
    rw [eval,ihLeft ofLeft,ihRight ofRight]
    rfl
  | biconditional left right ihLeft ihRight =>
    rw [leaves_biconditional] at assigned
    obtain ⟨ofLeft,ofRight⟩ := List.forall_mem_append.mp assigned
    rw [eval,ihLeft ofLeft,ihRight ofRight]
    rfl

theorem eval_of_covers {formula : Formula} {names : List String}
    (covers : assignment.Covers names) (within : formula.leaves ⊆ names) :
    formula.eval assignment = .ok (formula.value assignment.truth) :=
  formula.eval_of_assigned fun _ leaf => covers.get? (within leaf)

/-- On the row of a valuation a formula has the value that it has under the valuation. -/
theorem eval_ofRow_map {formula : Formula} {vars : List String} (distinct : vars.Nodup)
    (within : formula.leaves ⊆ vars) (truth : String → Bool) :
    formula.eval (.ofRow vars (vars.map truth)) = .ok (formula.value truth) :=
  formula.eval_of_assigned fun _ leaf => Assignment.get_ofRow_map distinct truth (within leaf)

theorem value_ofRow_map {formula : Formula} {vars : List String} (distinct : vars.Nodup)
    (within : formula.leaves ⊆ vars) (truth : String → Bool) :
    formula.value (Assignment.ofRow vars (vars.map truth)).truth = formula.value truth := by
  have covers := Assignment.covers_ofRow distinct (List.length_map truth)
  exact Except.ok.inj
    ((eval_of_covers covers within).symm.trans (eval_ofRow_map distinct within truth))

end Formula

theorem mem_rows {reversed : Bool} {width : Nat} {row : List Bool} :
    row ∈ rows reversed width ↔ row.length = width := by
  induction width generalizing row with
  | zero => simp [rows]
  | succ width ih =>
    cases row with
    | nil => simp [rows]
    | cons value row =>
      simp only [rows,List.mem_append,List.mem_map,List.cons.injEq,List.length_cons,
        Nat.add_right_cancel_iff,← ih]
      cases value <;> cases reversed <;> simp

theorem allRows_iff {width : Nat} {p : List Bool → Bool} :
    allRows width p ↔ ∀ row : List Bool, row.length = width → p row := by
  induction width generalizing p with
  | zero => simp [allRows]
  | succ width ih =>
    rw [allRows,Bool.and_eq_true,ih,ih]
    constructor
    · rintro ⟨whenFalse,whenTrue⟩ row wide
      obtain ⟨value,row,rfl⟩ := List.exists_cons_of_length_eq_add_one wide
      cases value with
      | false => exact whenFalse row (Nat.succ.inj wide)
      | true => exact whenTrue row (Nat.succ.inj wide)
    · intro all
      exact ⟨fun row wide => all (false :: row) (congrArg Nat.succ wide),
        fun row wide => all (true :: row) (congrArg Nat.succ wide)⟩

/-- What holds of the rows of all valuations holds of all rows. -/
theorem forall_rows_iff {vars : List String} (distinct : vars.Nodup) {p : List Bool → Prop} :
    (∀ row : List Bool, row.length = vars.length → p row) ↔
      ∀ truth : String → Bool, p (vars.map truth) := by
  constructor
  · exact fun all truth => all _ (List.length_map _)
  · intro all row wide
    obtain ⟨truth,rfl⟩ := Assignment.exists_valuation distinct wide
    exact all truth

namespace Formula

theorem isConstantly_iff {formula : Formula} {expected : Bool} :
    formula.isConstantly expected ↔ ∀ truth : String → Bool, formula.value truth = expected := by
  have distinct : formula.vars.Nodup := nodup_distinct _
  have within : formula.leaves ⊆ formula.vars := fun _ leaf => mem_vars.mpr leaf
  rw [isConstantly,allRows_iff,forall_rows_iff distinct]
  apply forall_congr'
  intro truth
  rw [valueOn,eval_ofRow_map distinct within truth,beq_iff_eq]

theorem isTautology_iff {formula : Formula} :
    formula.isTautology ↔ ∀ truth : String → Bool, formula.value truth = true :=
  isConstantly_iff

theorem equivalent_iff {left right : Formula} :
    left.equivalent right ↔
      ∀ truth : String → Bool, left.value truth = right.value truth := by
  simp only [equivalent,isTautology_iff,iff,value_biconditional,beq_iff_eq]

/-- A formula has the value of what it contributes to a junction. -/
theorem value_spliced (truth : String → Bool) (kind : Junction) (formula : Formula) :
    kind.value ((formula.spliced kind).map (value truth)) = formula.value truth := by
  by_cases same : formula.connective? = some kind.connective
  · obtain ⟨operands,rfl⟩ := exists_junction_of_connective same
    rw [spliced_junction,value_junction]
  · rw [spliced_of_ne same,List.map_singleton,value_singleton]

theorem value_join (truth : String → Bool) (kind : Junction) (left right : Formula) :
    (join kind left right).value truth =
      kind.connective.value (left.value truth) (right.value truth) := by
  rw [join,value_junction,List.map_append,value_append,value_spliced,value_spliced]

@[simp] theorem value_and (truth : String → Bool) (left right : Formula) :
    (left.and right).value truth = (left.value truth && right.value truth) :=
  value_join truth .and left right

end Formula
end Sentential
