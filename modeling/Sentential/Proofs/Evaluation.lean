import Sentential.Formula.Bytes
import Sentential.Proofs.Valuation

/-! What evaluating a formula gives under any assignment, complete or not: its value, or the first of
its variables that has none. Evaluating with bytes gives the same, and never takes more than 1 from 1,
since the values of operands are 0 or 1. -/
namespace Sentential

namespace Assignment

theorem missing_eq_none {assignment : Assignment} {names : List String} :
    assignment.missing? names = none ↔ assignment.Covers names := by
  simp [missing?,Covers,Option.ne_none_iff_isSome]

end Assignment

/-- What comes of it in bytes. -/
def asBytes (f : α → β) : Except EvaluationError α → Except ByteFault β
  | .ok value => .ok (f value)
  | .error (.unassigned name) => .error (.unassigned name)

theorem asBytes_ne_underflow {f : α → β} {result : Except EvaluationError α} :
    asBytes f result ≠ .error .underflow := by
  intro same
  cases result with
  | ok => cases same
  | error error => cases error; cases same

theorem complement_toUInt8 (value : Bool) : complement value.toUInt8 = .ok (!value).toUInt8 := by
  cases value <;> rfl

theorem Junction.bits_toUInt8 (kind : Junction) (one other : Bool) :
    kind.bits one.toUInt8 other.toUInt8 = (kind.connective.value one other).toUInt8 := by
  cases kind <;> cases one <;> cases other <;> rfl

/-- The value from which a junction starts. -/
def Junction.neutral (kind : Junction) : Bool := kind.value []

theorem Junction.unit_eq (kind : Junction) : kind.unit = kind.neutral.toUInt8 := by
  cases kind <;> rfl

theorem Junction.value_eq_foldl (kind : Junction) (values : List Bool) :
    kind.value values = values.foldl kind.connective.value kind.neutral := by
  cases kind <;> rfl

namespace Formula

variable {assignment : Assignment}

theorem evalEach_of_missing {operands : List Formula} {name : String}
    (each : ∀ operand ∈ operands, assignment.missing? operand.leaves = some name →
      operand.eval assignment = .error (.unassigned name))
    (first : assignment.missing? (operands.flatMap leaves) = some name) :
    evalEach assignment operands = .error (.unassigned name) := by
  induction operands with
  | nil => cases first
  | cons operand operands ih =>
    obtain ⟨ofFirst,each⟩ := List.forall_mem_cons.mp each
    rw [List.flatMap_cons,Assignment.missing_append,Option.or_eq_some_iff] at first
    rcases first with inFirst | ⟨complete,inOthers⟩
    · rw [evalEach,ofFirst inFirst]
      rfl
    · rw [evalEach,eval_of_covers (Assignment.missing_eq_none.mp complete) (List.Subset.refl _),
        ih each inOthers]
      rfl

/-- No operand is skipped, so the error names the first variable without a value. -/
theorem eval_of_missing (formula : Formula) {name : String}
    (first : assignment.missing? formula.leaves = some name) :
    formula.eval assignment = .error (.unassigned name) := by
  have both {left right : Formula}
      (ofLeft : assignment.missing? left.leaves = some name →
        left.eval assignment = .error (.unassigned name))
      (ofRight : assignment.missing? right.leaves = some name →
        right.eval assignment = .error (.unassigned name))
      (first : assignment.missing? (left.leaves ++ right.leaves) = some name)
      (join : Bool → Bool → Bool) :
      (do return join (← left.eval assignment) (← right.eval assignment)) =
        (Except.error (.unassigned name) : Except EvaluationError Bool) := by
    rw [Assignment.missing_append,Option.or_eq_some_iff] at first
    rcases first with inLeft | ⟨complete,inRight⟩
    · rw [ofLeft inLeft]
      rfl
    · rw [eval_of_covers (Assignment.missing_eq_none.mp complete) (List.Subset.refl _),
        ofRight inRight]
      rfl
  induction formula using ind with
  | var text =>
    have missing := List.find?_some first
    obtain rfl := List.mem_singleton.mp (List.mem_of_find?_eq_some first)
    rw [Option.isNone_iff_eq_none] at missing
    simp only [eval,missing]
  | neg operand ih =>
    rw [leaves_neg] at first
    rw [eval,ih first]
    rfl
  | junction kind operands ih =>
    rw [leaves_junction] at first
    rw [eval,evalEach_of_missing ih first]
    rfl
  | conditional left right ihLeft ihRight =>
    rw [leaves_conditional] at first
    exact both ihLeft ihRight first fun premise consequence => !premise || consequence
  | biconditional left right ihLeft ihRight =>
    rw [leaves_biconditional] at first
    exact both ihLeft ihRight first (· == ·)

/-- Evaluating gives the value of a formula, or the first of its variables without a value. -/
theorem eval_eq (formula : Formula) (assignment : Assignment) :
    formula.eval assignment =
      match assignment.missing? formula.leaves with
      | some name => .error (.unassigned name)
      | none => .ok (formula.value assignment.truth) := by
  split
  · next first => exact formula.eval_of_missing first
  · next complete =>
    exact eval_of_covers (Assignment.missing_eq_none.mp complete) (List.Subset.refl _)

theorem foldBytes_eq {operands : List Formula} (kind : Junction) (joined : Bool)
    (each : ∀ operand ∈ operands,
      operand.evalByte assignment = asBytes Bool.toUInt8 (operand.eval assignment)) :
    foldBytes assignment kind joined.toUInt8 operands =
      asBytes (fun values => (values.foldl kind.connective.value joined).toUInt8)
        (evalEach assignment operands) := by
  induction operands generalizing joined with
  | nil => rfl
  | cons operand operands ih =>
    obtain ⟨first,each⟩ := List.forall_mem_cons.mp each
    rw [foldBytes,evalEach,first]
    cases operand.eval assignment with
    | error error => cases error; rfl
    | ok value =>
      change foldBytes assignment kind (kind.bits joined.toUInt8 value.toUInt8) operands = _
      rw [Junction.bits_toUInt8,ih _ each]
      cases evalEach assignment operands with
      | error error => cases error; rfl
      | ok => rfl

theorem evalByte_eq (formula : Formula) (assignment : Assignment) :
    formula.evalByte assignment = asBytes Bool.toUInt8 (formula.eval assignment) := by
  induction formula using ind with
  | var name =>
    rw [evalByte,eval]
    cases assignment.get? name <;> rfl
  | neg operand ih =>
    rw [evalByte,eval,ih]
    cases operand.eval assignment with
    | error error => cases error; rfl
    | ok value => exact complement_toUInt8 value
  | junction kind operands ih =>
    rw [evalByte,eval,Junction.unit_eq,foldBytes_eq kind _ ih]
    cases evalEach assignment operands with
    | error error => cases error; rfl
    | ok values => exact congrArg Except.ok (congrArg Bool.toUInt8 (kind.value_eq_foldl values).symm)
  | conditional left right ihLeft ihRight =>
    rw [evalByte,eval,ihLeft,ihRight]
    cases left.eval assignment with
    | error error => cases error; rfl
    | ok premise =>
      cases right.eval assignment with
      | error error => cases error; cases premise <;> rfl
      | ok consequence => cases premise <;> cases consequence <;> rfl
  | biconditional left right ihLeft ihRight =>
    rw [evalByte,eval,ihLeft,ihRight]
    cases left.eval assignment with
    | error error => cases error; rfl
    | ok one =>
      cases right.eval assignment with
      | error error => cases error; rfl
      | ok other => cases one <;> cases other <;> rfl

/-- The values of operands are 0 or 1, so nothing more is taken from 1. -/
theorem evalByte_ne_underflow (formula : Formula) (assignment : Assignment) :
    formula.evalByte assignment ≠ .error .underflow := by
  rw [evalByte_eq]
  exact asBytes_ne_underflow

end Formula
end Sentential
