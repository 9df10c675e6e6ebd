import Sentential.Formula.Semantics

/-! Truth values as bytes, 0 for false and 1 for true. Formulas are evaluated with the operations of
bytes: a negation takes the value of its operand from 1, a junction folds a bitwise operation over the
values of its operands. On bytes other than 0 and 1 these have nothing to do with truth, and the
subtraction fails. -/
namespace Sentential

inductive ByteFault where
  /-- A variable of the formula has no value. -/
  | unassigned (name : String)
  /-- A subtraction went below zero. -/
  | underflow
  deriving DecidableEq, Repr

/-- What is left of 1 without a byte. -/
def complement (byte : UInt8) : Except ByteFault UInt8 :=
  if byte ≤ 1 then .ok (1 - byte) else .error .underflow

def Junction.bits : Junction → UInt8 → UInt8 → UInt8
  | .and, one, other => one &&& other
  | .or, one, other => one ||| other
  | .xor, one, other => one ^^^ other

/-- The byte from which a junction starts. -/
def Junction.unit : Junction → UInt8
  | .and => 1
  | .or | .xor => 0

/-- Gives each variable the byte at its place. Any byte but 0 counts as true. -/
def Assignment.ofBytes (vars : List String) (bytes : List UInt8) : Assignment :=
  .ofRow vars (bytes.map (· != 0))

namespace Formula

mutual

/-- The value of a formula as a byte. All operands are evaluated, from left to right. -/
def evalByte (assignment : Assignment) : Formula → Except ByteFault UInt8
  | .var name =>
    match assignment.get? name with
    | some value => .ok value.toUInt8
    | none => .error (.unassigned name)
  | .neg operand => do complement (← operand.evalByte assignment)
  | .junction kind operands => foldBytes assignment kind kind.unit operands
  | .conditional left right => do
    let refuted ← complement (← left.evalByte assignment)
    let consequence ← right.evalByte assignment
    return refuted ||| consequence
  | .biconditional left right => do
    let one ← left.evalByte assignment
    let other ← right.evalByte assignment
    return (one == other).toUInt8

/-- Joins the values of operands to what was joined before. -/
def foldBytes (assignment : Assignment) (kind : Junction) (joined : UInt8) :
    List Formula → Except ByteFault UInt8
  | [] => .ok joined
  | operand :: operands => do
    foldBytes assignment kind (kind.bits joined (← operand.evalByte assignment)) operands

end

end Formula
end Sentential
