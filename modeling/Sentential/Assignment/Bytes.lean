import Sentential.Formula.Bytes

/-! Assignments as they come about by writing to them. They keep a byte for each variable, and a
formula takes the bytes as it finds them: that they are 0 or 1 is up to the writes. -/
namespace Sentential

/-- What is kept of a byte: 1 for any but 0. -/
def keptByte (byte : UInt8) : UInt8 := (byte != 0).toUInt8

structure ByteAssignment where
  entries : List (String × UInt8)
  deriving DecidableEq, Repr

namespace ByteAssignment

def empty : ByteAssignment := ⟨[]⟩

/-- The entries with the byte of a name replaced in its place, or with a new one behind them. -/
def put (name : String) (byte : UInt8) : List (String × UInt8) → List (String × UInt8)
  | [] => [(name, byte)]
  | entry :: entries =>
    if entry.1 = name then (name, byte) :: entries else entry :: put name byte entries

def insert (assignment : ByteAssignment) (name : String) (byte : UInt8) : ByteAssignment :=
  ⟨put name (keptByte byte) assignment.entries⟩

/-- Inserts pairs one after the other. -/
def collect (pairs : List (String × UInt8)) : ByteAssignment :=
  pairs.foldl (fun assignment pair => assignment.insert pair.1 pair.2) empty

/-- Gives each variable the byte at its place, as far as both lists go. -/
def ofRow (vars : List String) (bytes : List UInt8) : ByteAssignment := collect (vars.zip bytes)

def get? (assignment : ByteAssignment) (name : String) : Option UInt8 :=
  assignment.entries.lookup name

/-- The names with a byte, in the order in which they are gone through. -/
def names (assignment : ByteAssignment) : List String := assignment.entries.map Prod.fst

end ByteAssignment

/-- What can be done to an assignment. All but `insert` start it anew. -/
inductive Write where
  | new
  | ofRow (vars : List String) (bytes : List UInt8)
  | collect (pairs : List (String × UInt8))
  | insert (name : String) (byte : UInt8)
  deriving DecidableEq, Repr

namespace Write

def apply (assignment : ByteAssignment) : Write → ByteAssignment
  | .new => .empty
  | .ofRow vars bytes => .ofRow vars bytes
  | .collect pairs => .collect pairs
  | .insert name byte => assignment.insert name byte

/-- The pairs written since an assignment was last started anew, with one write more. -/
def record (pairs : List (String × UInt8)) : Write → List (String × UInt8)
  | .new => []
  | .ofRow vars bytes => vars.zip bytes
  | .collect pairs => pairs
  | .insert name byte => pairs ++ [(name, byte)]

/-- The assignment after some writes. -/
def run (writes : List Write) : ByteAssignment := writes.foldl apply .empty

/-- The pairs that make up an assignment after some writes. -/
def recorded (writes : List Write) : List (String × UInt8) := writes.foldl record []

end Write

namespace Formula

mutual

/-- The value of a formula where variables have bytes of any kind. -/
def evalBytes (byte? : String → Option UInt8) : Formula → Except ByteFault UInt8
  | .var name =>
    match byte? name with
    | some byte => .ok byte
    | none => .error (.unassigned name)
  | .neg operand => do complement (← operand.evalBytes byte?)
  | .junction kind operands => joinBytes byte? kind kind.unit operands
  | .conditional left right => do
    let refuted ← complement (← left.evalBytes byte?)
    let consequence ← right.evalBytes byte?
    return refuted ||| consequence
  | .biconditional left right => do
    let one ← left.evalBytes byte?
    let other ← right.evalBytes byte?
    return (one == other).toUInt8

/-- Joins the values of operands to what was joined before. -/
def joinBytes (byte? : String → Option UInt8) (kind : Junction) (joined : UInt8) :
    List Formula → Except ByteFault UInt8
  | [] => .ok joined
  | operand :: operands => do
    joinBytes byte? kind (kind.bits joined (← operand.evalBytes byte?)) operands

end

end Formula
end Sentential
