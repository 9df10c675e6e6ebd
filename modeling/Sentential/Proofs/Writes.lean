import Sentential.Assignment.Bytes
import Sentential.Proofs.Distinct
import Sentential.Proofs.Evaluation

/-! Assignments after any writes, and formulas under them. Every byte that is kept is 0 or 1, whatever
was written, and this is what evaluation rests on: it takes the value of an operand from 1 and joins
values bit by bit. Under such an assignment a formula has its truth value or lacks a variable, and which
of them depends on nothing but the bytes of its variables. -/
namespace Sentential

theorem lookup_cons_eq [BEq α] [LawfulBEq α] [DecidableEq α] (entry : α × β)
    (entries : List (α × β)) (name : α) : (entry :: entries).lookup name =
      if name = entry.1 then some entry.2 else entries.lookup name := by
  rw [List.lookup_cons]
  by_cases same : name = entry.1
  · rw [if_pos same,beq_iff_eq.mpr same]
  · rw [if_neg same,beq_false_of_ne same]

namespace ByteAssignment

section

variable {name : String} {byte : UInt8} {entries : List (String × UInt8)}

/-- Writing adds a name at the end if it is new. -/
theorem map_fst_put : (put name byte entries).map Prod.fst =
    if name ∈ entries.map Prod.fst then entries.map Prod.fst
    else entries.map Prod.fst ++ [name] := by
  induction entries with
  | nil => rfl
  | cons entry entries ih =>
    by_cases here : entry.1 = name
    · simp [put,here]
    · have apart : name ≠ entry.1 := Ne.symm here
      simp only [put,here,if_false,List.map_cons,ih,List.mem_cons,apart,false_or]
      split <;> rfl

theorem lookup_put (other : String) : (put name byte entries).lookup other =
    if other = name then some byte else entries.lookup other := by
  induction entries with
  | nil => exact lookup_cons_eq ..
  | cons entry entries ih =>
    by_cases here : entry.1 = name
    · rw [put,if_pos here,lookup_cons_eq,lookup_cons_eq,here]
      split <;> rfl
    · rw [put,if_neg here,lookup_cons_eq,lookup_cons_eq,ih]
      by_cases found : other = entry.1
      · have apart : other ≠ name := found ▸ here
        simp only [if_pos found,if_neg apart]
      · rw [if_neg found,if_neg found]

/-- A byte is written into the one place of its name, or behind all others. -/
theorem put_eq (unique : (entries.map Prod.fst).Nodup) : put name byte entries =
    if name ∈ entries.map Prod.fst then
      entries.map fun entry => if entry.1 = name then (name,byte) else entry
    else entries ++ [(name,byte)] := by
  induction entries with
  | nil => rfl
  | cons entry entries ih =>
    obtain ⟨fresh,unique⟩ := List.nodup_cons.mp unique
    by_cases here : entry.1 = name
    · have others : entries.map (fun entry => if entry.1 = name then (name,byte) else entry) =
          entries := by
        refine (List.map_congr_left fun other inside => if_neg ?_).trans (List.map_id entries)
        intro same
        apply fresh
        rw [here,← same]
        exact List.mem_map_of_mem inside
      simp [put,here,others]
    · have apart : name ≠ entry.1 := Ne.symm here
      simp only [put,here,if_false,List.map_cons,List.mem_cons,apart,false_or,ih unique]
      split <;> rfl

end

/-- What an assignment is once pairs were written to it one after the other: each name stands in the
place of the first pair with that name, and has what is kept of the byte in the last one. -/
structure Records (pairs : List (String × UInt8)) (assignment : ByteAssignment) : Prop where
  names : assignment.names = distinct (pairs.map Prod.fst)
  latest : ∀ name, assignment.get? name = (pairs.reverse.lookup name).map keptByte

theorem records_empty : Records [] empty := ⟨rfl,fun _ => rfl⟩

namespace Records

variable {pairs : List (String × UInt8)} {assignment : ByteAssignment}

/-- A further write. -/
theorem insert (records : Records pairs assignment) (name : String) (byte : UInt8) :
    Records (pairs ++ [(name,byte)]) (assignment.insert name byte) := by
  constructor
  · rw [List.map_append,List.map_singleton,distinct_append_singleton,← records.names]
    have known : name ∈ assignment.names ↔ name ∈ pairs.map Prod.fst := by
      rw [records.names]
      exact mem_distinct
    simp only [← known]
    exact map_fst_put
  · intro other
    rw [List.reverse_append,List.reverse_singleton,List.singleton_append,lookup_cons_eq]
    refine (lookup_put other).trans ?_
    split
    · rfl
    · exact records.latest other

/-- All writes of a list. -/
theorem insertEach (records : Records pairs assignment) (others : List (String × UInt8)) :
    Records (pairs ++ others)
      (others.foldl (fun assignment pair => assignment.insert pair.1 pair.2) assignment) := by
  induction others generalizing pairs assignment with
  | nil => rwa [List.append_nil]
  | cons pair others ih =>
    rw [List.foldl_cons,List.append_cons]
    exact ih (records.insert pair.1 pair.2)

theorem unique (records : Records pairs assignment) : assignment.names.Nodup := by
  rw [records.names]
  exact nodup_distinct _

end Records

theorem records_collect (pairs : List (String × UInt8)) : Records pairs (collect pairs) :=
  records_empty.insertEach pairs

end ByteAssignment

namespace Write

open ByteAssignment

variable {pairs : List (String × UInt8)} {assignment : ByteAssignment}

theorem records_apply (records : Records pairs assignment) (write : Write) :
    Records (record pairs write) (apply assignment write) := by
  cases write with
  | new => exact records_empty
  | ofRow vars bytes => exact records_collect (vars.zip bytes)
  | collect pairs => exact records_collect pairs
  | insert name byte => exact records.insert name byte

/-- However an assignment came about, it records the pairs since it was last started anew. -/
theorem records_run (writes : List Write) : Records (recorded writes) (run writes) := by
  have kept {pairs assignment} (records : Records pairs assignment) :
      Records (writes.foldl record pairs) (writes.foldl apply assignment) := by
    induction writes generalizing pairs assignment with
    | nil => exact records
    | cons write writes ih => exact ih (records_apply records write)
  exact kept records_empty

end Write

namespace Assignment

/-- The bytes of truth values. -/
def bytes (assignment : Assignment) : ByteAssignment :=
  ⟨assignment.entries.map fun entry => (entry.1,entry.2.toUInt8)⟩

variable {assignment : Assignment}

theorem get_bytes (assignment : Assignment) (name : String) :
    assignment.bytes.get? name = (assignment.get? name).map Bool.toUInt8 := by
  have each (entries : List (String × Bool)) :
      (entries.map fun entry => (entry.1,entry.2.toUInt8)).lookup name =
        (entries.lookup name).map Bool.toUInt8 := by
    induction entries with
    | nil => rfl
    | cons entry entries ih =>
      rw [List.map_cons,List.lookup_cons,List.lookup_cons,ih]
      cases name == entry.1 <;> rfl
  exact each assignment.entries

/-- What is kept of a byte is the byte of a truth value. -/
theorem insert_bytes (assignment : Assignment) (name : String) (byte : UInt8) :
    assignment.bytes.insert name byte = (assignment.insert name (byte != 0)).bytes := by
  have each (entries : List (String × Bool)) :
      ByteAssignment.put name (keptByte byte)
          (entries.map fun entry => (entry.1,entry.2.toUInt8)) =
        (put name (byte != 0) entries).map fun entry => (entry.1,entry.2.toUInt8) := by
    induction entries with
    | nil => rfl
    | cons entry entries ih =>
      rw [List.map_cons,ByteAssignment.put,put,ih]
      split <;> rfl
  exact congrArg ByteAssignment.mk (each assignment.entries)

/-- Collecting bytes is collecting the truth values that they count as. -/
theorem collect_eq_bytes (pairs : List (String × UInt8)) :
    ByteAssignment.collect pairs = (ofList (pairs.map fun pair => (pair.1,pair.2 != 0))).bytes := by
  have each (assignment : Assignment) :
      pairs.foldl (fun assignment pair => assignment.insert pair.1 pair.2) assignment.bytes =
        ((pairs.map fun pair => (pair.1,pair.2 != 0)).foldl
          (fun assignment pair => assignment.insert pair.1 pair.2) assignment).bytes := by
    induction pairs generalizing assignment with
    | nil => rfl
    | cons pair pairs ih =>
      rw [List.foldl_cons,insert_bytes,ih]
      rfl
  exact each empty

theorem ofRow_eq_bytes (vars : List String) (bytes : List UInt8) :
    ByteAssignment.ofRow vars bytes = (ofBytes vars bytes).bytes := by
  rw [ByteAssignment.ofRow,collect_eq_bytes,ofBytes,ofRow,List.zip_map_right]
  rfl

/-- Every write comes down to one of truth values. -/
theorem exists_apply_bytes (assignment : Assignment) (write : Write) : ∃ other : Assignment,
    Write.apply assignment.bytes write = other.bytes := by
  cases write with
  | new => exact ⟨empty,rfl⟩
  | ofRow vars bytes => exact ⟨ofBytes vars bytes,ofRow_eq_bytes vars bytes⟩
  | collect pairs => exact ⟨ofList _,collect_eq_bytes pairs⟩
  | insert name byte => exact ⟨assignment.insert name (byte != 0),insert_bytes assignment name byte⟩

/-- However an assignment came about, its bytes are those of truth values. -/
theorem exists_run_bytes (writes : List Write) : ∃ assignment : Assignment,
    Write.run writes = assignment.bytes := by
  have kept (assignment : Assignment) : ∃ other : Assignment,
      writes.foldl Write.apply assignment.bytes = other.bytes := by
    induction writes generalizing assignment with
    | nil => exact ⟨assignment,rfl⟩
    | cons write writes ih =>
      obtain ⟨next,applied⟩ := exists_apply_bytes assignment write
      rw [List.foldl_cons,applied]
      exact ih next
  exact kept empty

theorem binary_bytes {entry : String × UInt8} (member : entry ∈ assignment.bytes.entries) :
    entry.2 = 0 ∨ entry.2 = 1 := by
  obtain ⟨⟨name,value⟩,-,rfl⟩ := List.mem_map.mp member
  cases value with
  | false => exact .inl rfl
  | true => exact .inr rfl

end Assignment

namespace Formula

variable {assignment : Assignment}

theorem joinBytes_bytes {operands : List Formula} (kind : Junction) (joined : UInt8)
    (each : ∀ operand ∈ operands,
      operand.evalBytes assignment.bytes.get? = operand.evalByte assignment) :
    joinBytes assignment.bytes.get? kind joined operands =
      foldBytes assignment kind joined operands := by
  induction operands generalizing joined with
  | nil => rfl
  | cons operand operands ih =>
    obtain ⟨first,each⟩ := List.forall_mem_cons.mp each
    rw [joinBytes,foldBytes,first]
    exact congrArg _ (funext fun byte => ih (kind.bits joined byte) each)

theorem evalBytes_bytes (formula : Formula) (assignment : Assignment) :
    formula.evalBytes assignment.bytes.get? = formula.evalByte assignment := by
  induction formula using ind with
  | var name =>
    rw [evalBytes,evalByte,Assignment.get_bytes]
    cases assignment.get? name <;> rfl
  | neg operand ih => rw [evalBytes,evalByte,ih]
  | junction kind operands ih => rw [evalBytes,evalByte,joinBytes_bytes kind _ ih]
  | conditional left right ihLeft ihRight => rw [evalBytes,evalByte,ihLeft,ihRight]
  | biconditional left right ihLeft ihRight => rw [evalBytes,evalByte,ihLeft,ihRight]

/-- Evaluating under bytes of truth values gives the value of a formula, or the first of its variables
without a byte. -/
theorem evalBytes_eq (formula : Formula) (assignment : Assignment) :
    formula.evalBytes assignment.bytes.get? =
      match formula.vars.find? fun name => (assignment.bytes.get? name).isNone with
      | some name => .error (.unassigned name)
      | none => .ok (formula.value fun name => assignment.bytes.get? name == some 1).toUInt8 := by
  have truth : (fun name => assignment.bytes.get? name == some 1) = assignment.truth := by
    funext name
    rw [Assignment.get_bytes,Assignment.truth]
    rcases assignment.get? name with - | - | - <;> rfl
  have missing : (formula.vars.find? fun name => (assignment.bytes.get? name).isNone) =
      assignment.missing? formula.leaves := by
    simp only [vars,find_distinct,Assignment.get_bytes,Option.isNone_map]
    rfl
  rw [evalBytes_bytes,evalByte_eq,eval_eq,truth,missing]
  cases assignment.missing? formula.leaves <;> rfl

/-- A formula has a value if and only if none of its variables lacks a byte. -/
theorem evalBytes_eq_ok_iff {formula : Formula} {byte : UInt8} :
    formula.evalBytes assignment.bytes.get? = .ok byte ↔
      (∀ name ∈ formula.vars, (assignment.bytes.get? name).isSome) ∧
        byte = (formula.value fun name => assignment.bytes.get? name == some 1).toUInt8 := by
  have complete : (formula.vars.find? fun name => (assignment.bytes.get? name).isNone) = none ↔
      ∀ name ∈ formula.vars, (assignment.bytes.get? name).isSome := by
    simp [List.find?_eq_none,Option.ne_none_iff_isSome]
  rw [evalBytes_eq,← complete]
  split
  · next missing => simp [missing]
  · next missing => simp [missing,eq_comm]

theorem evalBytes_eq_error_iff {formula : Formula} {fault : ByteFault} :
    formula.evalBytes assignment.bytes.get? = .error fault ↔ ∃ name, fault = .unassigned name ∧
      formula.vars.find? (fun name => (assignment.bytes.get? name).isNone) = some name := by
  rw [evalBytes_eq]
  split
  · next missing => simp [missing,eq_comm]
  · next missing => simp [missing]

section

variable {byte? other? : String → Option UInt8}

theorem joinBytes_congr {operands : List Formula} (kind : Junction) (joined : UInt8)
    (each : ∀ operand ∈ operands, operand.evalBytes byte? = operand.evalBytes other?) :
    joinBytes byte? kind joined operands = joinBytes other? kind joined operands := by
  induction operands generalizing joined with
  | nil => rfl
  | cons operand operands ih =>
    obtain ⟨first,each⟩ := List.forall_mem_cons.mp each
    rw [joinBytes,joinBytes,first]
    exact congrArg _ (funext fun byte => ih (kind.bits joined byte) each)

/-- Evaluating looks at the bytes of the variables of a formula only. -/
theorem evalBytes_congr (formula : Formula) (same : ∀ name ∈ formula.leaves, byte? name = other? name) :
    formula.evalBytes byte? = formula.evalBytes other? := by
  induction formula using ind with
  | var name => rw [evalBytes,evalBytes,same name (List.mem_singleton_self name)]
  | neg operand ih =>
    rw [leaves_neg] at same
    rw [evalBytes,evalBytes,ih same]
  | junction kind operands ih =>
    rw [leaves_junction] at same
    rw [evalBytes,evalBytes]
    apply joinBytes_congr
    intro operand member
    apply ih operand member
    intro name leaf
    exact same name (List.mem_flatMap.mpr ⟨operand,member,leaf⟩)
  | conditional left right ihLeft ihRight =>
    rw [leaves_conditional] at same
    obtain ⟨ofLeft,ofRight⟩ := List.forall_mem_append.mp same
    rw [evalBytes,evalBytes,ihLeft ofLeft,ihRight ofRight]
  | biconditional left right ihLeft ihRight =>
    rw [leaves_biconditional] at same
    obtain ⟨ofLeft,ofRight⟩ := List.forall_mem_append.mp same
    rw [evalBytes,evalBytes,ihLeft ofLeft,ihRight ofRight]

end

/-- Under an assignment that came about by any writes, evaluating a formula answers with a value if and
only if all variables of the formula have bytes. The value is the truth value of the formula, and the
answer is otherwise the first of the variables that has no byte: no subtraction goes below zero. -/
theorem evaluation_exact (writes : List Write) (formula : Formula) :
    let given := Write.run writes
    given.Records (Write.recorded writes) ∧ given.names.Nodup ∧
      (∀ entry ∈ given.entries, entry.2 = 0 ∨ entry.2 = 1) ∧
      (∀ name byte, (given.insert name byte).entries =
        if name ∈ given.names then
          given.entries.map fun entry => if entry.1 = name then (name,keptByte byte) else entry
        else given.entries ++ [(name,keptByte byte)]) ∧
      ((∃ byte, formula.evalBytes given.get? = .ok byte) ↔
        ∀ name ∈ formula.vars, (given.get? name).isSome) ∧
      (∀ byte, formula.evalBytes given.get? = .ok byte → (byte = 0 ∨ byte = 1) ∧
        byte = (formula.value fun name => given.get? name == some 1).toUInt8) ∧
      (∀ fault, formula.evalBytes given.get? = .error fault ↔ ∃ name, fault = .unassigned name ∧
        formula.vars.find? (fun name => (given.get? name).isNone) = some name) ∧
      ∀ others : List Write,
        (∀ name ∈ formula.vars, (Write.run others).get? name = given.get? name) →
        formula.evalBytes (Write.run others).get? = formula.evalBytes given.get? := by
  have records := Write.records_run writes
  obtain ⟨assignment,same⟩ := Assignment.exists_run_bytes writes
  simp only [same] at records ⊢
  refine ⟨records,records.unique,?binary,?written,?total,?valued,?refused,?narrow⟩
  case binary => exact fun entry member => Assignment.binary_bytes member
  case written => exact fun name byte => ByteAssignment.put_eq records.unique
  case total =>
    simp only [evalBytes_eq_ok_iff,exists_and_left,exists_eq,and_true]
  case valued =>
    intro byte evaluated
    obtain ⟨-,rfl⟩ := evalBytes_eq_ok_iff.mp evaluated
    refine ⟨?_,rfl⟩
    cases formula.value _ with
    | false => exact .inl rfl
    | true => exact .inr rfl
  case refused => exact fun fault => evalBytes_eq_error_iff
  case narrow =>
    intro others agree
    apply evalBytes_congr
    intro name leaf
    exact agree name (mem_vars.mpr leaf)

/-- A byte that no write leaves behind cannot be taken from 1. -/
example : (neg (var "p")).evalBytes (fun _ => some 2) = .error .underflow := by decide

end Formula
end Sentential
