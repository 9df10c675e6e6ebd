import Sentential.Proofs.Admission
import Sentential.Proofs.Printing
import Sentential.Proofs.Requests

/-! How a run ends. It fails only for what is wrong with its request, and then it has printed nothing.
Otherwise its last line is a verdict on the statements as they were given, the same for all settings,
and a countermodel is shown just for an argument that has one. -/
namespace Sentential

open Statement (Mentioned)

theorem forall_mem_iff_of_forall₂ {R : α → β → Prop} {p : α → Prop} {q : β → Prop} {xs : List α}
    {ys : List β} (related : List.Forall₂ R xs ys) (same : ∀ x y, R x y → (p x ↔ q y)) :
    (∀ x ∈ xs, p x) ↔ ∀ y ∈ ys, q y := by
  induction related with
  | nil => simp
  | cons first _ ih => simp only [List.forall_mem_cons,same _ _ first,ih]

theorem Name.Speakable.notMem {name : String} (speakable : Speakable name) {c : Char}
    (other : isPart c = false) : c ∉ name.toList := by
  intro member
  rw [isPart_of_mem speakable.1 member] at other
  cases other

/-- No text of a formula holds a colon, as no name and no sign does. -/
theorem Formula.layout_noColon : Layout .signs fun _ text => ':' ∉ text where
  name := fun name speakable => speakable.notMem (by decide)
  group := by
    intro items text _ absent
    simpa using absent
  negation := by
    intro items text absent
    have sign : ':' ∉ Style.signs.negation := by decide
    simp [sign,absent]
  sides := by
    intro k left right leftText rightText _ absent absent'
    have sign : ':' ∉ Style.signs.between k := by cases k <;> decide
    simp [sign,absent,absent']

/-- An assignment of values to names is shown in one line. -/
theorem Assignment.newline_notMem_text {assignment : Assignment}
    (named : ∀ entry ∈ assignment.entries, '\n' ∉ entry.1.toList) :
    '\n' ∉ assignment.text.toList := by
  rw [text,String.toList_intercalate]
  refine notMem_intercalate (by decide) fun part member => ?_
  obtain ⟨shown,listed,rfl⟩ := List.mem_map.mp member
  obtain ⟨entry,of,rfl⟩ := List.mem_map.mp listed
  have value : '\n' ∉ (truthDigit entry.2).toList := by cases entry.2 <;> decide
  simp [named entry of,value]

theorem TruthTable.column_of_mem_render {table : TruthTable} {labels? : Option TruthLabels}
    {column : Column} (member : column ∈ table.render labels?) :
    column.header ∈ table.headers ∧ ∀ cell ∈ column.cells, cell.length ≤ 1 := by
  obtain ⟨index,-,rendered⟩ := List.mem_filterMap.mp member
  obtain ⟨header,found,rfl⟩ := Option.map_eq_some_iff.mp rendered
  refine ⟨List.mem_of_getElem? found,fun cell shown => ?_⟩
  obtain ⟨value,-,rfl⟩ := List.mem_map.mp shown
  cases labels? with
  | none => cases value <;> decide
  | some labels => simp [cellText]

namespace CommandLine

/-- The statement can be read and has the value under the assignment. -/
def HasValue (assignment : Assignment) (statement : String) (value : Bool) : Prop :=
  ∃ formula, Statement.parse statement = .ok formula ∧ formula.eval assignment = .ok value

/-- Every variable of the statements has a value. -/
def Assigns (assignment : Assignment) (statements : List String) : Prop :=
  ∀ name, Mentioned statements name → (assignment.get? name).isSome

/-- Whatever is assigned to their variables, the statements all have one value. -/
def LogicallyEquivalent (statements : List String) : Prop :=
  ∀ assignment, Assigns assignment statements →
    ∃ value, ∀ statement ∈ statements, HasValue assignment statement value

/-- Every premise is true and the conclusion is false. -/
def Countermodel (premises : List String) (conclusion : String) (assignment : Assignment) : Prop :=
  (∀ premise ∈ premises, HasValue assignment premise true) ∧ HasValue assignment conclusion false

def Valid (premises : List String) (conclusion : String) : Prop :=
  ∀ assignment, Assigns assignment (premises ++ [conclusion]) →
    ¬Countermodel premises conclusion assignment

theorem hasValue_iff {assignment : Assignment} {statement : String} {proposition : Proposition}
    {value : Bool} (read : Reads statement proposition) :
    HasValue assignment statement value ↔ proposition.formula.eval assignment = .ok value := by
  constructor
  · rintro ⟨formula,read',evaluated⟩
    cases read.symm.trans read'
    exact evaluated
  · exact fun evaluated => ⟨_,read,evaluated⟩

section

variable {given : Given} {argument : Argument} {premises : List String}
  {conclusion? : Option String}

/-- The argument states what was given, blanks aside. -/
structure States (argument : Argument) (premises : List String) (conclusion? : Option String) :
    Prop where
  reads_premises : List.Forall₂ Reads premises argument.premises
  reads_conclusion : List.Forall₂ Reads conclusion?.toList argument.conclusion?.toList
  mem_vars : ∀ name, name ∈ argument.vars ↔ Mentioned (premises ++ conclusion?.toList) name

theorem reads_of_trim {statements : List String} {propositions : List Proposition}
    (read : List.Forall₂ Reads (statements.map Text.trim) propositions) :
    List.Forall₂ Reads statements propositions := by
  rw [List.forall₂_map_left_iff] at read
  exact read.imp fun _ _ read => Statement.parse_trim.mp read

theorem states_of_argument (made : given.argument premises conclusion? = .ok argument) :
    States argument premises conclusion? := by
  obtain ⟨config,-,made⟩ := bind_eq_ok.mp made
  obtain ⟨first,last,-⟩ := Argument.parse_eq_ok.mp made
  constructor
  case reads_premises => exact reads_of_trim (reads_of_parse (forall₂_of_mapM first))
  case reads_conclusion =>
    have none : ([] : List String).mapM (Proposition.parse · config) = .ok [] := rfl
    have read := reads_of_parse (Argument.statements_of_mapM none last)
    rw [Option.toList_map] at read
    exact reads_of_trim read
  case mem_vars =>
    intro name
    rw [Argument.mem_vars_iff made,Option.toList_map,← List.map_append]
    exact Statement.mentioned_trim

variable {assignment : Assignment}

theorem States.covers_iff (states : States argument premises conclusion?) :
    assignment.Covers argument.vars ↔ Assigns assignment (premises ++ conclusion?.toList) :=
  forall_congr' fun name => imp_congr_left (states.mem_vars name)

theorem States.reads (states : States argument premises conclusion?) :
    List.Forall₂ Reads (premises ++ conclusion?.toList) argument.statements :=
  List.rel_append states.reads_premises states.reads_conclusion

theorem States.statementsAgree_iff (states : States argument premises none)
    (some : argument.statements ≠ []) :
    argument.StatementsAgree ↔ LogicallyEquivalent premises := by
  have read : List.Forall₂ Reads premises argument.statements := by
    simpa using states.reads
  have values (assignment : Assignment) (value : Bool) :
      (∀ statement ∈ premises, HasValue assignment statement value) ↔
        ∀ proposition ∈ argument.statements, proposition.formula.eval assignment = .ok value :=
    forall_mem_iff_of_forall₂ read fun _ _ read => hasValue_iff read
  have assigns (assignment : Assignment) :
      Assigns assignment premises ↔ assignment.Covers argument.vars := by
    simpa using states.covers_iff.symm
  simp only [LogicallyEquivalent,values,assigns]
  constructor
  · intro agree assignment covers
    obtain ⟨first,others,split⟩ := List.exists_cons_of_ne_nil some
    have member : first ∈ argument.statements := split ▸ List.mem_cons_self ..
    obtain ⟨value,evaluated,-⟩ := agree first member first member assignment covers
    refine ⟨value,fun proposition listed => ?_⟩
    obtain ⟨value',evaluated',same⟩ := agree first member proposition listed assignment covers
    rw [same,← evaluated',evaluated]
  · intro common left memberLeft right memberRight assignment covers
    obtain ⟨value,evaluated⟩ := common assignment covers
    exact ⟨value,evaluated left memberLeft,evaluated right memberRight⟩

theorem States.speakable (states : States argument premises conclusion?) {name : String}
    (member : name ∈ argument.vars) : Name.Speakable name := by
  obtain ⟨statement,-,formula,read,inside⟩ := (states.mem_vars name).mp member
  exact (Statement.Expressible.parsed read).canonical.2 name (Formula.mem_vars.mp inside)

/-- The headers of the table are names and texts of formulas. -/
theorem States.colon_notMem_header (states : States argument premises conclusion?) {header : String}
    (member : header ∈ argument.filled.headers) : ':' ∉ header.toList := by
  rcases List.mem_append.mp member with named | stated
  · exact (states.speakable named).notMem (by decide)
  · rw [List.map_map] at stated
    obtain ⟨proposition,listed,rfl⟩ := List.mem_map.mp stated
    obtain ⟨statement,-,read⟩ := exists_of_forall₂_right states.reads listed
    obtain ⟨canonical,speakable⟩ := (Statement.Expressible.parsed read).canonical
    rw [Function.comp_apply,Formula.text,Formula.render,String.toList_ofList]
    exact Formula.layout_noColon.formula canonical speakable

/-- The table of an argument shows no countermodel. -/
theorem States.countermodelLines_table (states : States argument premises conclusion?)
    (mark : PlainText.Mark) : countermodelLines (argument.tableText mark) = [] := by
  apply countermodelLines_of_noCue
  apply PlainText.noCue_render
  · intro column member
    exact states.colon_notMem_header (TruthTable.column_of_mem_render member).1
  · intro column member
    exact (TruthTable.column_of_mem_render member).2

section

variable {conclusion : String}

theorem States.exists_conclusion (states : States argument premises (some conclusion)) :
    ∃ concluded, argument.conclusion? = some concluded ∧ Reads conclusion concluded := by
  have read := states.reads_conclusion
  cases concluded : argument.conclusion? with
  | none =>
    rw [concluded] at read
    cases read
  | some proposition =>
    rw [concluded] at read
    cases read with
    | cons read _ => exact ⟨proposition,rfl,read⟩

theorem States.refutes_iff (states : States argument premises (some conclusion)) :
    argument.Refutes assignment ↔ Countermodel premises conclusion assignment := by
  obtain ⟨concluded,concludes,read⟩ := states.exists_conclusion
  refine and_congr ?_ ?_
  · symm
    exact forall_mem_iff_of_forall₂ states.reads_premises fun _ _ read => hasValue_iff read
  · rw [hasValue_iff read,concludes]
    simp

/-- There is no countermodel exactly if no row of the table fails. -/
theorem States.valid_iff (states : States argument premises (some conclusion))
    (wellFormed : argument.WellFormed) :
    argument.failing = [] ↔ Valid premises conclusion := by
  obtain ⟨concluded,concludes,-⟩ := states.exists_conclusion
  rw [wellFormed.failing_eq_nil concludes]
  constructor
  · intro none assignment assigns refuted
    have covers := states.covers_iff.mpr assigns
    rw [← states.refutes_iff,wellFormed.refutes_iff fun _ => covers.get?] at refuted
    exact none _ refuted
  · intro valid truth refuted
    have assigned (name : String) (member : name ∈ argument.vars) :=
      Assignment.get_ofRow_map wellFormed.distinct truth member
    have covers := Assignment.covers_ofRow wellFormed.distinct (List.length_map truth)
    refine valid _ (states.covers_iff.mp covers) (states.refutes_iff.mp ?_)
    exact (wellFormed.refutes_iff assigned).mpr refuted

end

end

/-- The last line of a text. -/
def lastLine? (text : String) : Option String := (lines text).getLast?

theorem lastLine_append {text : String} (whole : Whole text) {last : String}
    (single : '\n' ∉ last.toList) : lastLine? (text ++ line last) = some last := by
  rw [lastLine?,lines_append whole,lines_line single,List.getLast?_concat]

/-- What the output says about the equivalence of statements, and that it is right. -/
inductive JudgesEquivalence (statements : List String) (output : String) : Prop where
  | equivalent : LogicallyEquivalent statements →
      lastLine? output = some "✓ The statements are logically equivalent!" →
      JudgesEquivalence statements output
  | different : ¬LogicallyEquivalent statements →
      lastLine? output = some "✗ The statements are not logically equivalent!" →
      JudgesEquivalence statements output

/-- What the output says about the validity of an argument, and that it is right. A countermodel is shown
in one line, with the values of all variables and of no other names. -/
inductive JudgesValidity (premises : List String) (conclusion : String) (output : String) :
    Prop where
  | valid : Valid premises conclusion → lastLine? output = some "✓ The argument is valid!" →
      countermodelLines output = [] → JudgesValidity premises conclusion output
  | invalid {assignment : Assignment} : Assigns assignment (premises ++ [conclusion]) →
      (∀ name ∈ assignment.entries.map Prod.fst, Mentioned (premises ++ [conclusion]) name) →
      Countermodel premises conclusion assignment →
      lastLine? output = some "✗ The argument is invalid!" →
      countermodelLines output = ["Countermodel: " ++ assignment.text] →
      JudgesValidity premises conclusion output

/-- An assignment to the variables of an argument is shown in one line. -/
theorem States.countermodelLines_line {argument : Argument} {premises : List String}
    {conclusion? : Option String} (states : States argument premises conclusion?)
    {assignment : Assignment} (names : assignment.entries.map Prod.fst = argument.vars) :
    '\n' ∉ ("Countermodel: " ++ assignment.text).toList ∧
      countermodelLines (line ("Countermodel: " ++ assignment.text)) =
        ["Countermodel: " ++ assignment.text] := by
  have single : '\n' ∉ ("Countermodel: " ++ assignment.text).toList := by
    have named : ∀ entry ∈ assignment.entries, '\n' ∉ entry.1.toList := by
      intro entry member
      have name : entry.1 ∈ argument.vars := names ▸ List.mem_map_of_mem member
      exact (states.speakable name).notMem (by decide)
    have start : '\n' ∉ "Countermodel: ".toList := by decide
    rw [String.toList_append,List.mem_append]
    exact not_or_intro start (Assignment.newline_notMem_text named)
  refine ⟨single,?_⟩
  have starts : "Countermodel: ".toList.isPrefixOf ("Countermodel: " ++ assignment.text).toList := by
    rw [List.isPrefixOf_iff_prefix,String.toList_append]
    exact List.prefix_append ..
  rw [countermodelLines,lines_line single]
  exact List.filter_eq_self.mpr (List.forall_mem_singleton.mpr starts)

theorem newline_notMem_verdict (valid : Bool) : '\n' ∉ (validityVerdict valid).toList := by
  cases valid <;> decide

theorem countermodelLines_verdict (valid : Bool) :
    countermodelLines (line (validityVerdict valid)) = [] := by
  apply countermodelLines_of_noCue
  cases valid <;> exact PlainText.noCue_of_notMem (by decide)

theorem exists_answer_equivalence {statements : List String} {given : Given}
    {argument : Argument} (made : given.argument statements none = .ok argument) :
    ∃ output, Printing.Prints (Request.answer (.checkEquivalence statements given)) output () ∧
      JudgesEquivalence statements output := by
  have states := states_of_argument made
  have wellFormed := (Given.accepted made).wellFormed
  have agree := wellFormed.allEquivalent_iff given.comparison
  rw [states.statementsAgree_iff wellFormed.nonempty] at agree
  have whole := (whole_markedText given argument).append
    (whole_reportsText given (statements.map Text.trim) (given.tests argument))
  refine ⟨_,(prints_judgeEquivalence made).bind (Printing.prints_print _),?_⟩
  cases equivalent : EquivalenceTest.allEquivalent (given.tests argument) with
  | true => exact .equivalent (agree.mp equivalent) (lastLine_append whole (by decide))
  | false =>
    refine .different (fun same => ?_) (lastLine_append whole (by decide))
    exact Bool.false_ne_true (equivalent.symm.trans (agree.mpr same))

theorem exists_answer_validity {premises : List String} {conclusion : String} {given : Given}
    {argument : Argument} (made : given.argument premises (some conclusion) = .ok argument) :
    ∃ output, Printing.Prints (Request.answer (.checkValidity premises conclusion given)) output () ∧
      JudgesValidity premises conclusion output := by
  have states := states_of_argument made
  have wellFormed := (Given.accepted made).wellFormed
  obtain ⟨concluded,concludes,-⟩ := states.exists_conclusion
  have printed := prints_judgeValidity made concludes
  refine ⟨_,printed.bind (Printing.prints_print _),?_⟩
  have table : Whole (argument.tableText .counterexample) := whole_render _ _
  have bare := states.countermodelLines_table .counterexample
  cases fails : argument.failing with
  | nil =>
    have valid := (states.valid_iff wellFormed).mp fails
    rw [List.head?_nil,Option.bind_none,countermodelText,String.append_empty]
    refine .valid valid (lastLine_append table (newline_notMem_verdict true)) ?_
    rw [countermodelLines_append table,bare,List.nil_append]
    exact countermodelLines_verdict true
  | cons first later =>
    have member : first ∈ argument.failing := fails ▸ List.mem_cons_self ..
    obtain ⟨assignment,found,refutes⟩ := (wellFormed.mem_failing concludes).mp member
    obtain ⟨names,covers⟩ : assignment.entries.map Prod.fst = argument.vars ∧
        assignment.Covers argument.vars := by
      rw [Argument.filled,TruthTable.assignment_filled] at found
      obtain ⟨row,listed,rfl⟩ := Option.map_eq_some_iff.mp found
      have width := TruthTable.width_of_getElem listed
      exact ⟨Assignment.names_ofRow wellFormed.distinct width,
        Assignment.covers_ofRow wellFormed.distinct width⟩
    obtain ⟨single,shown⟩ := states.countermodelLines_line names
    have whole := table.append (whole_line ("Countermodel: " ++ assignment.text))
    rw [List.head?_cons,Option.bind_some,found,countermodelText]
    have named (name : String) (shown : name ∈ assignment.entries.map Prod.fst) :=
      (states.mem_vars name).mp (names ▸ shown)
    refine .invalid (states.covers_iff.mp covers) named (states.refutes_iff.mp refutes)
      (lastLine_append whole (newline_notMem_verdict false)) ?_
    rw [countermodelLines_append whole,countermodelLines_append table,bare,shown]
    exact congrArg _ (countermodelLines_verdict false)

/-- What the output tells of the statements of a request is right. -/
def Request.Judged : Request → String → Prop
  | .checkEquivalence statements _, output => JudgesEquivalence statements output
  | .checkValidity premises conclusion _, output => JudgesValidity premises conclusion output
  | _, _ => True

theorem not_refused_nothing : ¬Refused none [] := by
  intro refused
  cases refused with
  | labels given => cases given
  | unread member => cases member
  | wide member => cases member
  | many distinct mentioned many =>
    obtain ⟨name,named⟩ := List.exists_mem_of_length_pos (Nat.lt_trans (Nat.succ_pos 19) many)
    obtain ⟨statement,member,-⟩ := mentioned name named
    cases member

theorem exists_argument_iff_of_none {given : Given} {statements : List String}
    (some : statements ≠ []) : (∃ argument, given.argument statements none = .ok argument) ↔
      ¬Refused (given.value? .labels) statements := by
  rw [Given.exists_argument_iff,Option.toList_none,List.append_nil]
  exact and_iff_right some

theorem exists_argument_iff_of_some {given : Given} {premises : List String} {conclusion : String} :
    (∃ argument, given.argument premises (some conclusion) = .ok argument) ↔
      ¬Refused (given.value? .labels) (premises ++ [conclusion]) := by
  rw [Given.exists_argument_iff,Option.toList_some]
  exact and_iff_right (by simp)

/-- A comparison has something to compare. -/
def Request.Complete : Request → Prop
  | .checkEquivalence statements _ => statements ≠ []
  | _ => True

/-- A request is answered unless it is refused, and then nothing is printed. -/
theorem answer_cases (request : Request) (complete : request.Complete) :
    (Refused request.labels? request.statements ∧ Printing.Fails request.answer) ∨
      (¬Refused request.labels? request.statements ∧
        ∃ output, Printing.Prints request.answer output () ∧ request.Judged output) := by
  by_cases refused : Refused request.labels? request.statements
  · refine .inl ⟨refused,?_⟩
    cases request with
    | version => exact absurd refused not_refused_nothing
    | help topic => exact absurd refused not_refused_nothing
    | makeTable statement given =>
      apply Printing.fails_of_ne_ok
      rwa [Given.exists_proposition_iff,not_not]
    | checkEquivalence statements given =>
      apply Printing.Fails.bind
      apply Printing.fails_of_ne_ok
      rwa [exists_argument_iff_of_none complete,not_not]
    | checkValidity premises conclusion given =>
      apply Printing.Fails.bind
      apply Printing.fails_of_ne_ok
      rwa [exists_argument_iff_of_some,not_not]
  · refine .inr ⟨refused,?_⟩
    cases request with
    | version => exact ⟨_,Printing.prints_print _,trivial⟩
    | help topic => exact ⟨_,Printing.prints_print _,trivial⟩
    | makeTable statement given =>
      obtain ⟨proposition,made⟩ := Given.exists_proposition_iff.mpr refused
      exact ⟨_,prints_printTable made,trivial⟩
    | checkEquivalence statements given =>
      obtain ⟨argument,made⟩ := (exists_argument_iff_of_none complete).mpr refused
      exact exists_answer_equivalence made
    | checkValidity premises conclusion given =>
      obtain ⟨argument,made⟩ := exists_argument_iff_of_some.mpr refused
      exact exists_answer_validity made

/-- How the run of a request ends. -/
structure ExactOutcome (request : Request) (outcome : Outcome) : Prop where
  failed_iff : outcome.code = 1 ↔ Refused request.labels? request.statements
  silent : outcome.code = 1 → outcome.output = ""
  finished : outcome.code ≠ 1 → outcome.code = 0
  judged : outcome.code = 0 → request.Judged outcome.output

section

variable {request : Request}

theorem outcome_of_prints {output : String}
    (printed : Printing.Prints request.answer output ()) : request.outcome = ⟨0,output,""⟩ := by
  have ran := printed ""
  rw [String.empty_append] at ran
  simp only [Request.outcome,ran]

theorem outcome_of_fails (failed : Printing.Fails request.answer) :
    ∃ error : LogicError, request.outcome = ⟨1,"",line error.report⟩ := by
  obtain ⟨error,ran⟩ := failed ""
  refine ⟨error,?_⟩
  simp only [Request.outcome,ran]

theorem Request.exactOutcome (complete : request.Complete) :
    ExactOutcome request request.outcome := by
  rcases answer_cases request complete with ⟨refused,failed⟩ | ⟨taken,output,printed,judged⟩
  · obtain ⟨error,ended⟩ := outcome_of_fails failed
    rw [ended]
    exact ⟨iff_of_true rfl refused,fun _ => rfl,fun other => absurd rfl other,nofun⟩
  · rw [outcome_of_prints printed]
    exact ⟨iff_of_false nofun taken,nofun,fun _ => rfl,fun _ => judged⟩

theorem Asked.complete (asked : Asked request) : request.Complete := by
  cases asked with
  | version => trivial
  | help topic => trivial
  | given _ asked =>
    unfold Given.request? at asked
    split at asked
    · cases asked
      trivial
    · cases asked
    · cases asked
    · next some =>
      cases asked
      exact some
    · obtain ⟨conclusion,-,rfl⟩ := Option.map_eq_some_iff.mp asked
      trivial

end

/-- A request fails exactly if its labels or its statements are refused, and then before anything is
printed. Otherwise it succeeds, its last line tells whether the statements are equivalent or the
argument is valid, and a countermodel is shown if and only if there is one. So it is with every command
line that is well formed. -/
theorem outcome_exact :
    (∀ request : Request, request.Complete → ExactOutcome request request.outcome) ∧
      ∀ (arguments : List String) (request : Request),
        Request.ofArguments? arguments = some request → ExactOutcome request (run arguments) := by
  refine ⟨fun request complete => request.exactOutcome complete,fun arguments request accepted => ?_⟩
  have ran : run arguments = request.outcome := by
    rw [run,accepted]
  rw [ran]
  exact request.exactOutcome (asked_of_arguments accepted).complete

/-- `p or q` does not yield `p`, also where true and false are written T and F. -/
theorem outcome_exact_countermodel :
    let arguments := ["check-validity","p or q","-c","p","-l","TF"]
    let given : Given := ⟨[(.conclusion,"p"),(.labels,"TF")],["p or q"]⟩
    let request : Request := .checkValidity ["p or q"] "p" given
    Request.ofArguments? arguments = some request ∧ ExactOutcome request (run arguments) ∧
      run arguments = ⟨0,
        "p | q | p ∨ q | p\n" ++
        "--+---+-------+--\n" ++
        "F | F | F     | F | ✓\n" ++
        "F | T | T     | F | ✗\n" ++
        "T | F | T     | T | ✓\n" ++
        "T | T | T     | T | ✓\n" ++
        "Countermodel: p=0, q=1\n" ++
        "✗ The argument is invalid!\n",""⟩ := by
  intro arguments given request
  have accepted : Request.ofArguments? arguments = some request := by decide
  exact ⟨accepted,outcome_exact.2 arguments request accepted,by decide +kernel⟩

end CommandLine
end Sentential
