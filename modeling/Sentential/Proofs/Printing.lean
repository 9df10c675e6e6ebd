import Sentential.Proofs.Lines
import Sentential.Proofs.Meaning
import Sentential.Proofs.Presentation

/-! What programs print. Each step is told by the text that it adds to what was printed before, and the
text of a program is put together from those of its steps. Behind the first step, which reads labels and
statements, no step fails: the tables of an argument and of its biconditionals can all be filled. -/
namespace Sentential

namespace Printing

variable {program : Printing α} {next : α → Printing β} {asked : Except LogicError α}

/-- Whatever was printed before, the program answers and has put the text behind it. -/
def Prints (program : Printing α) (text : String) (answer : α) : Prop :=
  ∀ printed, program.run.run printed = (.ok answer, printed ++ text)

/-- The program fails and has printed nothing. -/
def Fails (program : Printing α) : Prop :=
  ∀ printed, ∃ error, program.run.run printed = (.error error, printed)

theorem run_bind (printed : String) : (program >>= next).run.run printed =
    match program.run.run printed with
    | (.ok answer, printed) => (next answer).run.run printed
    | (.error error, printed) => (.error error, printed) := by
  rw [ExceptT.run_bind,StateT.run_bind]
  rcases program.run.run printed with ⟨_ | _,_⟩
  · rfl
  · rfl

theorem prints_pure (answer : α) : Prints (pure answer) "" answer := by
  intro printed
  rw [String.append_empty]
  rfl

theorem prints_print (text : String) : Prints (print text) text () := fun _ => rfl

theorem prints_lift {answer : α} (answered : asked = .ok answer) :
    Prints (liftM asked) "" answer := by
  intro printed
  rw [answered,String.append_empty]
  rfl

theorem Prints.bind {text rest : String} {answer : α} {result : β}
    (first : Prints program text answer) (later : Prints (next answer) rest result) :
    Prints (program >>= next) (text ++ rest) result := by
  intro printed
  rw [run_bind,first,← String.append_assoc]
  exact later _

theorem Prints.returns {text : String} {answer : α} (first : Prints program text answer)
    (result : β) : Prints (program >>= fun _ => pure result) text result := by
  intro printed
  rw [run_bind,first]
  rfl

/-- A question with a known answer adds nothing. -/
theorem prints_of_eq_ok {answer : α} (answered : asked = .ok answer) {text : String} {result : β}
    (later : Prints (next answer) text result) : Prints (liftM asked >>= next) text result := by
  simpa using (prints_lift answered).bind later

theorem fails_of_ne_ok (failed : ¬∃ answer, asked = .ok answer) : Fails (liftM asked >>= next) := by
  intro printed
  cases asked with
  | ok answer => exact absurd ⟨answer,rfl⟩ failed
  | error error => exact ⟨error,rfl⟩

theorem Fails.bind (failed : Fails program) : Fails (program >>= next) := by
  intro printed
  obtain ⟨error,ran⟩ := failed printed
  refine ⟨error,?_⟩
  rw [run_bind,ran]

/-- A loop prints what its steps print, one after the other. -/
theorem prints_forM {step : α → Printing Unit} {text : α → String} {xs : List α}
    (each : ∀ x ∈ xs, Prints (step x) (text x) ()) :
    Prints (xs.forM step) (String.join (xs.map text)) () := by
  induction xs with
  | nil => exact prints_pure ()
  | cons x xs ih =>
    obtain ⟨first,each⟩ := List.forall_mem_cons.mp each
    rw [List.map_cons,String.join_cons]
    exact first.bind (ih each)

end Printing

open Printing CommandLine

/-- The table of a proposition as text. -/
def Proposition.tableText (proposition : Proposition) : String :=
  PlainText.render (proposition.filled.render proposition.config.labels?) none

/-- The marked table of an argument as text. -/
def Argument.tableText (argument : Argument) (mark : PlainText.Mark) : String :=
  PlainText.render (argument.filled.render argument.config.labels?)
    (some (argument.filled.rows.map (argument.passes mark)))

theorem Proposition.Arranged.plainText {proposition : Proposition}
    (arranged : proposition.Arranged) : proposition.plainText = .ok proposition.tableText := by
  rw [Proposition.plainText,rendered,arranged.table]
  rfl

theorem Argument.WellFormed.plainText {argument : Argument} (wellFormed : argument.WellFormed)
    (mark : PlainText.Mark) : argument.plainText (some mark) = .ok (argument.tableText mark) := by
  rw [Argument.plainText,rendered,wellFormed.table]
  show (Option.mapM argument.marks (some mark) >>= _) = _
  rw [Option.mapM_some,wellFormed.marks_eq_ok]
  rfl

namespace CommandLine

variable {given : Given} {argument : Argument}

theorem Given.arranged {statement : String} {proposition : Proposition}
    (made : given.proposition statement = .ok proposition) : proposition.Arranged := by
  obtain ⟨config,-,made⟩ := bind_eq_ok.mp made
  exact (Proposition.parsed made).2

theorem Given.accepted {premises : List String} {conclusion? : Option String}
    (made : given.argument premises conclusion? = .ok argument) : argument.Accepted := by
  obtain ⟨config,-,made⟩ := bind_eq_ok.mp made
  exact .parsed made

theorem prints_printTable {statement : String} {proposition : Proposition}
    (made : given.proposition statement = .ok proposition) :
    Prints (printTable statement given) proposition.tableText () :=
  prints_of_eq_ok made (prints_of_eq_ok (Given.arranged made).plainText (prints_print _))

/-- The table of the statements, unless there will be tables of biconditionals. -/
def markedText (given : Given) (argument : Argument) : String :=
  if given.has .verbose then "" else argument.tableText .equivalent

/-- The table of a biconditional apart from what stands before, if that is wanted. -/
def biconditionalText (verbose : Bool) (test : EquivalenceTest) : String :=
  if verbose then line "" ++ test.biconditional.tableText else ""

/-- The report of a comparison. -/
def reportText (verbose : Bool) (statements : List String) (test : EquivalenceTest) : String :=
  biconditionalText verbose test ++ line (testLine statements test)

/-- The reports of all comparisons, if they are wanted. -/
def reportsText (given : Given) (statements : List String) (tests : List EquivalenceTest) : String :=
  if given.detailed then
    String.join (tests.map (reportText (given.has .verbose) statements)) ++ line ""
  else ""

theorem whole_markedText (given : Given) (argument : Argument) :
    Whole (markedText given argument) := by
  rw [markedText]
  split
  · exact whole_empty
  · exact whole_render _ _

theorem whole_reportsText (given : Given) (statements : List String)
    (tests : List EquivalenceTest) : Whole (reportsText given statements tests) := by
  rw [reportsText]
  split
  · exact whole_append_line _ _
  · exact whole_empty

theorem prints_reportTest (verbose : Bool) (statements : List String) {test : EquivalenceTest}
    (arranged : test.biconditional.Arranged) :
    Prints (reportTest verbose statements test) (reportText verbose statements test) () := by
  have table : Prints (printBiconditional verbose test) (biconditionalText verbose test) () := by
    cases verbose with
    | false => exact prints_pure ()
    | true => exact (prints_print _).bind (prints_of_eq_ok arranged.plainText (prints_print _))
  exact table.bind (prints_print _)

theorem prints_reportTests (given : Given) (statements : List String) {tests : List EquivalenceTest}
    (arranged : ∀ test ∈ tests, test.biconditional.Arranged) :
    Prints (reportTests given statements tests) (reportsText given statements tests) () := by
  rw [reportTests,reportsText]
  split
  · have each := prints_forM fun test member =>
      prints_reportTest (given.has .verbose) statements (arranged test member)
    exact each.bind (prints_print _)
  · exact prints_pure ()

theorem prints_printMarked (wellFormed : argument.WellFormed) :
    Prints (printMarked given argument) (markedText given argument) () := by
  rw [printMarked,markedText]
  split
  · exact prints_pure ()
  · exact prints_of_eq_ok (wellFormed.plainText .equivalent) (prints_print _)

/-- What the comparisons of the statements find. -/
def Given.tests (given : Given) (argument : Argument) : List EquivalenceTest :=
  (Argument.pairs given.comparison argument.statements.zipIdx).map argument.outcome

/-- Checking an argument for equivalence never fails, whichever comparisons are made and reported. -/
theorem prints_judgeEquivalence {statements : List String}
    (made : given.argument statements none = .ok argument) :
    Prints (judgeEquivalence statements given)
      (markedText given argument ++
        reportsText given (statements.map Text.trim) (given.tests argument))
      (EquivalenceTest.allEquivalent (given.tests argument)) := by
  have wellFormed := (Given.accepted made).wellFormed
  have tested : argument.equivalenceTests given.comparison = .ok (given.tests argument) :=
    wellFormed.equivalenceTests_eq_ok given.comparison
  have arranged (test : EquivalenceTest) (member : test ∈ given.tests argument) :
      test.biconditional.Arranged := by
    obtain ⟨pair,-,compared⟩ := exists_of_mem_mapM tested member
    exact (Argument.eq_of_compare compared).2.2
  have reports := prints_reportTests given (statements.map Text.trim) arranged
  refine prints_of_eq_ok made ((prints_printMarked wellFormed).bind ?_)
  exact prints_of_eq_ok tested (reports.returns _)

/-- The line that shows a countermodel, if there is one. -/
def countermodelText : Option Assignment → String
  | some assignment => line ("Countermodel: " ++ assignment.text)
  | none => ""

theorem prints_showCountermodel (validity : Validity) :
    Prints (showCountermodel validity) (countermodelText validity.countermodel?) () := by
  rw [showCountermodel]
  cases validity.countermodel? with
  | some assignment => exact prints_print _
  | none => exact prints_pure ()

/-- Checking an argument for validity never fails either. Behind its table only a countermodel is shown. -/
theorem prints_judgeValidity {premises : List String} {conclusion : String}
    (made : given.argument premises (some conclusion) = .ok argument) {concluded : Proposition}
    (concludes : argument.conclusion? = some concluded) :
    Prints (judgeValidity premises conclusion given)
      (argument.tableText .counterexample ++
        countermodelText (argument.failing.head?.bind argument.filled.assignment?))
      argument.failing.isEmpty := by
  have wellFormed := (Given.accepted made).wellFormed
  have shown := prints_showCountermodel
    ⟨argument.failing,argument.failing.head?.bind argument.filled.assignment?⟩
  refine prints_of_eq_ok made (prints_of_eq_ok (wellFormed.plainText .counterexample) ?_)
  refine (prints_print _).bind (prints_of_eq_ok (wellFormed.validity_eq concludes) ?_)
  exact shown.returns argument.failing.isEmpty

end CommandLine
end Sentential
