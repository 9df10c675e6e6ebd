import Sentential.Argument
import Sentential.CommandLine.Help

/-! What a command line prints and how it exits. Help and the version are just shown. Tables are printed
as soon as they are filled, before the next question is asked of the statements. So a run that fails may
have printed some of them, unless whatever could fail has failed before. -/
namespace Sentential

/-- Programs that print. What they have printed stays when they fail. -/
abbrev Printing := ExceptT LogicError (StateM String)

def Printing.print (text : String) : Printing Unit := modify (· ++ text)

namespace CommandLine

open PlainText (mark)
open Printing (print)

structure Outcome where
  code : Nat
  output : String
  errors : String
  deriving DecidableEq, Repr

def versionText : String := "prop-logic 0.1.0"

/-- A verdict after a check mark or a cross. -/
def verdict (passed : Bool) (text : String) : String :=
  String.singleton (mark passed) ++ " " ++ text

/-- The configuration that the settings ask for. Labels are checked before any statement. -/
def Given.config (given : Given) : Except LogicError Config :=
  let labels? : Except ConfigError (Option TruthLabels) :=
    match given.value? .labels with
    | none => .ok none
    | some labels => (TruthLabels.parse labels).map some
  match labels? with
  | .error error => .error (.config error)
  | .ok labels? =>
    .ok
      { reversed := given.has .reverseValues
        labels? := labels?
        showConstituents := !given.has .noAtoms }

def Given.proposition (given : Given) (statement : String) : Except LogicError Proposition := do
  let config ← given.config
  Proposition.parse (Text.trim statement) config

def Given.argument (given : Given) (premises : List String) (conclusion? : Option String) :
    Except LogicError Argument := do
  let config ← given.config
  Argument.parse (premises.map Text.trim) (conclusion?.map Text.trim) config

def Given.comparison (given : Given) : Comparison :=
  if given.has .pairwise then .pairwise else .direct

/-- Whether each comparison is reported, not just the verdict on all. -/
def Given.detailed (given : Given) : Bool := given.has .verbose || given.has .pairwise

def printTable (statement : String) (given : Given) : Printing Unit := do
  let proposition ← given.proposition statement
  print (← proposition.plainText)

/-- The verdict on one comparison, with the statements as written. -/
def testLine (statements : List String) (test : EquivalenceTest) : String :=
  let statement := fun (place : Nat) => Text.quote (statements[place]?.getD "")
  verdict test.equivalent (statement test.left ++ " and " ++ statement test.right ++
    (if test.equivalent then " are equivalent" else " are not equivalent") ++
    (if test.sameShape then " (same shape)" else ""))

/-- The table of a biconditional, apart from what was printed before, if that is wanted. -/
def printBiconditional (verbose : Bool) (test : EquivalenceTest) : Printing Unit :=
  if verbose then do
    print (line "")
    print (← test.biconditional.plainText)
  else pure ()

def reportTest (verbose : Bool) (statements : List String) (test : EquivalenceTest) :
    Printing Unit := do
  printBiconditional verbose test
  print (line (testLine statements test))

/-- Reports all comparisons, if that is wanted. -/
def reportTests (given : Given) (statements : List String) (tests : List EquivalenceTest) :
    Printing Unit :=
  if given.detailed then do
    tests.forM (reportTest (given.has .verbose) statements)
    print (line "")
  else pure ()

/-- The table of the statements, unless there will be tables of biconditionals. -/
def printMarked (given : Given) (argument : Argument) : Printing Unit :=
  if given.has .verbose then pure ()
  else do print (← argument.plainText (some .equivalent))

def judgeEquivalence (statements : List String) (given : Given) : Printing Bool := do
  let argument ← given.argument statements none
  printMarked given argument
  let tests ← argument.equivalenceTests given.comparison
  reportTests given (statements.map Text.trim) tests
  return EquivalenceTest.allEquivalent tests

def showCountermodel (validity : Validity) : Printing Unit :=
  match validity.countermodel? with
  | some assignment => print (line ("Countermodel: " ++ assignment.text))
  | none => pure ()

def judgeValidity (premises : List String) (conclusion : String) (given : Given) :
    Printing Bool := do
  let argument ← given.argument premises (some conclusion)
  print (← argument.plainText (some .counterexample))
  let validity ← argument.validity
  showCountermodel validity
  return validity.valid

def equivalenceVerdict (equivalent : Bool) : String :=
  verdict equivalent
    (if equivalent then "The statements are logically equivalent!"
      else "The statements are not logically equivalent!")

def validityVerdict (valid : Bool) : String :=
  verdict valid (if valid then "The argument is valid!" else "The argument is invalid!")

/-- Answers a request. A verdict comes last. -/
def Request.answer : Request → Printing Unit
  | .version => print (line versionText)
  | .help topic => print topic.page
  | .makeTable statement given => printTable statement given
  | .checkEquivalence statements given => do
    print (line (equivalenceVerdict (← judgeEquivalence statements given)))
  | .checkValidity premises conclusion given => do
    print (line (validityVerdict (← judgeValidity premises conclusion given)))

/-- Answers a request. It exits with 1 if the answer fails. -/
def Request.outcome (request : Request) : Outcome :=
  match request.answer.run.run "" with
  | (.ok (), output) => ⟨0, output, ""⟩
  | (.error error, output) => ⟨1, output, line error.report⟩

/-- What is told of a command line that makes no request. Help is shown if nothing was asked; which
argument is at fault is left out. -/
def complaint : List String → String
  | [] => Topic.program.page
  | _ => line "For more information, try '--help'."

/-- Runs a command line. It exits with 2 if it is not well formed. -/
def run (arguments : List String) : Outcome :=
  match Request.ofArguments? arguments with
  | none => ⟨2, "", complaint arguments⟩
  | some request => request.outcome

end CommandLine
end Sentential
