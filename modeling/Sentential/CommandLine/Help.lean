import Sentential.CommandLine.Request
import Sentential.Table.PlainText

/-! The help on the program and on its actions. A page tells what its topic is for, how it is used and
what may be given, entry by entry, with the meanings in a column of their own. -/
namespace Sentential.CommandLine

def line (text : String) : String := text ++ "\n"

def Action.about : Action → String
  | .makeTable => "Make a truth table using the given propositional statement"
  | .checkEquivalence => "Check if the statements are logically equivalent"
  | .checkValidity => "Check if an argument is valid"

/-- What an action is applied to, and what that is. -/
def Action.operand : Action → String × String
  | .makeTable => ("<STATEMENT>", "A propositional statement")
  | .checkEquivalence => ("<STATEMENT>...", "A set of propositional statements to be checked")
  | .checkValidity => ("<PREMISE>...", "A set of premises")

def Setting.about : Setting → String
  | .labels => "Custom labels for truth values, true first (e.g. TF)"
  | .reverseValues => "Reverse the order of the truth values in the table"
  | .noAtoms => "Do not include atomic sentences in the table"
  | .verbose => "Print the table of every biconditional and a detailed conclusion"
  | .pairwise => "Compare every pair of statements instead of each against the first"
  | .conclusion => "The conclusion of the argument"

/-- An action cannot do without these settings. -/
def Setting.required : Setting → Bool
  | .conclusion => true
  | _ => false

/-- A setting by its word, with its value. -/
def Setting.usage (setting : Setting) : String :=
  match setting.valueName? with
  | some name => "--" ++ setting.word ++ " <" ++ name ++ ">"
  | none => "--" ++ setting.word

def Setting.entry (setting : Setting) : String × String :=
  ("-" ++ String.singleton setting.letter ++ ", " ++ setting.usage, setting.about)

/-- Entries one under the other, with what each of them means. -/
def entryLines (entries : List (String × String)) : String :=
  let width := (entries.map (·.1.length)).foldl max 0
  String.join (entries.map fun (entry, meaning) =>
    line ("  " ++ String.ofList (PlainText.pad width entry) ++ "  " ++ meaning))

def helpPage (about usage : String) (sections : List (String × List (String × String))) : String :=
  line about ++ line "" ++ line ("Usage: prop-logic " ++ usage) ++
    String.join (sections.map fun (title, entries) =>
      line "" ++ line (title ++ ":") ++ entryLines entries)

def helpAbout : String := "Print this message or the help of the given subcommand(s)"

def helpEntry : String × String := ("-h, --help", "Print help")

def Topic.page : Topic → String
  | .program =>
    helpPage "A propositional logic toolkit" "<COMMAND>"
      [("Commands", Action.all.map (fun action => (action.word, action.about)) ++
          [("help", helpAbout)]),
        ("Options", [helpEntry, ("-V, --version", "Print version")])]
  | .help =>
    helpPage helpAbout "help [COMMAND]..."
      [("Arguments", [("[COMMAND]...", "Print help for the subcommand(s)")])]
  | .action asked =>
    let required := (asked.settings.filter Setting.required).map Setting.usage
    let usage := [asked.word, "[OPTIONS]"] ++ required ++ [asked.operand.1]
    helpPage asked.about (" ".intercalate usage)
      [("Arguments", [asked.operand]),
        ("Options", asked.settings.map Setting.entry ++ [helpEntry])]

end Sentential.CommandLine
