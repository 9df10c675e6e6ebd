/-! What a command line asks for. The first argument names an action, settings and statements
follow in any order. Short settings may be run together. A value stands at once after a short
setting, after an equals sign or in the next argument. No setting is given twice, and after `--`
everything is a statement. Arguments are read one after the other, and reading stops at the first
that asks for help or is at fault. -/
namespace Sentential.CommandLine

inductive Action where
  | makeTable
  | checkEquivalence
  | checkValidity
  deriving DecidableEq, Repr

inductive Setting where
  | labels
  | reverseValues
  | noAtoms
  | verbose
  | pairwise
  | conclusion
  deriving DecidableEq, Repr

def Action.all : List Action := [.makeTable, .checkEquivalence, .checkValidity]

def Action.word : Action → String
  | .makeTable => "make-table"
  | .checkEquivalence => "check-equivalence"
  | .checkValidity => "check-validity"

def Action.ofWord? (word : String) : Option Action := Action.all.find? (·.word == word)

/-- The settings that an action knows. -/
def Action.settings : Action → List Setting
  | .makeTable => [.labels, .reverseValues, .noAtoms]
  | .checkEquivalence => [.labels, .reverseValues, .verbose, .pairwise]
  | .checkValidity => [.conclusion, .labels, .reverseValues]

def Setting.letter : Setting → Char
  | .labels => 'l'
  | .reverseValues => 'r'
  | .noAtoms => 'n'
  | .verbose => 'v'
  | .pairwise => 'p'
  | .conclusion => 'c'

def Setting.word : Setting → String
  | .labels => "labels"
  | .reverseValues => "reverse-values"
  | .noAtoms => "no-atoms"
  | .verbose => "verbose"
  | .pairwise => "pairwise"
  | .conclusion => "conclusion"

/-- What the value of a setting is called, if it takes one. -/
def Setting.valueName? : Setting → Option String
  | .labels => some "[TRUE][FALSE]"
  | .conclusion => some "CONCLUSION"
  | _ => none

def Setting.takesValue (setting : Setting) : Bool := setting.valueName?.isSome

/-- The settings and statements of a command line. A setting that takes no value has an empty
one. -/
structure Given where
  settings : List (Setting × String)
  statements : List String
  deriving DecidableEq, Repr

/-- Why no more arguments are read. -/
inductive Stop where
  | help
  | fault
  deriving DecidableEq, Repr

namespace Given

def value? (given : Given) (setting : Setting) : Option String := given.settings.lookup setting

def has (given : Given) (setting : Setting) : Bool := (given.value? setting).isSome

/-- Adds a setting, unless it was given before. -/
def set (given : Given) (setting : Setting) (value : String) : Except Stop Given :=
  if given.has setting then .error .fault
  else .ok { given with settings := given.settings ++ [(setting, value)] }

/-- Adds a statement, unless it is one too many. -/
def state (given : Given) (action : Action) (statement : String) : Except Stop Given :=
  if action = .makeTable && !given.statements.isEmpty then .error .fault
  else .ok { given with statements := given.statements ++ [statement] }

end Given

/-- What has been read, and a setting whose value is still to come. -/
abbrev Progress := Given × Option Setting

/-- Reads the letters of one argument after its hyphen. -/
def readLetters (action : Action) (given : Given) : List Char → Except Stop Progress
  | [] => .ok (given, none)
  | letter :: rest =>
    if letter = 'h' then .error .help
    else
      match action.settings.find? (·.letter == letter) with
      | none => .error .fault
      | some setting =>
        if setting.takesValue then
          match rest with
          | [] => .ok (given, some setting)
          | '=' :: value => (given.set setting (String.ofList value)).map (·, none)
          | value => (given.set setting (String.ofList value)).map (·, none)
        else do
          let given ← given.set setting ""
          readLetters action given rest

/-- Reads an argument after its two hyphens. -/
def readWord (action : Action) (given : Given) (text : List Char) : Except Stop Progress :=
  if text = "help".toList then .error .help
  else
    let word := String.ofList (text.takeWhile (· != '='))
    match action.settings.find? (·.word == word), text.dropWhile (· != '=') with
    | none, _ => .error .fault
    | some setting, [] =>
      if setting.takesValue then .ok (given, some setting)
      else (given.set setting "").map (·, none)
    | some setting, _ :: value =>
      if setting.takesValue then (given.set setting (String.ofList value)).map (·, none)
      else .error .fault

/-- Reads arguments. A setting that waits for its value takes the next argument, which may not look
like a setting; a hyphen by itself does not. -/
def readArguments (action : Action) (progress : Progress) : List String → Except Stop Given
  | [] => if progress.2.isNone then .ok progress.1 else .error .fault
  | argument :: arguments => do
    let (given, waiting?) := progress
    match argument.toList, waiting? with
    | '-' :: _ :: _, some _ => .error .fault
    | ['-', '-'], none => .ok { given with statements := given.statements ++ arguments }
    | '-' :: '-' :: word, none =>
      let progress ← readWord action given word
      readArguments action progress arguments
    | '-' :: letter :: letters, none =>
      let progress ← readLetters action given (letter :: letters)
      readArguments action progress arguments
    | _, none =>
      let given ← given.state action argument
      readArguments action (given, none) arguments
    | _, some setting =>
      let given ← given.set setting argument
      readArguments action (given, none) arguments

/-- What there is help on. -/
inductive Topic where
  | program
  | help
  | action (action : Action)
  deriving DecidableEq, Repr

/-- The topic that is named after `help`. -/
def Topic.ofWords? : List String → Option Topic
  | [] => some .program
  | ["help"] => some .help
  | [word] => (Action.ofWord? word).map .action
  | _ => none

inductive Request where
  | version
  | help (topic : Topic)
  | makeTable (statement : String) (given : Given)
  | checkEquivalence (statements : List String) (given : Given)
  | checkValidity (premises : List String) (conclusion : String) (given : Given)
  deriving DecidableEq, Repr

/-- A table is made of exactly one statement, the other actions take one or more. -/
def Given.request? (given : Given) (action : Action) : Option Request :=
  match action, given.statements with
  | .makeTable, [statement] => some (.makeTable statement given)
  | .makeTable, _ => none
  | _, [] => none
  | .checkEquivalence, statements => some (.checkEquivalence statements given)
  | .checkValidity, premises =>
    (given.value? .conclusion).map fun conclusion => .checkValidity premises conclusion given

/-- Whether an argument asks for what has this word and this letter. Letters behind it are not read. -/
def asksFor (word : String) (letter : Char) (argument : String) : Bool :=
  argument == "--" ++ word || ['-', letter].isPrefixOf argument.toList

/-- The request of a command line, if it is well formed. -/
def Request.ofArguments? : List String → Option Request
  | [] => none
  | first :: arguments =>
    if asksFor "version" 'V' first then some .version
    else if asksFor "help" 'h' first then some (.help .program)
    else if first = "help" then (Topic.ofWords? arguments).map .help
    else
      match Action.ofWord? first with
      | none => none
      | some action =>
        match readArguments action (⟨[], []⟩, none) arguments with
        | .ok given => given.request? action
        | .error .help => some (.help (.action action))
        | .error .fault => none

end Sentential.CommandLine
