import Mathlib.Data.List.Nodup
import Mathlib.Data.List.TakeWhile
import Sentential.CommandLine.Request
import Sentential.Proofs.Grammar

/-! Which requests command lines make. What is read for an action has only settings that the action knows,
each at most once, and values only where they are taken. Whatever is so can be asked for, with every
setting spelled by its word in an argument of its own. -/
namespace Sentential.CommandLine

variable {action : Action} {given next : Given} {setting : Setting} {value : String}

/-- What can be given for an action. A setting that takes no value has an empty one. -/
structure Given.Apt (action : Action) (given : Given) : Prop where
  known : ∀ entry ∈ given.settings, entry.1 ∈ action.settings
  once : (given.settings.map Prod.fst).Nodup
  bare : ∀ entry ∈ given.settings, entry.1.takesValue = false → entry.2 = ""

theorem Given.Apt.nothing : Given.Apt action ⟨[],[]⟩ :=
  ⟨List.forall_mem_nil _,List.nodup_nil,List.forall_mem_nil _⟩

theorem Given.Apt.restate (apt : given.Apt action) (statements : List String) :
    Given.Apt action { given with statements := statements } := ⟨apt.known,apt.once,apt.bare⟩

theorem Given.has_iff : given.has setting ↔ setting ∈ given.settings.map Prod.fst := by
  simp [Given.has,Given.value?]

theorem Given.set_eq_ok : given.set setting value = .ok next ↔
    setting ∉ given.settings.map Prod.fst ∧
      next = { given with settings := given.settings ++ [(setting,value)] } := by
  rw [Given.set]
  split
  · next twice => simp [Given.has_iff.mp twice]
  · next fresh =>
    rw [Given.has_iff] at fresh
    simp [fresh,eq_comm]

theorem Given.state_eq_ok {statement : String} (stated : given.state action statement = .ok next) :
    next = { given with statements := given.statements ++ [statement] } := by
  rw [Given.state] at stated
  split at stated
  · cases stated
  · exact (Except.ok.inj stated).symm

theorem Setting.bare_of_takesValue (takes : setting.takesValue)
    (none : setting.takesValue = false) : value = "" := by
  cases takes.symm.trans none

theorem Given.Apt.set (apt : given.Apt action) (known : setting ∈ action.settings)
    (bare : setting.takesValue = false → value = "")
    (added : given.set setting value = .ok next) : next.Apt action := by
  obtain ⟨fresh,rfl⟩ := Given.set_eq_ok.mp added
  constructor
  case known => exact List.forall_mem_append.mpr ⟨apt.known,List.forall_mem_singleton.mpr known⟩
  case once =>
    rw [List.map_append,List.map_singleton]
    exact List.nodup_append_comm.mpr (List.nodup_cons.mpr ⟨fresh,apt.once⟩)
  case bare => exact List.forall_mem_append.mpr ⟨apt.bare,List.forall_mem_singleton.mpr bare⟩

/-- What was read so far is apt, and only a setting that takes a value waits for one. -/
structure AptProgress (action : Action) (progress : Progress) : Prop where
  given : progress.1.Apt action
  waits : ∀ setting ∈ progress.2, setting ∈ action.settings ∧ setting.takesValue

theorem AptProgress.of_apt (apt : given.Apt action) : AptProgress action (given,none) :=
  ⟨apt,nofun⟩

theorem AptProgress.of_waiting (apt : given.Apt action) (known : setting ∈ action.settings)
    (takes : setting.takesValue) : AptProgress action (given,some setting) := by
  refine ⟨apt,?_⟩
  rintro _ ⟨⟩
  exact ⟨known,takes⟩

theorem map_eq_ok {asked : Except ε α} {f : α → β} {answer : β} :
    asked.map f = .ok answer ↔ ∃ found, asked = .ok found ∧ f found = answer := by
  cases asked <;> simp [Except.map]

/-- A setting whose value, if any, stands in the same argument. -/
theorem AptProgress.of_set {text : String} {progress : Progress} (apt : given.Apt action)
    (known : setting ∈ action.settings) (bare : setting.takesValue = false → text = "")
    (added : (given.set setting text).map (·,none) = .ok progress) : AptProgress action progress := by
  obtain ⟨next,set,rfl⟩ := map_eq_ok.mp added
  exact .of_apt (apt.set known bare set)

theorem readLetters_apt {letters : List Char} {progress : Progress} (apt : given.Apt action)
    (read : readLetters action given letters = .ok progress) : AptProgress action progress := by
  induction letters generalizing given with
  | nil =>
    cases read
    exact .of_apt apt
  | cons letter rest ih =>
    rw [readLetters] at read
    split at read
    · cases read
    split at read
    · cases read
    next setting found =>
    have known := List.mem_of_find?_eq_some found
    split at read
    · next takes =>
      split at read
      · cases read
        exact .of_waiting apt known takes
      · exact .of_set apt known (Setting.bare_of_takesValue takes) read
      · exact .of_set apt known (Setting.bare_of_takesValue takes) read
    · obtain ⟨next,set,read⟩ := bind_eq_ok.mp read
      exact ih (apt.set known (fun _ => rfl) set) read

theorem readWord_apt {text : List Char} {progress : Progress} (apt : given.Apt action)
    (read : readWord action given text = .ok progress) : AptProgress action progress := by
  rw [readWord] at read
  split at read
  · cases read
  dsimp only at read
  split at read
  · cases read
  · next setting found _ =>
    have known := List.mem_of_find?_eq_some found
    split at read
    · next takes =>
      cases read
      exact .of_waiting apt known takes
    · exact .of_set apt known (fun _ => rfl) read
  · next setting _ value found _ =>
    have known := List.mem_of_find?_eq_some found
    split at read
    · next takes => exact .of_set apt known (Setting.bare_of_takesValue takes) read
    · cases read

/-- Reading keeps to what can be given, argument by argument. -/
theorem readArguments_apt {arguments : List String} {progress : Progress}
    (apt : AptProgress action progress) (read : readArguments action progress arguments = .ok next) :
    next.Apt action := by
  induction arguments generalizing progress with
  | nil =>
    rw [readArguments] at read
    split at read
    · cases read
      exact apt.given
    · cases read
  | cons argument arguments ih =>
    obtain ⟨given,waiting?⟩ := progress
    unfold readArguments at read
    dsimp only at read
    split at read
    · cases read
    · cases read
      exact apt.given.restate _
    · obtain ⟨progress,word,read⟩ := bind_eq_ok.mp read
      exact ih (readWord_apt apt.given word) read
    · obtain ⟨progress,letters,read⟩ := bind_eq_ok.mp read
      exact ih (readLetters_apt apt.given letters) read
    · obtain ⟨stated,state,read⟩ := bind_eq_ok.mp read
      cases Given.state_eq_ok state
      exact ih (.of_apt (apt.given.restate _)) read
    · next setting _ =>
      obtain ⟨known,takes⟩ := apt.waits setting rfl
      obtain ⟨added,set,read⟩ := bind_eq_ok.mp read
      exact ih (.of_apt (apt.given.set known (Setting.bare_of_takesValue takes) set)) read

/-- A setting by its word, with its value behind an equals sign if it takes one. -/
def spell (entry : Setting × String) : String :=
  "--" ++ entry.1.word ++ (if entry.1.takesValue then "=" ++ entry.2 else "")

/-- Each setting in an argument of its own, and behind them all statements. -/
def Given.spelled (given : Given) : List String :=
  given.settings.map spell ++ "--" :: given.statements

theorem Setting.find_word (known : setting ∈ action.settings) :
    action.settings.find? (·.word == setting.word) = some setting := by
  revert known
  cases action <;> cases setting <;> decide

theorem Setting.equals_notMem_word (setting : Setting) : ∀ c ∈ setting.word.toList, (c != '=') := by
  have all : setting.word.toList.all (· != '=') := by cases setting <;> decide
  exact List.all_eq_true.mp all

theorem Setting.word_ne_nil (setting : Setting) : setting.word.toList ≠ [] := by
  cases setting <;> decide

/-- No word begins like `help`. -/
theorem Setting.append_ne_help (setting : Setting) (rest : List Char) :
    setting.word.toList ++ rest ≠ "help".toList := by
  intro same
  have head : setting.word.toList.head? ≠ "help".toList.head? := by cases setting <;> decide
  rw [← same,List.head?_append_of_ne_nil _ setting.word_ne_nil] at head
  exact head rfl

theorem readWord_spelled {entry : Setting × String} (known : entry.1 ∈ action.settings)
    (bare : entry.1.takesValue = false → entry.2 = "")
    (fresh : entry.1 ∉ given.settings.map Prod.fst) :
    readWord action given (entry.1.word.toList ++
        (if entry.1.takesValue then '=' :: entry.2.toList else [])) =
      .ok ({ given with settings := given.settings ++ [entry] },none) := by
  have set : given.set entry.1 entry.2 =
      .ok { given with settings := given.settings ++ [entry] } := Given.set_eq_ok.mpr ⟨fresh,rfl⟩
  have other := entry.1.append_ne_help (if entry.1.takesValue then '=' :: entry.2.toList else [])
  rw [readWord,if_neg other,List.takeWhile_append_of_pos entry.1.equals_notMem_word,
    List.dropWhile_append_of_pos entry.1.equals_notMem_word]
  cases takes : entry.1.takesValue with
  | true => simp [Setting.find_word known,takes,set,Except.map]
  | false =>
    rw [bare takes] at set
    simp [Setting.find_word known,takes,set,Except.map]

/-- An argument that begins with two hyphens and goes on is read as a word. -/
theorem readArguments_word {argument : String} {word : List Char} (some : word ≠ [])
    (spelled : argument.toList = '-' :: '-' :: word) (arguments : List String) :
    readArguments action (given,none) (argument :: arguments) =
      readWord action given word >>= (readArguments action · arguments) := by
  obtain ⟨c,cs,rfl⟩ := List.exists_cons_of_ne_nil some
  rw [readArguments.eq_def]
  simp [spelled]

theorem toList_spell (entry : Setting × String) : (spell entry).toList = '-' :: '-' ::
    (entry.1.word.toList ++ (if entry.1.takesValue then '=' :: entry.2.toList else [])) := by
  have hyphens : "--".toList = ['-','-'] := rfl
  have equals : "=".toList = ['='] := rfl
  rw [spell,String.toList_append,String.toList_append,hyphens]
  cases entry.1.takesValue <;> simp [equals]

/-- Settings that are spelled out are read one after the other, behind those that were read before. -/
theorem readArguments_spelled {settings : List (Setting × String)} {statements : List String}
    (apt : Given.Apt action { given with settings := given.settings ++ settings }) :
    readArguments action (given,none) (settings.map spell ++ "--" :: statements) =
      .ok ⟨given.settings ++ settings,given.statements ++ statements⟩ := by
  induction settings generalizing given with
  | nil =>
    rw [List.append_nil]
    rfl
  | cons entry settings ih =>
    have member : entry ∈ given.settings ++ entry :: settings := by simp
    have fresh : entry.1 ∉ given.settings.map Prod.fst := by
      intro twice
      have once := apt.once
      rw [List.map_append,List.map_cons,List.nodup_append] at once
      exact once.2.2 _ twice _ (List.mem_cons_self ..) rfl
    have some := List.append_ne_nil_of_left_ne_nil entry.1.word_ne_nil
      (if entry.1.takesValue then '=' :: entry.2.toList else [])
    -- for the next step the entry is one of those that were read before
    have joined : given.settings ++ entry :: settings = given.settings ++ [entry] ++ settings := by
      simp
    rw [joined] at apt
    rw [List.map_cons,List.cons_append,readArguments_word some (toList_spell entry),
      readWord_spelled (apt.known _ (joined ▸ member)) (apt.bare _ (joined ▸ member)) fresh,joined]
    exact ih apt

/-- What can be asked for. -/
inductive Asked : Request → Prop where
  | version : Asked .version
  | help (topic : Topic) : Asked (.help topic)
  | given {action : Action} {given : Given} {request : Request} : given.Apt action →
      given.request? action = some request → Asked request

variable {request : Request}

theorem asked_of_arguments {arguments : List String}
    (accepted : Request.ofArguments? arguments = some request) : Asked request := by
  cases arguments with
  | nil => cases accepted
  | cons first arguments =>
    rw [Request.ofArguments?] at accepted
    split at accepted
    · cases accepted
      exact .version
    split at accepted
    · cases accepted
      exact .help _
    split at accepted
    · obtain ⟨topic,-,rfl⟩ := Option.map_eq_some_iff.mp accepted
      exact .help topic
    split at accepted
    · cases accepted
    split at accepted
    · next given read =>
      exact .given (readArguments_apt (.of_apt .nothing) read) accepted
    · cases accepted
      exact .help _
    · cases accepted

theorem Action.ofArguments_word (action : Action) (arguments : List String) :
    Request.ofArguments? (action.word :: arguments) =
      match readArguments action (⟨[],[]⟩,none) arguments with
      | .ok given => given.request? action
      | .error .help => some (.help (.action action))
      | .error .fault => none := by
  cases action <;> rfl

/-- Command lines ask for all that can be given for an action, and for no more. -/
theorem exists_arguments_iff :
    (∃ arguments, Request.ofArguments? arguments = some request) ↔ Asked request := by
  constructor
  · rintro ⟨arguments,accepted⟩
    exact asked_of_arguments accepted
  · intro asked
    cases asked with
    | version => exact ⟨["--version"],by decide⟩
    | help topic =>
      cases topic with
      | program => exact ⟨["--help"],by decide⟩
      | help => exact ⟨["help","help"],by decide⟩
      | action asked => exact ⟨["help",asked.word],by cases asked <;> decide⟩
    | @given action given _ apt asked =>
      refine ⟨action.word :: given.spelled,?_⟩
      have read : readArguments action (⟨[],[]⟩,none) given.spelled = .ok given :=
        readArguments_spelled (apt.restate [])
      rw [action.ofArguments_word,read]
      exact asked

end Sentential.CommandLine
