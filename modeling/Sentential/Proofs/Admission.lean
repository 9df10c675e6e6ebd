import Mathlib.Data.List.TakeWhile
import Sentential.CommandLine.Run
import Sentential.Proofs.Composition
import Sentential.Proofs.Presentation

/-! What command lines are refused for: their labels, a statement that cannot be read, or too many
variables. Blanks around a statement do not count, and an argument has too many variables as soon as one
of its statements has. Nothing else can be wrong with a request. -/
namespace Sentential

namespace Statement

open Text

theorem lexemes_blanks {gap : List Char} (blank : ∀ c ∈ gap, isBlank c) (rest : List Char) :
    lexemes [] (gap ++ rest) = lexemes [] rest := by
  induction gap with
  | nil => rfl
  | cons c gap ih =>
    obtain ⟨first,blank⟩ := List.forall_mem_cons.mp blank
    rw [List.cons_append,lexemes_blank first,ih blank,Lexeme.finish,List.nil_append]

theorem lexemes_respell_trimStart (text : List Char) :
    lexemes [] (respell (trimStart text)) = lexemes [] (respell text) := by
  have blank : ∀ c ∈ text.takeWhile isBlank, isBlank c :=
    fun c member => List.mem_takeWhile_imp member
  have split : text.takeWhile isBlank ++ trimStart text = text := List.takeWhile_append_dropWhile
  rw [← lexemes_blanks blank,← respell_blanks blank,split]

theorem lexemes_respell_trimEnd (text : List Char) :
    lexemes [] (respell (trimEnd text)) = lexemes [] (respell text) := by
  obtain ⟨gap,blank,split⟩ := exists_trimEnd text
  have bounded : Bounded gap :=
    fun c head => isPlain_of_blank (blank c (List.mem_of_mem_head? head))
  have kept : respell gap = gap := by simpa [respell] using respell_blanks blank []
  have none : lexemes [] gap = [] := by simpa [lexemes,Lexeme.finish] using lexemes_blanks blank []
  conv => rhs; rw [split]
  rw [respell_append bounded,kept,lexemes_append bounded,none,List.append_nil]

/-- Blanks around a statement make no difference to what is read. -/
theorem parse_trim {statement : String} {formula : Formula} :
    parse (trim statement) = .ok formula ↔ parse statement = .ok formula := by
  rw [parse_eq_ok_iff_respelled,parse_eq_ok_iff_respelled,trim,String.toList_ofList,
    lexemes_respell_trimEnd,lexemes_respell_trimStart]

/-- A variable of one of the statements. -/
def Mentioned (statements : List String) (name : String) : Prop :=
  ∃ statement ∈ statements, ∃ formula, parse statement = .ok formula ∧ name ∈ formula.vars

/-- All statements are read, and together they have no more variables than the limit. -/
structure Admissible (limit : Nat) (statements : List String) : Prop where
  read : ∀ statement ∈ statements, ∃ formula, parse statement = .ok formula
  few : ∀ names : List String, names.Nodup → (∀ name ∈ names, Mentioned statements name) →
    names.length ≤ limit

variable {limit : Nat} {statements : List String}

theorem mentioned_trim {name : String} :
    Mentioned (statements.map trim) name ↔ Mentioned statements name := by
  simp only [Mentioned,List.mem_map,exists_exists_and_eq_and,parse_trim]

theorem admissible_trim : Admissible limit (statements.map trim) ↔ Admissible limit statements := by
  have read : (∀ statement ∈ statements.map trim, ∃ formula, parse statement = .ok formula) ↔
      ∀ statement ∈ statements, ∃ formula, parse statement = .ok formula := by
    simp only [List.forall_mem_map,parse_trim]
  constructor
  · rintro ⟨each,few⟩
    simp only [mentioned_trim] at few
    exact ⟨read.mp each,few⟩
  · rintro ⟨each,few⟩
    refine ⟨read.mpr each,?_⟩
    simpa only [mentioned_trim] using few

/-- What can be said of all statements can be said of each. -/
theorem Admissible.single (admissible : Admissible limit statements) {statement : String}
    (member : statement ∈ statements) : Admissible limit [statement] := by
  constructor
  · intro _ single
    rw [List.mem_singleton.mp single]
    exact admissible.read statement member
  · intro names distinct mentioned
    refine admissible.few names distinct fun name named => ?_
    obtain ⟨_,single,formula,read,inside⟩ := mentioned name named
    rw [List.mem_singleton.mp single] at read
    exact ⟨statement,member,formula,read,inside⟩

end Statement

open Statement (Mentioned Admissible)

/-- The limit holds for the variables that are mentioned if it holds for a list of them all. -/
theorem Statement.admissible_of_vars {limit : Nat} {statements vars : List String}
    (read : ∀ statement ∈ statements, ∃ formula, parse statement = .ok formula)
    (all : ∀ name, name ∈ vars ↔ Mentioned statements name) (bound : vars.length ≤ limit) :
    Admissible limit statements := by
  refine ⟨read,fun names distinct mentioned => ?_⟩
  have within : names ⊆ vars := fun name named => (all name).mpr (mentioned name named)
  exact Nat.le_trans (List.Nodup.subperm distinct within).length_le bound

/-- Nothing else is wrong with a statement by itself. -/
theorem Proposition.exists_parse_iff {statement : String} {config : Config} :
    (∃ proposition, parse statement config = .ok proposition) ↔
      Admissible config.maxVariables [statement] := by
  constructor
  · rintro ⟨proposition,made⟩
    obtain ⟨formula,read,made⟩ := parse_eq_ok.mp made
    obtain ⟨limit,-⟩ := assemble_eq_ok.mp made
    refine Statement.admissible_of_vars (by simp [read]) (fun name => ?_) limit
    rw [(config.order.arrange_perm _).mem_iff]
    simp [Mentioned,read]
  · rintro ⟨read,few⟩
    obtain ⟨formula,read⟩ := read statement (List.mem_singleton_self _)
    have order := config.order.arrange_perm formula.vars
    have limit := few (config.order.arrange formula.vars)
      (order.nodup_iff.mpr (nodup_distinct _))
      fun name named => ⟨statement,List.mem_singleton_self _,formula,read,order.mem_iff.mp named⟩
    exact ⟨_,parse_eq_ok.mpr ⟨formula,read,assemble_eq_ok.mpr ⟨limit,rfl⟩⟩⟩

theorem exists_mapM_of_ok {f : α → Except ε β} {xs : List α}
    (each : ∀ x ∈ xs, ∃ y, f x = .ok y) : ∃ ys, xs.mapM f = .ok ys := by
  induction xs with
  | nil => exact ⟨[],rfl⟩
  | cons x xs ih =>
    obtain ⟨⟨y,first⟩,each⟩ := List.forall_mem_cons.mp each
    obtain ⟨ys,others⟩ := ih each
    refine ⟨y :: ys,?_⟩
    rw [List.mapM_cons,first,others]
    rfl

/-- The statement is read as the formula of the proposition. -/
def Reads (statement : String) (proposition : Proposition) : Prop :=
  Statement.parse statement = .ok proposition.formula

theorem reads_of_parse {statements : List String} {propositions : List Proposition}
    {config : Config} (made : List.Forall₂ (fun statement proposition =>
      Proposition.parse statement config = .ok proposition) statements propositions) :
    List.Forall₂ Reads statements propositions :=
  made.imp fun _ _ made => (Proposition.parsed made).1

/-- The variables of the formulas that statements are read as are those that are mentioned. -/
theorem Statement.mem_flatMap_vars {statements : List String} {propositions : List Proposition}
    (read : List.Forall₂ Reads statements propositions) {name : String} :
    (name ∈ propositions.flatMap fun proposition => proposition.formula.vars) ↔
      Mentioned statements name := by
  rw [List.mem_flatMap]
  constructor
  · rintro ⟨proposition,member,inside⟩
    obtain ⟨statement,of,read⟩ := exists_of_forall₂_right read member
    exact ⟨statement,of,_,read,inside⟩
  · rintro ⟨statement,member,formula,of,inside⟩
    obtain ⟨proposition,listed,read⟩ := exists_of_forall₂_left read member
    cases of.symm.trans read
    exact ⟨proposition,listed,inside⟩

namespace Argument

variable {argument : Argument} {premises : List String} {conclusion? : Option String}
  {config : Config}

theorem mem_vars_iff (made : parse premises conclusion? config = .ok argument) {name : String} :
    name ∈ argument.vars ↔ Mentioned (premises ++ conclusion?.toList) name := by
  have read := reads_of_parse (statements_of_parse made)
  obtain ⟨-,-,made⟩ := parse_eq_ok.mp made
  rw [(vars_of_make made).mem_iff,mem_distinct,List.flatMap_map]
  exact Statement.mem_flatMap_vars read

/-- Nothing else is wrong with the statements of an argument, if there are any. -/
theorem exists_parse_iff : (∃ argument, parse premises conclusion? config = .ok argument) ↔
    premises ++ conclusion?.toList ≠ [] ∧
      Admissible config.maxVariables (premises ++ conclusion?.toList) := by
  constructor
  · rintro ⟨argument,parsed⟩
    have read := reads_of_parse (statements_of_parse parsed)
    obtain ⟨-,-,made⟩ := parse_eq_ok.mp parsed
    obtain ⟨nonempty,limit,-⟩ := make_eq_ok.mp made
    refine ⟨fun none => nonempty ?_,Statement.admissible_of_vars ?_
      (fun _ => mem_vars_iff parsed) limit⟩
    · rwa [none,List.forall₂_nil_left_iff] at read
    · intro statement member
      obtain ⟨proposition,-,read⟩ := exists_of_forall₂_left read member
      exact ⟨_,read⟩
  · rintro ⟨some,admissible⟩
    have each (statement : String) (member : statement ∈ premises ++ conclusion?.toList) :
        ∃ proposition, Proposition.parse statement config = .ok proposition :=
      Proposition.exists_parse_iff.mpr (admissible.single member)
    obtain ⟨parsed,first⟩ := exists_mapM_of_ok fun statement member =>
      each statement (List.mem_append_left _ member)
    obtain ⟨concluded,last⟩ : ∃ concluded,
        conclusion?.mapM (Proposition.parse · config) = .ok concluded := by
      cases conclusion? with
      | none => exact ⟨none,rfl⟩
      | some conclusion =>
        obtain ⟨proposition,made⟩ := each conclusion (by simp)
        refine ⟨.some proposition,?_⟩
        rw [Option.mapM_some,made]
        rfl
    have made := statements_of_mapM first last
    have order := config.order.arrange_perm
      (distinct ((parsed ++ concluded.toList).flatMap fun statement => statement.formula.vars))
    have limit := admissible.few _ (order.nodup_iff.mpr (nodup_distinct _)) fun name named => by
      rw [order.mem_iff,mem_distinct] at named
      exact (Statement.mem_flatMap_vars (reads_of_parse made)).mp named
    have nonempty : parsed ++ concluded.toList ≠ [] := by
      rintro none
      rw [none,List.forall₂_nil_right_iff] at made
      exact some made
    let argument : Argument := ⟨parsed,concluded,config.order.arrange (distinct
      ((parsed ++ concluded.toList).flatMap fun statement => statement.formula.vars)),config⟩
    have accepted : make parsed concluded config = .ok argument :=
      make_eq_ok.mpr ⟨nonempty,limit,rfl⟩
    exact ⟨argument,parse_eq_ok.mpr ⟨first,last,accepted⟩⟩

end Argument

namespace CommandLine

/-- The statements of a request, the conclusion last. -/
def Request.statements : Request → List String
  | .version | .help _ => []
  | .makeTable statement _ => [statement]
  | .checkEquivalence statements _ => statements
  | .checkValidity premises conclusion _ => premises ++ [conclusion]

/-- The labels that a request gives, if it gives any. -/
def Request.labels? : Request → Option String
  | .version | .help _ => none
  | .makeTable _ given | .checkEquivalence _ given | .checkValidity _ _ given =>
    given.value? .labels

/-- Why a request fails. -/
inductive Refused (labels? : Option String) (statements : List String) : Prop where
  /-- The labels are not two distinct characters. -/
  | labels {labels : String} : labels? = some labels →
      (∀ one other, labels.toList = [one,other] → one = other) → Refused labels? statements
  | unread {statement : String} {error : Statement.Error} : statement ∈ statements →
      Statement.parse statement = .error error → Refused labels? statements
  /-- A statement has more than 20 variables. -/
  | wide {statement : String} {formula : Formula} : statement ∈ statements →
      Statement.parse statement = .ok formula → 20 < formula.vars.length →
      Refused labels? statements
  /-- All statements together mention more than 20 variables. -/
  | many {names : List String} : names.Nodup → (∀ name ∈ names, Mentioned statements name) →
      20 < names.length → Refused labels? statements

/-- Labels, if given, are two distinct characters. -/
def Labelled (labels? : Option String) : Prop :=
  ∀ labels, labels? = some labels → ∃ one other, one ≠ other ∧ labels.toList = [one,other]

theorem not_refused_iff {labels? : Option String} {statements : List String} :
    ¬Refused labels? statements ↔ Labelled labels? ∧ Admissible 20 statements := by
  constructor
  · intro accepted
    refine ⟨fun labels given => ?_,fun statement member => ?_,fun names distinct mentioned => ?_⟩
    · by_contra none
      refine accepted (.labels given fun one other spelled => ?_)
      by_contra differ
      exact none ⟨one,other,differ,spelled⟩
    · cases read : Statement.parse statement with
      | ok formula => exact ⟨formula,rfl⟩
      | error error => exact absurd (.unread member read) accepted
    · apply Nat.le_of_not_lt
      exact fun many => accepted (.many distinct mentioned many)
  · rintro ⟨labelled,admissible⟩ refused
    cases refused with
    | labels given same =>
      obtain ⟨one,other,differ,spelled⟩ := labelled _ given
      exact differ (same one other spelled)
    | unread member refused =>
      obtain ⟨formula,read⟩ := admissible.read _ member
      cases refused.symm.trans read
    | wide member read wide =>
      have bound := admissible.few _ (nodup_distinct _) fun name inside =>
        ⟨_,member,_,read,inside⟩
      exact absurd wide (Nat.not_lt_of_le bound)
    | many distinct mentioned many =>
      exact absurd many (Nat.not_lt_of_le (admissible.few _ distinct mentioned))

theorem exists_labels_iff {labels : String} : (∃ read, TruthLabels.parse labels = .ok read) ↔
    ∃ one other, one ≠ other ∧ labels.toList = [one,other] := by
  rw [TruthLabels.parse]
  constructor
  · rintro ⟨read,parsed⟩
    split at parsed
    · next one other spelled =>
      split at parsed
      · cases parsed
      · next differ => exact ⟨one,other,differ,spelled⟩
    · cases parsed
  · rintro ⟨one,other,differ,spelled⟩
    rw [spelled]
    exact ⟨⟨one,other⟩,if_neg differ⟩

namespace Given

variable {given : Given}

theorem limit_of_config {config : Config} (made : given.config = .ok config) :
    config.maxVariables = 20 := by
  rw [Given.config] at made
  split at made
  · cases made
  · cases made
    rfl

theorem exists_config_iff : (∃ config, given.config = .ok config) ↔
    Labelled (given.value? .labels) := by
  rw [Given.config]
  cases labels? : given.value? .labels with
  | none => simp [Labelled]
  | some labels =>
    have single : Labelled (some labels) ↔ ∃ read, TruthLabels.parse labels = .ok read := by
      rw [exists_labels_iff]
      simp [Labelled]
    rw [single]
    cases parsed : TruthLabels.parse labels <;> simp [Except.map,parsed]

theorem exists_proposition_iff {statement : String} :
    (∃ proposition, given.proposition statement = .ok proposition) ↔
      ¬Refused (given.value? .labels) [statement] := by
  rw [not_refused_iff,← exists_config_iff,← Statement.admissible_trim]
  constructor
  · rintro ⟨proposition,made⟩
    obtain ⟨config,configured,made⟩ := bind_eq_ok.mp made
    have admissible := Proposition.exists_parse_iff.mp ⟨_,made⟩
    rw [limit_of_config configured] at admissible
    exact ⟨⟨config,configured⟩,admissible⟩
  · rintro ⟨⟨config,configured⟩,admissible⟩
    rw [← limit_of_config configured] at admissible
    obtain ⟨proposition,made⟩ := Proposition.exists_parse_iff.mpr admissible
    exact ⟨proposition,bind_eq_ok.mpr ⟨config,configured,made⟩⟩

theorem exists_argument_iff {premises : List String} {conclusion? : Option String} :
    (∃ argument, given.argument premises conclusion? = .ok argument) ↔
      premises ++ conclusion?.toList ≠ [] ∧
        ¬Refused (given.value? .labels) (premises ++ conclusion?.toList) := by
  have trimmed : premises.map Text.trim ++ (conclusion?.map Text.trim).toList =
      (premises ++ conclusion?.toList).map Text.trim := by
    rw [List.map_append]
    cases conclusion? <;> rfl
  rw [not_refused_iff,← exists_config_iff,← Statement.admissible_trim,← trimmed]
  have empty : (premises.map Text.trim ++ (conclusion?.map Text.trim).toList ≠ [] ↔
      premises ++ conclusion?.toList ≠ []) := by
    rw [trimmed,ne_eq,List.map_eq_nil_iff]
  rw [← empty]
  constructor
  · rintro ⟨argument,made⟩
    obtain ⟨config,configured,made⟩ := bind_eq_ok.mp made
    obtain ⟨some,admissible⟩ := Argument.exists_parse_iff.mp ⟨_,made⟩
    rw [limit_of_config configured] at admissible
    exact ⟨some,⟨config,configured⟩,admissible⟩
  · rintro ⟨some,⟨config,configured⟩,admissible⟩
    rw [← limit_of_config configured] at admissible
    obtain ⟨argument,made⟩ := Argument.exists_parse_iff.mpr ⟨some,admissible⟩
    exact ⟨argument,bind_eq_ok.mpr ⟨config,configured,made⟩⟩

end Given
end CommandLine
end Sentential
