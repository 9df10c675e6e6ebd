import Mathlib.Data.Set.Defs
import Sentential.Proofs.Enumeration
import Sentential.Proofs.Equivalence
import Sentential.Proofs.Reading
import Sentential.Proofs.Results
import Sentential.Proofs.Validity

/-! Presentation settings and what does not depend on them. Two arguments that state the same formulas
get the same answers however their variables are ordered, their rows run and their columns are chosen,
since the rows of both stand for all valuations. Running the rows the other way only turns the tables
upside down. -/
namespace Sentential

/-- Both questions have the same answer. -/
def SameAnswer (asked other : Except LogicError α) : Prop :=
  ∃ answer, asked = .ok answer ∧ other = .ok answer

namespace TruthTable

/-- The table with its rows in the opposite order. -/
def mirror (table : TruthTable) : TruthTable := { table with rows := table.rows.reverse }

/-- What the rows at the given places assign, as maps from names. -/
def maps (table : TruthTable) (places : List Nat) : Set (String → Option Bool) :=
  { map | ∃ place ∈ places, ∃ assignment,
    table.assignment? place = some assignment ∧ assignment.get? = map }

theorem filled_not {vars : List String} {formulas : List Formula} {reversed : Bool} :
    filled vars formulas (!reversed) = (filled vars formulas reversed).mirror := by
  rw [filled,rows_not,List.map_reverse]
  rfl

theorem assignment_mirror {table : TruthTable} {place : Nat} (bound : place < table.size) :
    table.mirror.assignment? (table.size - 1 - place) = table.assignment? place := by
  have counted : table.rows.length - 1 - (table.rows.length - 1 - place) = place := by
    have : place < table.rows.length := bound
    omega
  have found : table.mirror.rows[table.size - 1 - place]? = table.rows[place]? := by
    rw [mirror,List.getElem?_reverse (by rw [size] at bound ⊢; omega),size,counted]
  rw [assignment?,found]
  rfl

end TruthTable

/-- The configuration that differs only in the direction of the rows. -/
def Config.mirror (config : Config) : Config := { config with reversed := !config.reversed }

namespace Proposition

/-- The verdicts on two propositions are the same. -/
structure SameVerdicts (proposition other : Proposition) : Prop where
  tautology : SameAnswer proposition.isTautology other.isTautology
  contradiction : SameAnswer proposition.isContradiction other.isContradiction
  satisfiable : SameAnswer proposition.isSatisfiable other.isSatisfiable

/-- The table of one proposition is that of the other upside down, and so are the values. -/
structure Mirrored (proposition other : Proposition) : Prop where
  table : ∃ table, proposition.table = .ok table ∧ other.table = .ok table.mirror
  values : ∃ values, proposition.values = .ok values ∧ other.values = .ok values.reverse

def mirror (proposition : Proposition) : Proposition :=
  { proposition with config := proposition.config.mirror }

variable {statement : String} {config : Config} {proposition other : Proposition}

theorem parsed (made : parse statement config = .ok proposition) :
    Statement.parse statement = .ok proposition.formula ∧ proposition.Arranged := by
  obtain ⟨formula,read,made⟩ := parse_eq_ok.mp made
  have arranged := arranged_of_assemble made
  obtain ⟨-,rfl⟩ := assemble_eq_ok.mp made
  exact ⟨read,arranged⟩

theorem parse_mirror (made : parse statement config = .ok proposition) :
    parse statement config.mirror = .ok proposition.mirror := by
  obtain ⟨formula,read,made⟩ := parse_eq_ok.mp made
  obtain ⟨limit,rfl⟩ := assemble_eq_ok.mp made
  exact parse_eq_ok.mpr ⟨formula,read,assemble_eq_ok.mpr ⟨limit,rfl⟩⟩

theorem Arranged.sameVerdicts (arranged : proposition.Arranged) (arranged' : other.Arranged)
    (same : proposition.formula = other.formula) : proposition.SameVerdicts other where
  tautology := ⟨_,arranged.isTautology,same ▸ arranged'.isTautology⟩
  contradiction := ⟨_,arranged.isContradiction,same ▸ arranged'.isContradiction⟩
  satisfiable := ⟨_,arranged.isSatisfiable,same ▸ arranged'.isSatisfiable⟩

theorem sameVerdicts_of_parse {config' : Config}
    (made : parse statement config = .ok proposition)
    (made' : parse statement config' = .ok other) : proposition.SameVerdicts other := by
  obtain ⟨read,arranged⟩ := parsed made
  obtain ⟨read',arranged'⟩ := parsed made'
  exact arranged.sameVerdicts arranged' (Except.ok.inj (read.symm.trans read'))

theorem Arranged.mirrored (arranged : proposition.Arranged) :
    proposition.Mirrored proposition.mirror := by
  have arranged' : proposition.mirror.Arranged := ⟨arranged.vars_eq,arranged.limit⟩
  have upside : proposition.mirror.filled = proposition.filled.mirror := TruthTable.filled_not
  refine ⟨⟨_,arranged.table,upside ▸ arranged'.table⟩,⟨_,arranged.values,?_⟩⟩
  rw [arranged'.values,← List.map_reverse,← rows_not]
  rfl

theorem mirrored_of_parse (made : parse statement config = .ok proposition)
    (made' : parse statement config.mirror = .ok other) : proposition.Mirrored other := by
  rw [← Except.ok.inj ((parse_mirror made).symm.trans made')]
  exact (parsed made).2.mirrored

end Proposition

namespace Argument

/-- What the rows that fail assign, as maps from names. -/
def failingMaps (argument : Argument) : Except LogicError (Set (String → Option Bool)) := do
  let table ← argument.table
  let validity ← argument.validity
  return table.maps validity.failingRows

/-- What a test says about its two statements. -/
def verdict (test : EquivalenceTest) : (Nat × Nat) × Bool := (sides test,test.equivalent)

/-- The verdicts on two arguments are the same, those on their statements included. -/
structure SameVerdicts (argument other : Argument) : Prop where
  statements : List.Forall₂ Proposition.SameVerdicts argument.statements other.statements
  missing : argument.conclusion? = none →
    argument.validity = .error .missingConclusion ∧ other.validity = .error .missingConclusion
  valid : argument.conclusion?.isSome →
    SameAnswer (argument.validity.map Validity.valid) (other.validity.map Validity.valid)
  failing : argument.conclusion?.isSome → SameAnswer argument.failingMaps other.failingMaps
  equivalent : ∀ comparison,
    SameAnswer ((argument.equivalenceTests comparison).map (·.map verdict))
      ((other.equivalenceTests comparison).map (·.map verdict))
  allEquivalent : ∀ comparison,
    SameAnswer ((argument.equivalenceTests comparison).map EquivalenceTest.allEquivalent)
      ((other.equivalenceTests comparison).map EquivalenceTest.allEquivalent)

/-- The table of one argument is that of the other upside down, so a row that fails is found at the
place counted from the other end, where the same is assigned. -/
structure Mirrored (argument other : Argument) : Prop where
  statements : List.Forall₂ Proposition.Mirrored argument.statements other.statements
  table : ∃ table, argument.table = .ok table ∧ other.table = .ok table.mirror ∧
    table.size = rowTotal argument.vars.length ∧ ∀ place < rowTotal argument.vars.length,
      table.mirror.assignment? (rowTotal argument.vars.length - 1 - place) =
        table.assignment? place
  failing : argument.conclusion?.isSome → ∃ validity validity',
    argument.validity = .ok validity ∧ other.validity = .ok validity' ∧
      (∀ place ∈ validity.failingRows, place < rowTotal argument.vars.length) ∧
      validity'.failingRows = (validity.failingRows.map
        (rowTotal argument.vars.length - 1 - ·)).reverse

/-- Two arguments state the same formulas, over the same variables in some order. -/
structure Alike (argument other : Argument) : Prop where
  premises : argument.premises.map Proposition.formula = other.premises.map Proposition.formula
  conclusion : argument.conclusion?.map Proposition.formula =
    other.conclusion?.map Proposition.formula
  vars : argument.vars.Perm other.vars

variable {argument other : Argument}

theorem formulas_eq (argument : Argument) : argument.statements.map Proposition.formula =
    argument.premises.map Proposition.formula ++
      (argument.conclusion?.map Proposition.formula).toList := by
  rw [statements,List.map_append]
  cases argument.conclusion? <;> rfl

namespace Alike

theorem formulas (alike : Alike argument other) :
    argument.statements.map Proposition.formula = other.statements.map Proposition.formula := by
  rw [formulas_eq,formulas_eq,alike.premises,alike.conclusion]

theorem refutedBy_iff (alike : Alike argument other) (truth : String → Bool) :
    argument.RefutedBy truth ↔ other.RefutedBy truth := by
  have spelled (argument : Argument) : argument.RefutedBy truth ↔
      (∀ formula ∈ argument.premises.map Proposition.formula, formula.value truth = true) ∧
        ∃ formula ∈ argument.conclusion?.map Proposition.formula,
          formula.value truth = false := by
    simp [RefutedBy]
  rw [spelled,spelled,alike.premises,alike.conclusion]

/-- Only the formulas and the places of the statements decide what the tests say. -/
theorem verdicts (alike : Alike argument other) (comparison : Comparison) :
    ((pairs comparison argument.statements.zipIdx).map argument.outcome).map verdict =
      ((pairs comparison other.statements.zipIdx).map other.outcome).map verdict := by
  let judge (pair : (Formula × Nat) × Formula × Nat) : (Nat × Nat) × Bool :=
    ((pair.1.2,pair.2.2),pair.1.1.equivalent pair.2.1)
  have judged (argument : Argument) :
      ((pairs comparison argument.statements.zipIdx).map argument.outcome).map verdict =
        (pairs comparison (argument.statements.map Proposition.formula).zipIdx).map judge := by
    rw [List.zipIdx_map,← map_pairs,List.map_map,List.map_map]
    rfl
  rw [judged,judged,alike.formulas]

end Alike

theorem allEquivalent_eq (tests : List EquivalenceTest) :
    EquivalenceTest.allEquivalent tests = (tests.map verdict).all Prod.snd := by
  rw [EquivalenceTest.allEquivalent,List.all_map]
  rfl

section

variable {conclusion : Proposition}

/-- The rows that fail stand for the valuations that refute the argument. -/
theorem WellFormed.maps_failing (wellFormed : argument.WellFormed)
    (concluded : argument.conclusion? = some conclusion) :
    argument.filled.maps argument.failing = { map | ∃ truth, argument.RefutedBy truth ∧
      map = fun name => if name ∈ argument.vars then some (truth name) else none } := by
  have assigned (truth : String → Bool) (name : String) (member : name ∈ argument.vars) :=
    Assignment.get_ofRow_map wellFormed.distinct truth member
  ext map
  constructor
  · rintro ⟨place,fails,assignment,found,rfl⟩
    obtain ⟨_,found',refutes⟩ := (wellFormed.mem_failing concluded).mp fails
    cases found.symm.trans found'
    rw [filled,TruthTable.assignment_filled,Option.map_eq_some_iff] at found
    obtain ⟨row,listed,rfl⟩ := found
    obtain ⟨truth,rfl⟩ :=
      Assignment.exists_valuation wellFormed.distinct (TruthTable.width_of_getElem listed)
    exact ⟨truth,(wellFormed.refutes_iff (assigned truth)).mp refutes,
      Assignment.get_ofRow_eq wellFormed.distinct truth⟩
  · rintro ⟨truth,refuted,rfl⟩
    have width : (argument.vars.map truth).length = argument.vars.length := List.length_map _
    have listed : argument.vars.map truth ∈
        rows argument.config.reversed argument.vars.length := mem_rows.mpr width
    obtain ⟨place,found⟩ := List.mem_iff_getElem?.mp listed
    have assignment : argument.filled.assignment? place =
        some (.ofRow argument.vars (argument.vars.map truth)) := by
      rw [filled,TruthTable.assignment_filled,found]
      rfl
    have refutes := (wellFormed.refutes_iff (assigned truth)).mpr refuted
    exact ⟨place,(wellFormed.mem_failing concluded).mpr ⟨_,assignment,refutes⟩,_,assignment,
      Assignment.get_ofRow_eq wellFormed.distinct truth⟩

theorem WellFormed.failingMaps_eq (wellFormed : argument.WellFormed)
    (concluded : argument.conclusion? = some conclusion) :
    argument.failingMaps = .ok (argument.filled.maps argument.failing) := by
  rw [failingMaps,wellFormed.table,wellFormed.validity_eq concluded]
  rfl

end

theorem validity_of_none (missing : argument.conclusion? = none) :
    argument.validity = .error .missingConclusion := by
  rw [validity,missing]

theorem Alike.sameVerdicts (alike : Alike argument other) (wellFormed : argument.WellFormed)
    (wellFormed' : other.WellFormed)
    (statements : List.Forall₂ Proposition.SameVerdicts argument.statements other.statements) :
    argument.SameVerdicts other := by
  constructor
  case statements => exact statements
  case missing =>
    intro missing
    have same := alike.conclusion
    rw [missing,Option.map_none,eq_comm,Option.map_eq_none_iff] at same
    exact ⟨validity_of_none missing,validity_of_none same⟩
  case valid =>
    intro some
    obtain ⟨conclusion,concluded⟩ := Option.isSome_iff_exists.mp some
    obtain ⟨conclusion',concluded',-⟩ := Option.map_eq_some_iff.mp
      (alike.conclusion.symm.trans (congrArg (Option.map Proposition.formula) concluded))
    have same : argument.failing.isEmpty = other.failing.isEmpty := by
      rw [Bool.eq_iff_iff,List.isEmpty_iff,List.isEmpty_iff,wellFormed.failing_eq_nil concluded,
        wellFormed'.failing_eq_nil concluded']
      exact forall_congr' fun truth => not_congr (alike.refutedBy_iff truth)
    refine ⟨_,congrArg (Except.map _) (wellFormed.validity_eq concluded),?_⟩
    rw [wellFormed'.validity_eq concluded']
    exact congrArg Except.ok same.symm
  case failing =>
    intro some
    obtain ⟨conclusion,concluded⟩ := Option.isSome_iff_exists.mp some
    obtain ⟨conclusion',concluded',-⟩ := Option.map_eq_some_iff.mp
      (alike.conclusion.symm.trans (congrArg (Option.map Proposition.formula) concluded))
    refine ⟨_,wellFormed.failingMaps_eq concluded,?_⟩
    rw [wellFormed'.failingMaps_eq concluded',wellFormed'.maps_failing concluded',
      wellFormed.maps_failing concluded]
    simp only [alike.refutedBy_iff,alike.vars.mem_iff]
  case equivalent =>
    intro comparison
    rw [wellFormed.equivalenceTests_eq_ok,wellFormed'.equivalenceTests_eq_ok]
    exact ⟨_,rfl,congrArg Except.ok (alike.verdicts comparison).symm⟩
  case allEquivalent =>
    intro comparison
    rw [wellFormed.equivalenceTests_eq_ok,wellFormed'.equivalenceTests_eq_ok]
    refine ⟨_,rfl,congrArg Except.ok ?_⟩
    rw [allEquivalent_eq,allEquivalent_eq,alike.verdicts comparison]

section

variable {premises : List String} {conclusion? : Option String} {config config' : Config}

theorem parse_eq_ok :
    parse premises conclusion? config = .ok argument ↔
      premises.mapM (Proposition.parse · config) = .ok argument.premises ∧
      conclusion?.mapM (Proposition.parse · config) = .ok argument.conclusion? ∧
      make argument.premises argument.conclusion? config = .ok argument := by
  rw [parse,bind_eq_ok]
  constructor
  · rintro ⟨parsed,first,made⟩
    obtain ⟨concluded,last,made⟩ := bind_eq_ok.mp made
    obtain ⟨-,-,rfl⟩ := make_eq_ok.mp made
    exact ⟨first,last,made⟩
  · rintro ⟨first,last,made⟩
    exact ⟨_,first,bind_eq_ok.mpr ⟨_,last,made⟩⟩

/-- Each statement is read by itself, the conclusion like the premises. -/
theorem statements_of_mapM {parsed : List Proposition} {concluded : Option Proposition}
    (first : premises.mapM (Proposition.parse · config) = .ok parsed)
    (last : conclusion?.mapM (Proposition.parse · config) = .ok concluded) :
    List.Forall₂ (fun statement proposition => Proposition.parse statement config = .ok proposition)
      (premises ++ conclusion?.toList) (parsed ++ concluded.toList) := by
  apply List.rel_append (forall₂_of_mapM first)
  cases conclusion? with
  | none =>
    rw [← Except.ok.inj last]
    exact .nil
  | some statement =>
    obtain ⟨proposition,read,last⟩ := bind_eq_ok.mp last
    rw [← Except.ok.inj last]
    exact .cons read .nil

theorem statements_of_parse (made : parse premises conclusion? config = .ok argument) :
    List.Forall₂ (fun statement proposition => Proposition.parse statement config = .ok proposition)
      (premises ++ conclusion?.toList) argument.statements := by
  obtain ⟨first,last,-⟩ := parse_eq_ok.mp made
  exact statements_of_mapM first last

theorem vars_of_make {parsed : List Proposition} {concluded : Option Proposition}
    (made : make parsed concluded config = .ok argument) :
    argument.vars.Perm
      (distinct ((argument.statements.map Proposition.formula).flatMap Formula.vars)) := by
  obtain ⟨-,-,rfl⟩ := make_eq_ok.mp made
  rw [List.flatMap_map]
  exact config.order.arrange_perm _

theorem alike_of_parse (made : parse premises conclusion? config = .ok argument)
    (made' : parse premises conclusion? config' = .ok other) : Alike argument other := by
  obtain ⟨first,last,made⟩ := parse_eq_ok.mp made
  obtain ⟨first',last',made'⟩ := parse_eq_ok.mp made'
  have read {config : Config} (statement : String) (proposition : Proposition)
      (made : Proposition.parse statement config = .ok proposition) :
      Statement.parse statement = .ok proposition.formula :=
    (Proposition.parsed made).1
  have premises_eq : argument.premises.map Proposition.formula =
      other.premises.map Proposition.formula :=
    Except.ok.inj ((mapM_map_ok read first).symm.trans (mapM_map_ok read first'))
  have conclusion_eq : argument.conclusion?.map Proposition.formula =
      other.conclusion?.map Proposition.formula :=
    Except.ok.inj ((option_mapM_map_ok read last).symm.trans (option_mapM_map_ok read last'))
  have vars := vars_of_make made
  rw [formulas_eq,premises_eq,conclusion_eq,← formulas_eq] at vars
  exact ⟨premises_eq,conclusion_eq,vars.trans (vars_of_make made').symm⟩

def mirror (argument : Argument) : Argument :=
  ⟨argument.premises.map .mirror,argument.conclusion?.map .mirror,argument.vars,
    argument.config.mirror⟩

theorem statements_mirror (argument : Argument) :
    argument.mirror.statements = argument.statements.map .mirror := by
  rw [statements,statements,mirror,List.map_append]
  cases argument.conclusion? <;> rfl

/-- What is accepted is accepted with its rows the other way. -/
theorem parse_mirror (made : parse premises conclusion? config = .ok argument) :
    parse premises conclusion? config.mirror = .ok argument.mirror := by
  obtain ⟨first,last,made⟩ := parse_eq_ok.mp made
  have each (statement : String) (proposition : Proposition)
      (made : Proposition.parse statement config = .ok proposition) :=
    Proposition.parse_mirror made
  obtain ⟨nonempty,limit,whole⟩ := make_eq_ok.mp made
  have some : argument.mirror.statements ≠ [] := by simpa [statements_mirror] using nonempty
  refine parse_eq_ok.mpr ⟨mapM_map_ok each first,option_mapM_map_ok each last,
    make_eq_ok.mpr ⟨some,limit,?_⟩⟩
  have listed : argument.mirror.premises ++ argument.mirror.conclusion?.toList =
      (argument.premises ++ argument.conclusion?.toList).map .mirror := statements_mirror argument
  rw [listed,List.flatMap_map]
  exact congrArg mirror whole

theorem filled_mirror (argument : Argument) : argument.mirror.filled = argument.filled.mirror := by
  have same : argument.mirror.statements.map Proposition.formula =
      argument.statements.map Proposition.formula := by
    rw [statements_mirror,List.map_map]
    rfl
  rw [filled,same]
  exact TruthTable.filled_not

theorem failing_mirror (argument : Argument) : argument.mirror.failing =
    (argument.failing.map (rowTotal argument.vars.length - 1 - ·)).reverse := by
  have same : argument.mirror.isCounterexample = argument.isCounterexample := by
    funext cells
    simp [isCounterexample,statementCells,mirror]
  have total : argument.filled.rows.length = rowTotal argument.vars.length :=
    TruthTable.size_filled
  rw [failing,same,filled_mirror,TruthTable.mirror,places_reverse,total]
  rfl

theorem WellFormed.mirror (wellFormed : argument.WellFormed) : argument.mirror.WellFormed where
  nonempty := by
    rw [statements_mirror]
    simpa using wellFormed.nonempty
  distinct := wellFormed.distinct
  within := by
    rw [statements_mirror,List.forall_mem_map]
    exact wellFormed.within
  limit := wellFormed.limit

theorem WellFormed.mirrored (wellFormed : argument.WellFormed)
    (statements : List.Forall₂ Proposition.Mirrored argument.statements argument.mirror.statements) :
    argument.Mirrored argument.mirror := by
  have total : argument.filled.size = rowTotal argument.vars.length := TruthTable.size_filled
  constructor
  case statements => exact statements
  case table =>
    refine ⟨_,wellFormed.table,filled_mirror argument ▸ wellFormed.mirror.table,total,?_⟩
    intro place bound
    rw [← total] at bound ⊢
    exact TruthTable.assignment_mirror bound
  case failing =>
    intro some
    obtain ⟨conclusion,concluded⟩ := Option.isSome_iff_exists.mp some
    have concluded' : argument.mirror.conclusion? = .some conclusion.mirror := by
      rw [Argument.mirror,concluded]
      rfl
    refine ⟨_,_,wellFormed.validity_eq concluded,wellFormed.mirror.validity_eq concluded',?_,
      failing_mirror argument⟩
    intro place fails
    obtain ⟨cells,found,-⟩ := mem_places.mp fails
    rw [← total]
    exact (List.getElem?_eq_some_iff.mp found).1

theorem mirrored_of_parse (made : parse premises conclusion? config = .ok argument) :
    argument.Mirrored argument.mirror := by
  have read := statements_of_parse made
  have read' := statements_of_parse (parse_mirror made)
  have each (statement : String) (proposition other : Proposition)
      (made : Proposition.parse statement config = .ok proposition)
      (made' : Proposition.parse statement config.mirror = .ok other) :
      proposition.Mirrored other :=
    Proposition.mirrored_of_parse made made'
  exact (Accepted.wellFormed (.parsed made)).mirrored (forall₂_of_forall₂ each read read')

theorem sameVerdicts_of_parse (made : parse premises conclusion? config = .ok argument)
    (made' : parse premises conclusion? config' = .ok other) : argument.SameVerdicts other := by
  have read := statements_of_parse made
  have read' := statements_of_parse made'
  have each (statement : String) (proposition other : Proposition)
      (made : Proposition.parse statement config = .ok proposition)
      (made' : Proposition.parse statement config' = .ok other) : proposition.SameVerdicts other :=
    Proposition.sameVerdicts_of_parse made made'
  exact (alike_of_parse made made').sameVerdicts (Accepted.wellFormed (.parsed made))
    (Accepted.wellFormed (.parsed made')) (forall₂_of_forall₂ each read read')

end

end Argument

/-- What a configuration says about the order of the variables, the direction of the rows, the columns
and the labels does not change a verdict, on a statement or on an argument. If two configurations
differ in the direction of the rows, the tables are each other upside down. -/
theorem presentation_irrelevant {config config' : Config} :
    (∀ statement proposition other, Proposition.parse statement config = .ok proposition →
      Proposition.parse statement config' = .ok other →
      proposition.SameVerdicts other ∧ (config' = config.mirror → proposition.Mirrored other)) ∧
    ∀ premises conclusion? argument other,
      Argument.parse premises conclusion? config = .ok argument →
      Argument.parse premises conclusion? config' = .ok other →
      argument.SameVerdicts other ∧ (config' = config.mirror → argument.Mirrored other) := by
  constructor
  · intro statement proposition other made made'
    refine ⟨Proposition.sameVerdicts_of_parse made made',?_⟩
    rintro rfl
    exact Proposition.mirrored_of_parse made made'
  · intro premises conclusion? argument other made made'
    refine ⟨Argument.sameVerdicts_of_parse made made',?_⟩
    rintro rfl
    rw [← Except.ok.inj ((Argument.parse_mirror made).symm.trans made')]
    exact Argument.mirrored_of_parse made

/-- `q -> p` does not yield `q`. The rows that fail are the first and the third if the rows ascend,
so the second and the fourth if they descend. -/
theorem presentation_irrelevant_converse :
    let config : Config := { order := .sorted }
    let config' : Config := { order := .sorted, reversed := true }
    ∃ argument other, Argument.parse ["q -> p"] (some "q") config = .ok argument ∧
      Argument.parse ["q -> p"] (some "q") config' = .ok other ∧
      argument.SameVerdicts other ∧ argument.Mirrored other ∧
      argument.validity = .ok ⟨[0,2],some ⟨[("p",false),("q",false)]⟩⟩ ∧
      other.validity = .ok ⟨[1,3],some ⟨[("p",true),("q",false)]⟩⟩ := by
  intro config config'
  let conditional : Formula := .conditional (.var "q") (.var "p")
  let argument (config : Config) : Argument :=
    ⟨[⟨"q -> p",conditional,["p","q"],config⟩],some ⟨"q",.var "q",["q"],config⟩,["p","q"],config⟩
  have first : Statement.parse "q -> p" = .ok (Statement.Tree.formula
      (.binary .implies (.name "q") (.name "p"))) :=
    Statement.parse_of_tree (by decide +kernel)
  have last : Statement.parse "q" = .ok (Statement.Tree.formula (.name "q")) :=
    Statement.parse_of_tree (by decide +kernel)
  have sorted : conditional.vars.mergeSort = ["p","q"] := mergeSort_swapped (by decide)
  have single : (Formula.var "q").vars.mergeSort = ["q"] := List.mergeSort_singleton _
  have union : (distinct (conditional.vars ++ (Formula.var "q").vars)).mergeSort = ["p","q"] :=
    mergeSort_swapped (by decide)
  have made (reversed : Bool) :
      let config : Config := { order := .sorted, reversed := reversed }
      Argument.parse ["q -> p"] (some "q") config = .ok (argument config) := by
    intro config
    have read {text : String} {formula : Formula} {vars : List String}
        (read : Statement.parse text = .ok formula) (sorted : formula.vars.mergeSort = vars)
        (few : vars.length ≤ 20) :
        Proposition.parse text config = .ok ⟨text,formula,vars,config⟩ := by
      subst sorted
      exact Proposition.parse_eq_ok.mpr ⟨_,read,Proposition.assemble_eq_ok.mpr ⟨few,rfl⟩⟩
    have few : 2 ≤ 20 := by decide
    refine Argument.parse_eq_ok.mpr ⟨?_,?_,Argument.make_eq_ok.mpr
      ⟨List.cons_ne_nil _ _,few,?_⟩⟩
    · rw [List.mapM_cons,read first sorted (by decide)]
      rfl
    · rw [Option.mapM_some,read last single (by decide)]
      rfl
    · exact congrArg (fun vars => (⟨_,_,vars,config⟩ : Argument)) union.symm
  obtain ⟨same,mirrored⟩ := presentation_irrelevant.2 _ _ _ _ (made false) (made true)
  exact ⟨_,_,made false,made true,same,mirrored rfl,by decide +kernel,by decide +kernel⟩

end Sentential
