import Sentential.Proofs.Tabulation

/-! Validity of arguments. The rows that fail are those whose assignment makes every premise true
and the conclusion false, and as the rows stand for all assignments, an argument without such a row
has no countermodel at all. The marks of the rows and the tautology test of the implication from the
premises to the conclusion, each computed in its own way, come to the same. -/
namespace Sentential

/-- The places of the elements that satisfy `p`. -/
def places (p : α → Bool) (xs : List α) : List Nat :=
  xs.zipIdx.filterMap fun (x,place) => if p x then some place else none

theorem mem_places {p : α → Bool} {xs : List α} {place : Nat} :
    place ∈ places p xs ↔ ∃ x, xs[place]? = some x ∧ p x := by
  simp only [places,List.mem_filterMap,Prod.exists,List.mem_zipIdx_iff_getElem?]
  constructor
  · rintro ⟨x,place',found,kept⟩
    split at kept
    · next satisfied =>
      cases kept
      exact ⟨x,found,satisfied⟩
    · cases kept
  · rintro ⟨x,found,satisfied⟩
    exact ⟨x,place,found,if_pos satisfied⟩

theorem places_ascending (p : α → Bool) (xs : List α) : (places p xs).Pairwise (· < ·) := by
  have indices : xs.zipIdx.Pairwise fun a b => a.2 < b.2 := by
    apply List.pairwise_map.mp
    rw [List.zipIdx_map_snd]
    exact List.pairwise_lt_range'
  apply indices.filterMap
  rintro ⟨x,i⟩ ⟨y,j⟩ before place kept place' kept'
  dsimp only at kept kept'
  split at kept
  · split at kept'
    · cases kept
      cases kept'
      exact before
    · cases kept'
  · cases kept

theorem places_append (p : α → Bool) (xs ys : List α) :
    places p (xs ++ ys) = places p xs ++ (places p ys).map (xs.length + ·) := by
  rw [places,List.zipIdx_append,List.filterMap_append,Nat.zero_add,
    List.zipIdx_eq_map_add (l := ys) (i := xs.length),List.filterMap_map,places,places,
    List.map_filterMap]
  congr 1
  apply List.filterMap_congr
  rintro ⟨x,place⟩ -
  by_cases kept : p x <;> simp [kept]

/-- Seen from the other end of the list the places are counted down. -/
theorem places_reverse (p : α → Bool) (xs : List α) :
    places p xs.reverse = ((places p xs).map (xs.length - 1 - ·)).reverse := by
  induction xs with
  | nil => rfl
  | cons x xs ih =>
    have split : places p (x :: xs) = places p [x] ++ (places p xs).map (1 + ·) :=
      places_append p [x] xs
    have counted (place : Nat) : xs.length + 1 - 1 - (1 + place) = xs.length - 1 - place := by omega
    rw [List.reverse_cons,places_append,ih,split,List.map_append,List.reverse_append,
      List.map_map,List.length_reverse,List.length_cons]
    congr 1
    · simp only [Function.comp_def,counted]
    · by_cases kept : p x <;> simp [places,kept]

/-- The conjunction of formulas, joined from the left. -/
def Formula.conjoined (first : Formula) (others : List Formula) : Formula :=
  others.foldl Formula.and first

theorem Formula.value_conjoined {truth : String → Bool} {first : Formula} {others : List Formula} :
    (conjoined first others).value truth = true ↔
      ∀ formula ∈ first :: others, formula.value truth = true := by
  induction others generalizing first with
  | nil => simp [conjoined]
  | cons next others ih =>
    have step : conjoined first (next :: others) = conjoined (first.and next) others := rfl
    rw [step,ih]
    simp [and_assoc]

namespace Argument

/-- Every premise is true and the conclusion false where names have these values. -/
def RefutedBy (argument : Argument) (truth : String → Bool) : Prop :=
  (∀ premise ∈ argument.premises, premise.formula.value truth = true) ∧
    ∃ conclusion ∈ argument.conclusion?, conclusion.formula.value truth = false

/-- Evaluation under the assignment makes every premise true and the conclusion false. -/
def Refutes (argument : Argument) (assignment : Assignment) : Prop :=
  (∀ premise ∈ argument.premises, premise.formula.eval assignment = .ok true) ∧
    ∃ conclusion ∈ argument.conclusion?, conclusion.formula.eval assignment = .ok false

variable {argument : Argument}

theorem mem_statements {statement : Proposition} :
    statement ∈ argument.statements ↔
      statement ∈ argument.premises ∨ statement ∈ argument.conclusion? := by
  simp [statements]

theorem WellFormed.refutes_iff {assignment : Assignment} {truth : String → Bool}
    (wellFormed : argument.WellFormed)
    (assigned : ∀ name ∈ argument.vars, assignment.get? name = some (truth name)) :
    argument.Refutes assignment ↔ argument.RefutedBy truth := by
  have value {statement : Proposition} (member : statement ∈ argument.statements) (value : Bool) :
      statement.formula.eval assignment = .ok value ↔ statement.formula.value truth = value := by
    rw [wellFormed.eval assigned member,Except.ok.injEq]
  refine and_congr ?_ ?_
  · exact forall₂_congr fun _ member => value (mem_statements.mpr (.inl member)) true
  · refine exists_congr fun conclusion => and_congr_right fun member => ?_
    exact value (mem_statements.mpr (.inr member)) false

/-- A row fails if its assignment is a countermodel. -/
theorem WellFormed.isCounterexample_iff (wellFormed : argument.WellFormed)
    {conclusion : Proposition} (concluded : argument.conclusion? = some conclusion)
    {row : List Bool} (width : row.length = argument.vars.length) :
    argument.isCounterexample (TruthTable.cellsOf argument.vars
        (argument.statements.map Proposition.formula) row) ↔
      argument.Refutes (.ofRow argument.vars row) := by
  have covers := Assignment.covers_ofRow wellFormed.distinct width
  have values (truth : String → Bool) : argument.values truth =
      (argument.premises.map fun premise => premise.formula.value truth) ++
        [conclusion.formula.value truth] := by
    simp [Argument.values,statements,concluded]
  rw [wellFormed.refutes_iff fun _ => covers.get?]
  simp only [isCounterexample,statementCells_cellsOf width,values]
  rw [List.take_left' (List.length_map _),List.getElem?_append_right (by simp)]
  simp [RefutedBy,concluded]

/-- The places of the rows that fail. -/
def failing (argument : Argument) : List Nat :=
  places argument.isCounterexample argument.filled.rows

section

variable {conclusion : Proposition}

theorem WellFormed.mem_failing (wellFormed : argument.WellFormed)
    (concluded : argument.conclusion? = some conclusion) {place : Nat} :
    place ∈ argument.failing ↔ ∃ assignment,
      argument.filled.assignment? place = some assignment ∧ argument.Refutes assignment := by
  rw [failing,mem_places,filled,TruthTable.getElem_filled,TruthTable.assignment_filled]
  simp only [Option.map_eq_some_iff]
  constructor
  · rintro ⟨_,⟨row,found,rfl⟩,fails⟩
    have width := TruthTable.width_of_getElem found
    exact ⟨_,⟨row,found,rfl⟩,(wellFormed.isCounterexample_iff concluded width).mp fails⟩
  · rintro ⟨_,⟨row,found,rfl⟩,refutes⟩
    have width := TruthTable.width_of_getElem found
    exact ⟨_,⟨row,found,rfl⟩,(wellFormed.isCounterexample_iff concluded width).mpr refutes⟩

/-- If no row fails there is no countermodel, since every valuation has its row. -/
theorem WellFormed.failing_eq_nil (wellFormed : argument.WellFormed)
    (concluded : argument.conclusion? = some conclusion) :
    argument.failing = [] ↔ ∀ truth, ¬argument.RefutedBy truth := by
  have onRows : argument.failing = [] ↔ ∀ row : List Bool, row.length = argument.vars.length →
      ¬argument.Refutes (.ofRow argument.vars row) := by
    rw [List.eq_nil_iff_forall_not_mem]
    simp only [wellFormed.mem_failing concluded,filled,TruthTable.assignment_filled,
      Option.map_eq_some_iff,not_exists,not_and]
    constructor
    · intro none row width
      have listed : row ∈ rows argument.config.reversed argument.vars.length := mem_rows.mpr width
      obtain ⟨place,found⟩ := List.mem_iff_getElem?.mp listed
      exact none place _ ⟨row,found,rfl⟩
    · rintro none place _ ⟨row,found,rfl⟩
      exact none row (TruthTable.width_of_getElem found)
  rw [onRows,forall_rows_iff wellFormed.distinct]
  refine forall_congr' fun truth => not_congr ?_
  exact wellFormed.refutes_iff fun _ => Assignment.get_ofRow_map wellFormed.distinct truth

theorem WellFormed.validity_eq (wellFormed : argument.WellFormed)
    (concluded : argument.conclusion? = some conclusion) :
    argument.validity =
      .ok ⟨argument.failing,argument.failing.head?.bind argument.filled.assignment?⟩ := by
  rw [validity,concluded,wellFormed.table]
  rfl

/-- Without a countermodel the premises together imply the conclusion, and conversely. -/
theorem isTautology_implication {first : Proposition} {others : List Proposition}
    (premises : argument.premises = first :: others)
    (concluded : argument.conclusion? = some conclusion) :
    ((Formula.conjoined first.formula (others.map Proposition.formula)).implies
        conclusion.formula).isTautology ↔
      ∀ truth, ¬argument.RefutedBy truth := by
  rw [Formula.isTautology_iff]
  refine forall_congr' fun truth => ?_
  have together : (Formula.conjoined first.formula (others.map Proposition.formula)).value truth =
      true ↔ ∀ premise ∈ argument.premises, premise.formula.value truth = true := by
    rw [Formula.value_conjoined,premises]
    simp
  rw [RefutedBy,← together,concluded]
  cases value : conclusion.formula.value truth <;> simp [Formula.implies,value]

end

/-- What an answer about validity must be: exact about the rows of the table, about all assignments,
and in agreement with the marks of the rows and with the tautology test of the implication. -/
structure ExactValidity (argument : Argument) (conclusion : Proposition) (table : TruthTable)
    (marks : List Bool) (validity : Validity) : Prop where
  valid_iff : validity.valid ↔
    ∀ assignment : Assignment, assignment.Covers argument.vars → ¬argument.Refutes assignment
  ascending : validity.failingRows.Pairwise (· < ·)
  failing_iff : ∀ place, place ∈ validity.failingRows ↔
    ∃ assignment, table.assignment? place = some assignment ∧ argument.Refutes assignment
  countermodel_eq_none : validity.countermodel? = none ↔ validity.valid
  countermodel : ∀ first later, validity.failingRows = first :: later →
    ∃ assignment, validity.countermodel? = some assignment ∧
      table.assignment? first = some assignment ∧
      assignment.entries.map Prod.fst = argument.vars
  marked : marks.length = table.size ∧
    ∀ place, marks[place]? = some false ↔ place ∈ validity.failingRows
  implication : ∀ first others, argument.premises = first :: others →
    (validity.valid ↔ ((Formula.conjoined first.formula (others.map Proposition.formula)).implies
      conclusion.formula).isTautology)

/-- An argument with a conclusion always gets an answer about its validity, and an exact one. -/
theorem validity_exact {argument : Argument} (accepted : argument.Accepted)
    {conclusion : Proposition} (concluded : argument.conclusion? = some conclusion) :
    ∃ table marks validity, argument.table = .ok table ∧
      argument.marks .counterexample = .ok marks ∧ argument.validity = .ok validity ∧
      argument.ExactValidity conclusion table marks validity := by
  have wellFormed := accepted.wellFormed
  have valid_iff : argument.failing.isEmpty ↔ ∀ truth, ¬argument.RefutedBy truth := by
    rw [List.isEmpty_iff]
    exact wellFormed.failing_eq_nil concluded
  have named (place : Nat) (assignment : Assignment)
      (found : argument.filled.assignment? place = some assignment) :
      assignment.entries.map Prod.fst = argument.vars := by
    rw [filled,TruthTable.assignment_filled,Option.map_eq_some_iff] at found
    obtain ⟨row,found,rfl⟩ := found
    exact Assignment.names_ofRow wellFormed.distinct (TruthTable.width_of_getElem found)
  have first_failing (first : Nat) (later : List Nat) (fails : argument.failing = first :: later) :
      ∃ assignment, argument.filled.assignment? first = some assignment := by
    have member : first ∈ argument.failing := fails ▸ List.mem_cons_self ..
    obtain ⟨assignment,found,-⟩ := (wellFormed.mem_failing concluded).mp member
    exact ⟨assignment,found⟩
  refine ⟨_,_,_,wellFormed.table,wellFormed.marks_eq_ok .counterexample,
    wellFormed.validity_eq concluded,?_⟩
  constructor
  case valid_iff =>
    refine valid_iff.trans ⟨fun none assignment covers => ?_,fun none truth => ?_⟩
    · rw [wellFormed.refutes_iff fun _ => covers.get?]
      exact none _
    · have width : (argument.vars.map truth).length = argument.vars.length := List.length_map _
      rw [← wellFormed.refutes_iff fun _ => Assignment.get_ofRow_map wellFormed.distinct truth]
      exact none _ (Assignment.covers_ofRow wellFormed.distinct width)
  case ascending => exact places_ascending _ _
  case failing_iff => exact fun _ => wellFormed.mem_failing concluded
  case countermodel_eq_none =>
    cases fails : argument.failing with
    | nil => simp [Validity.valid]
    | cons first later =>
      obtain ⟨assignment,found⟩ := first_failing first later fails
      simp [Validity.valid,found]
  case countermodel =>
    intro first later (fails : argument.failing = first :: later)
    obtain ⟨assignment,found⟩ := first_failing first later fails
    refine ⟨assignment,?_,found,named first assignment found⟩
    simpa [fails] using found
  case marked =>
    refine ⟨List.length_map _,fun place => ?_⟩
    rw [failing,mem_places,List.getElem?_map,Option.map_eq_some_iff]
    simp [passes]
  case implication =>
    intro first others premises
    exact valid_iff.trans (isTautology_implication premises concluded).symm

/-- Affirming the consequent: `p -> q` and `q` do not yield `p`. -/
theorem validity_exact_affirming :
    let conditional : Proposition := ⟨"p -> q",.conditional (.var "p") (.var "q"),["p","q"],{}⟩
    let consequent : Proposition := ⟨"q",.var "q",["q"],{}⟩
    let antecedent : Proposition := ⟨"p",.var "p",["p"],{}⟩
    let argument : Argument := ⟨[conditional,consequent],some antecedent,["p","q"],{}⟩
    argument.Accepted ∧ argument.conclusion? = some antecedent ∧
      ∃ table marks validity, argument.table = .ok table ∧
        argument.marks .counterexample = .ok marks ∧ argument.validity = .ok validity ∧
        argument.ExactValidity antecedent table marks validity ∧
        validity = ⟨[1],some ⟨[("p",false),("q",true)]⟩⟩ := by
  intro conditional consequent antecedent argument
  have accepted : argument.Accepted := by
    have made : make [conditional,consequent] (some antecedent) {} = .ok argument := rfl
    exact .made made
  have answer : argument.validity = .ok ⟨[1],some ⟨[("p",false),("q",true)]⟩⟩ := by decide +kernel
  have concluded : argument.conclusion? = some antecedent := rfl
  obtain ⟨table,marks,validity,filled,marked,answered,exact_answer⟩ :=
    validity_exact accepted concluded
  have same := Except.ok.inj (answered.symm.trans answer)
  exact ⟨accepted,concluded,table,marks,validity,filled,marked,answered,exact_answer,same⟩

end Argument
end Sentential
