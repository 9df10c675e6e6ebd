import Sentential.Proofs.Construction
import Sentential.Proofs.Meaning
import Sentential.Proofs.Presentation
import Sentential.Proofs.Representatives
import Sentential.Proofs.RoundTrip

/-! What a header says of its column. The headers are the texts of the formulas with a column, the
variables among them, and formulas that statements can express are told apart by their texts. So the
columns of one statement have different headers, as their formulas have different shapes. The columns
of an argument may repeat a header, but then they repeat the formula and all its values as well. -/
namespace Sentential

open Statement

/-- Formulas that statements can express have different texts. -/
theorem Statement.Expressible.text_inj {formula other : Formula} (expressible : Expressible formula)
    (expressible' : Expressible other) (same : formula.text = other.text) : formula = other := by
  have read : parse formula.text = .ok formula := expressible.parse_render .signs
  have read' : parse other.text = .ok other := expressible'.parse_render .signs
  rw [same] at read
  exact Except.ok.inj (read.symm.trans read')

theorem Formula.Canonical.of_mem_subformulas {formula within : Formula}
    (canonical : formula.Canonical) (member : within ∈ formula.subformulas) : within.Canonical := by
  induction formula using operandsInd with
  | step formula ih =>
    rcases mem_subformulas.mp member with rfl | ⟨operand,operandOf,member⟩
    · exact canonical
    · exact ih operand operandOf (canonical.operand operandOf) member

/-- What a formula contains can be said if the formula can. -/
theorem Statement.Expressible.of_mem_subformulas {formula within : Formula}
    (expressible : Expressible formula) (member : within ∈ formula.subformulas) :
    Expressible within := by
  obtain ⟨canonical,speakable⟩ := expressible.canonical
  have named : ∀ name ∈ within.leaves, Name.Speakable name :=
    fun name leaf => speakable name (Formula.leaves_subset_of_mem_subformulas member leaf)
  exact .parsed (Statement.parse_render (canonical.of_mem_subformulas member) named .signs)

theorem Statement.Expressible.of_mem_leaves {formula : Formula} (expressible : Expressible formula)
    {name : String} (leaf : name ∈ formula.leaves) : Expressible (.var name) := by
  have named : ∀ other ∈ (Formula.var name).leaves, Name.Speakable other := by
    intro other member
    rw [Formula.leaves_var,List.mem_singleton] at member
    rw [member]
    exact expressible.canonical.2 name leaf
  exact .parsed (Statement.parse_render .var named .signs)

namespace TruthTable

/-- Columns with one header have one value on every row. -/
def HeadersAgree (table : TruthTable) : Prop :=
  ∀ (index other : Nat) (header : String), table.headers[index]? = some header →
    table.headers[other]? = some header → ∀ cells ∈ table.rows,
      ∃ value : Bool, cells[index]? = some value ∧ cells[other]? = some value

/-- A header stands for the values under it: asking for it gives the values of every column that has
it. -/
structure Identified (table : TruthTable) : Prop where
  agree : table.HeadersAgree
  found : ∀ (index : Nat) (header : String), table.headers[index]? = some header →
    table.column? header = some (table.column index)

/-- It is the first column with a header that is found, and the others have the same values. -/
theorem HeadersAgree.identified {table : TruthTable} (agree : table.HeadersAgree) :
    table.Identified := by
  refine ⟨agree,fun index header headed => ?_⟩
  obtain ⟨first,place⟩ : ∃ first, table.index? header = some first := by
    apply Option.isSome_iff_exists.mp
    exact List.isSome_idxOf?.mpr (List.mem_of_getElem? headed)
  obtain ⟨bound,same,-⟩ := List.idxOf?_eq_some_iff.mp place
  have headed' : table.headers[first]? = some header := by
    rw [List.getElem?_eq_getElem bound,same]
  rw [column?,place,Option.map_some]
  apply congrArg some
  apply List.filterMap_congr
  intro cells member
  obtain ⟨value,cell,cell'⟩ := agree first index header headed' headed cells member
  rw [cell,cell']

variable {vars : List String} {formulas : List Formula} {reversed : Bool}

theorem headers_filled : (filled vars formulas reversed).headers =
    (vars.map Formula.var ++ formulas).map Formula.text := by
  have names : (vars.map Formula.var).map Formula.text = vars := by
    have own : Formula.text ∘ Formula.var = id := funext fun name => String.ofList_toList
    rw [List.map_map,own,List.map_id]
  rw [List.map_append,names,filled]

theorem exists_headed {index : Nat} {header : String}
    (headed : (filled vars formulas reversed).headers[index]? = some header) :
    ∃ formula, (vars.map Formula.var ++ formulas)[index]? = some formula ∧
      formula.text = header := by
  rw [headers_filled,List.getElem?_map] at headed
  exact Option.map_eq_some_iff.mp headed

/-- One header means one formula, so the columns are filled with the same values. -/
theorem headersAgree_filled (distinct : vars.Nodup)
    (expressible : ∀ formula ∈ vars.map Formula.var ++ formulas, Expressible formula) :
    (filled vars formulas reversed).HeadersAgree := by
  intro index other header headed headed' cells member
  obtain ⟨formula,shown,rfl⟩ := exists_headed headed
  obtain ⟨formula',shown',same⟩ := exists_headed headed'
  have equal := (expressible _ (List.mem_of_getElem? shown')).text_inj
    (expressible _ (List.mem_of_getElem? shown)) same
  rw [equal] at shown'
  obtain ⟨row,listed,rfl⟩ := List.mem_map.mp member
  have width := mem_rows.mp listed
  exact ⟨_,getElem_cellsOf distinct width shown,getElem_cellsOf distinct width shown'⟩

end TruthTable

namespace Proposition

/-- The propositions that come from statements: read from one, made to state a formula that statements
can express, and negations of such. -/
inductive Worded : Proposition → Prop where
  | parsed {statement : String} {config : Config} {proposition : Proposition} :
      parse statement config = .ok proposition → Worded proposition
  | stated {formula : Formula} {config : Config} {proposition : Proposition} :
      Expressible formula → ofFormula formula config = .ok proposition → Worded proposition
  | negated : Worded proposition → Worded proposition.negate

variable {proposition : Proposition}

theorem Worded.arranged (worded : proposition.Worded) : proposition.Arranged := by
  induction worded with
  | parsed made => exact Constructed.arranged (.parsed made)
  | stated _ made => exact Constructed.arranged (.stated made)
  | negated _ ih => exact ih.negate

theorem Worded.expressible (worded : proposition.Worded) : Expressible proposition.formula := by
  induction worded with
  | parsed made =>
    obtain ⟨formula,read,made⟩ := parse_eq_ok.mp made
    obtain ⟨-,rfl⟩ := assemble_eq_ok.mp made
    exact .parsed read
  | stated expressible made =>
    obtain ⟨-,rfl⟩ := assemble_eq_ok.mp made
    exact expressible
  | negated _ ih => exact ih.not

theorem columns_compound {formula : Formula} (member : formula ∈ proposition.columns) :
    formula.isVariable = false := by
  rw [columns] at member
  split at member
  · simpa using (List.mem_filter.mp member).2
  · split at member
    · cases member
    · next compound =>
      rw [List.mem_singleton.mp member]
      simpa using compound

theorem columns_subset : proposition.columns ⊆ proposition.formula.subformulas := by
  intro formula member
  rw [columns] at member
  split at member
  · exact (distinctBy_sublist _ _).subset (List.mem_filter.mp member).1
  · split at member
    · cases member
    · rw [List.mem_singleton.mp member]
      exact Formula.mem_subformulas.mpr (.inl rfl)

/-- No formula has two columns. Constituents differ even in shape. -/
theorem nodup_columns : proposition.columns.Nodup := by
  rw [columns]
  split
  · have apart : proposition.constituents.Nodup := by
      apply (pairwise_distinctBy Formula.sameShape _).imp
      rintro formula _ differs rfl
      exact Bool.false_ne_true (differs.symm.trans (Formula.sameShape_iff.mpr rfl))
    exact apart.filter _
  · split
    · exact List.nodup_nil
    · exact List.nodup_singleton _

theorem Arranged.nodup_headed (arranged : proposition.Arranged) : proposition.headed.Nodup := by
  have names : (proposition.vars.map Formula.var).Nodup :=
    arranged.distinct.map fun _ _ same => Formula.var.inj same
  refine names.append nodup_columns ?_
  rw [List.disjoint_left]
  intro formula member shown
  obtain ⟨name,-,rfl⟩ := List.mem_map.mp member
  cases columns_compound shown

theorem Worded.expressible_headed (worded : proposition.Worded) :
    ∀ formula ∈ proposition.headed, Expressible formula := by
  refine List.forall_mem_append.mpr ⟨List.forall_mem_map.mpr ?_,?_⟩
  · intro name listed
    have leaf := Formula.mem_vars.mp (worded.arranged.vars_perm.mem_iff.mp listed)
    exact worded.expressible.of_mem_leaves leaf
  · intro formula shown
    exact worded.expressible.of_mem_subformulas (columns_subset shown)

theorem Worded.identified (worded : proposition.Worded) : proposition.filled.Identified :=
  (TruthTable.headersAgree_filled worded.arranged.distinct worded.expressible_headed).identified

/-- Different formulas have different texts, and all that have a column are different. -/
theorem Worded.nodup_headers (worded : proposition.Worded) : proposition.filled.headers.Nodup := by
  rw [filled,TruthTable.headers_filled]
  refine worded.arranged.nodup_headed.map_on ?_
  intro formula member other member' same
  exact (worded.expressible_headed formula member).text_inj
    (worded.expressible_headed other member') same

end Proposition

namespace Argument

/-- The arguments that come from statements: read from them or made of propositions that do. -/
inductive Worded (argument : Argument) : Prop where
  | made {premises : List Proposition} {conclusion? : Option Proposition} {config : Config} :
      (∀ statement ∈ premises ++ conclusion?.toList, statement.Worded) →
      make premises conclusion? config = .ok argument → Worded argument
  | parsed {premises : List String} {conclusion? : Option String} {config : Config} :
      parse premises conclusion? config = .ok argument → Worded argument

variable {argument : Argument}

theorem Worded.accepted (worded : argument.Worded) : argument.Accepted := by
  cases worded with
  | made _ made => exact .made made
  | parsed parsed => exact .parsed parsed

theorem Worded.statements (worded : argument.Worded) :
    ∀ statement ∈ argument.statements, statement.Worded := by
  cases worded with
  | made each made =>
    obtain ⟨-,-,rfl⟩ := make_eq_ok.mp made
    exact each
  | parsed parsed =>
    intro statement member
    obtain ⟨text,-,read⟩ := exists_of_forall₂_right (statements_of_parse parsed) member
    exact .parsed read

/-- Every variable is a name in some statement. -/
theorem Accepted.exists_leaf (accepted : argument.Accepted) {name : String}
    (listed : name ∈ argument.vars) :
    ∃ statement ∈ argument.statements, name ∈ statement.formula.leaves := by
  obtain ⟨_,_,_,made⟩ := accepted.exists_make
  have seen := mem_distinct.mp ((vars_of_make made).mem_iff.mp listed)
  rw [List.flatMap_map] at seen
  obtain ⟨statement,stated,within⟩ := List.mem_flatMap.mp seen
  exact ⟨statement,stated,Formula.mem_vars.mp within⟩

theorem Worded.expressible_headed (worded : argument.Worded) :
    ∀ formula ∈ argument.vars.map Formula.var ++ argument.statements.map Proposition.formula,
      Expressible formula := by
  refine List.forall_mem_append.mpr ⟨List.forall_mem_map.mpr ?_,List.forall_mem_map.mpr ?_⟩
  · intro name listed
    obtain ⟨statement,stated,leaf⟩ := worded.accepted.exists_leaf listed
    exact (worded.statements statement stated).expressible.of_mem_leaves leaf
  · intro statement stated
    exact (worded.statements statement stated).expressible

theorem Worded.identified (worded : argument.Worded) : argument.filled.Identified := by
  have distinct := worded.accepted.wellFormed.distinct
  exact (TruthTable.headersAgree_filled distinct worded.expressible_headed).identified

end Argument

/-- A header tells which formula a column is for. The headers of a proposition are all different. An
argument repeats the header of a statement made twice, or of a variable that is also a statement, and
then it repeats the column. So asking for a header gives the values of every column that has it. -/
theorem headers_identify :
    (∀ proposition : Proposition, proposition.Worded → ∃ table, proposition.table = .ok table ∧
      table.headers.Nodup ∧ table.Identified) ∧
    (∀ argument : Argument, argument.Worded → ∃ table, argument.table = .ok table ∧
      table.Identified) := by
  constructor
  · intro proposition worded
    exact ⟨_,worded.arranged.table,worded.nodup_headers,worded.identified⟩
  · intro argument worded
    exact ⟨_,worded.accepted.wellFormed.table,worded.identified⟩

/-- From `p -> q` and `p` follows `q`. Both variables are statements as well, so their headers come
twice, and so do their columns. -/
theorem headers_identify_affirmed :
    let conditional : Proposition := ⟨"p -> q",.conditional (.var "p") (.var "q"),["p","q"],{}⟩
    let antecedent : Proposition := ⟨"p",.var "p",["p"],{}⟩
    let consequent : Proposition := ⟨"q",.var "q",["q"],{}⟩
    let argument : Argument := ⟨[conditional,antecedent],some consequent,["p","q"],{}⟩
    argument.Worded ∧ ∃ table, argument.table = .ok table ∧ table.Identified ∧
      table.headers = ["p","q","p → q","p","q"] ∧
      table.column? "p" = some [false,false,true,true] := by
  intro conditional antecedent consequent argument
  have compound : Statement.parse "p -> q" =
      .ok (Tree.formula (.binary .implies (.name "p") (.name "q"))) :=
    parse_of_tree (by decide +kernel)
  have left : Statement.parse "p" = .ok (Tree.formula (.name "p")) :=
    parse_of_tree (by decide +kernel)
  have right : Statement.parse "q" = .ok (Tree.formula (.name "q")) :=
    parse_of_tree (by decide +kernel)
  have stated {text : String} {formula : Formula} {proposition : Proposition}
      (read : Statement.parse text = .ok formula)
      (made : Proposition.assemble text formula {} = .ok proposition) : proposition.Worded :=
    .parsed (Proposition.parse_eq_ok.mpr ⟨formula,read,made⟩)
  have first : conditional.Worded := stated compound rfl
  have second : antecedent.Worded := stated left rfl
  have third : consequent.Worded := stated right rfl
  have worded : argument.Worded := by
    have each : ∀ statement ∈ [conditional,antecedent] ++ (some consequent).toList,
        statement.Worded := by
      simp [first,second,third]
    have made : Argument.make [conditional,antecedent] (some consequent) {} = .ok argument := rfl
    exact .made each made
  obtain ⟨table,filled,identified⟩ := headers_identify.2 argument worded
  have filled' : argument.table = .ok ⟨["p","q"],["p","q","p → q","p","q"],
      [[false,false,true,false,false],[false,true,true,false,true],
        [true,false,false,true,false],[true,true,true,true,true]]⟩ := by
    decide +kernel
  cases filled.symm.trans filled'
  exact ⟨worded,_,filled,identified,rfl,rfl⟩

end Sentential
