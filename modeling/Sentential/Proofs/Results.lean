import Sentential.Proofs.Constituents
import Sentential.Proofs.Tabulation

/-! What the table of a proposition answers about its statement. The column of the result is found by
counting: it is the last one, or the only one if the statement is just a variable. Nothing else can
come last, since the statement is never dropped from its constituents for a smaller one. So the
answers read off the table are those about the formula, whatever the table shows. -/
namespace Sentential

/-- The elements at the places that satisfy `p`, in their order. -/
def keep (p : Nat → Bool) (xs : List α) : List α :=
  (xs.zipIdx.filter fun entry => p entry.2).map Prod.fst

theorem keep_append (p : Nat → Bool) (xs ys : List α) :
    keep p (xs ++ ys) = keep p xs ++ keep (fun place => p (xs.length + place)) ys := by
  rw [keep,List.zipIdx_append,List.filter_append,List.map_append,Nat.zero_add,
    List.zipIdx_eq_map_add (l := ys) (i := xs.length),List.filter_map,List.map_map]
  rfl

theorem keep_of_all {p : Nat → Bool} {xs : List α} (all : ∀ place < xs.length, p place) :
    keep p xs = xs := by
  have kept : xs.zipIdx.filter (fun entry => p entry.2) = xs.zipIdx := by
    apply List.filter_eq_self.mpr
    intro entry member
    exact all entry.2 (by simpa using List.snd_lt_of_mem_zipIdx member)
  rw [keep,kept,List.zipIdx_map_fst]

theorem keep_of_none {p : Nat → Bool} {xs : List α} (none : ∀ place < xs.length, p place = false) :
    keep p xs = [] := by
  have dropped : xs.zipIdx.filter (fun entry => p entry.2) = [] := by
    apply List.filter_eq_nil_iff.mpr
    intro entry member
    simp [none entry.2 (by simpa using List.snd_lt_of_mem_zipIdx member)]
  rw [keep,dropped,List.map_nil]

/-- The table with only the columns at the places that satisfy `p`. -/
def TruthTable.restrict (table : TruthTable) (p : Nat → Bool) : TruthTable :=
  ⟨table.vars,keep p table.headers,table.rows.map (keep p)⟩

theorem Formula.vars_not (formula : Formula) : formula.not.vars = formula.vars := by
  rw [vars,leaves_not,vars]

namespace Proposition

/-- The propositions that there are: read from a statement, made to state a formula, and negations
of such. -/
inductive Constructed : Proposition → Prop where
  | parsed {statement : String} {config : Config} {proposition : Proposition} :
      parse statement config = .ok proposition → Constructed proposition
  | stated {formula : Formula} {config : Config} {proposition : Proposition} :
      ofFormula formula config = .ok proposition → Constructed proposition
  | negated : Constructed proposition → Constructed proposition.negate

/-- The variables are those of the formula in the order that is wanted, and not too many. -/
structure Arranged (proposition : Proposition) : Prop where
  vars_eq : proposition.vars = proposition.config.order.arrange proposition.formula.vars
  limit : proposition.vars.length ≤ proposition.config.maxVariables

theorem assemble_eq_ok {statement : String} {formula : Formula} {config : Config}
    {proposition : Proposition} :
    assemble statement formula config = .ok proposition ↔
      (config.order.arrange formula.vars).length ≤ config.maxVariables ∧
        proposition = ⟨statement,formula,config.order.arrange formula.vars,config⟩ := by
  rw [← Config.allow_eq_ok,assemble]
  cases config.allow (config.order.arrange formula.vars).length with
  | ok => simp [eq_comm]
  | error => simp

theorem parse_eq_ok {statement : String} {config : Config} {proposition : Proposition} :
    parse statement config = .ok proposition ↔ ∃ formula,
      Statement.parse statement = .ok formula ∧
        assemble statement formula config = .ok proposition := by
  rw [parse]
  cases Statement.parse statement <;> simp

theorem arranged_of_assemble {statement : String} {formula : Formula} {config : Config}
    {proposition : Proposition} (made : assemble statement formula config = .ok proposition) :
    proposition.Arranged := by
  obtain ⟨limit,rfl⟩ := assemble_eq_ok.mp made
  exact ⟨rfl,limit⟩

variable {proposition : Proposition}

theorem Arranged.negate (arranged : proposition.Arranged) : proposition.negate.Arranged where
  vars_eq := by
    rw [Proposition.negate,Formula.vars_not]
    exact arranged.vars_eq
  limit := arranged.limit

theorem Constructed.arranged (constructed : proposition.Constructed) : proposition.Arranged := by
  induction constructed with
  | parsed made =>
    obtain ⟨formula,-,made⟩ := parse_eq_ok.mp made
    exact arranged_of_assemble made
  | stated made => exact arranged_of_assemble made
  | negated _ ih => exact ih.negate

/-- The same proposition with a column for each constituent, or with one for the whole only. -/
def showing (shown : Bool) (proposition : Proposition) : Proposition :=
  { proposition with config := { proposition.config with showConstituents := shown } }

/-- It is what is made in the same way under the changed configuration. -/
theorem Constructed.showing (constructed : proposition.Constructed) (shown : Bool) :
    (proposition.showing shown).Constructed := by
  have assembled {statement : String} {formula : Formula} {config : Config}
      {proposition : Proposition} (made : assemble statement formula config = .ok proposition) :
      assemble statement formula { config with showConstituents := shown } =
        .ok (proposition.showing shown) := by
    obtain ⟨limit,rfl⟩ := assemble_eq_ok.mp made
    exact assemble_eq_ok.mpr ⟨limit,rfl⟩
  induction constructed with
  | parsed made =>
    obtain ⟨formula,read,made⟩ := parse_eq_ok.mp made
    exact .parsed (parse_eq_ok.mpr ⟨formula,read,assembled made⟩)
  | stated made => exact .stated (assembled made)
  | negated _ ih => exact ih.negated

namespace Arranged

theorem vars_perm (arranged : proposition.Arranged) :
    proposition.vars.Perm proposition.formula.vars := by
  rw [arranged.vars_eq]
  exact VariableOrder.arrange_perm _ _

theorem distinct (arranged : proposition.Arranged) : proposition.vars.Nodup :=
  arranged.vars_perm.nodup_iff.mpr (nodup_distinct _)

theorem within (arranged : proposition.Arranged) :
    proposition.formula.leaves ⊆ proposition.vars :=
  fun _ leaf => arranged.vars_perm.mem_iff.mpr (Formula.mem_vars.mpr leaf)

end Arranged

theorem leaves_subset_of_mem_columns {formula : Formula} (member : formula ∈ proposition.columns) :
    formula.leaves ⊆ proposition.formula.leaves := by
  rw [columns] at member
  split at member
  · exact Formula.leaves_subset_of_mem_constituents (List.mem_of_mem_filter member)
  · split at member
    · cases member
    · rw [List.mem_singleton.mp member]
      exact List.Subset.refl _

/-- The table over every row. -/
def filled (proposition : Proposition) : TruthTable :=
  .filled proposition.vars proposition.columns proposition.config.reversed

theorem Arranged.table (arranged : proposition.Arranged) :
    proposition.table = .ok proposition.filled := by
  have within : ∀ formula ∈ proposition.columns, formula.leaves ⊆ proposition.vars :=
    fun formula member => List.Subset.trans (leaves_subset_of_mem_columns member) arranged.within
  rw [Proposition.table,TruthTable.build_eq_ok arranged.distinct within]
  rfl

/-- A compound statement has the last column. -/
theorem columns_of_compound (compound : proposition.formula.name? = none) :
    ∃ before, proposition.columns = before ++ [proposition.formula] := by
  have stays : (!proposition.formula.isVariable) = true := by simp [Formula.isVariable,compound]
  rw [columns]
  split
  · rw [constituents,Formula.constituents_eq,List.filter_append,List.filter_singleton,stays]
    exact ⟨_,rfl⟩
  · simp [Formula.isVariable,compound]

theorem columns_of_name {name : String} (bare : proposition.formula = .var name) :
    proposition.columns = [] := by
  rw [columns,constituents,bare]
  split <;> rfl

/-- Where the column of the result is: it belongs to the one variable, or else it is the last. -/
theorem Arranged.result (arranged : proposition.Arranged) :
    (∃ name, proposition.formula = .var name ∧ proposition.vars = [name] ∧
      proposition.columns = [] ∧ proposition.resultColumn = 0) ∨
    (proposition.formula.name? = none ∧ ∃ before,
      proposition.columns = before ++ [proposition.formula] ∧
      proposition.resultColumn = proposition.vars.length + before.length) := by
  cases bare : proposition.formula.name? with
  | some name =>
    have variable_eq : proposition.formula = .var name := by
      revert bare
      cases proposition.formula <;> simp [Formula.name?]
    have single : proposition.vars = [name] := by
      apply List.perm_singleton.mp
      rw [← show Formula.vars (.var name) = [name] from rfl,← variable_eq]
      exact arranged.vars_perm
    have first : proposition.resultColumn = 0 := by simp [resultColumn,bare,single]
    exact .inl ⟨name,variable_eq,single,columns_of_name variable_eq,first⟩
  | none =>
    obtain ⟨before,shown⟩ := columns_of_compound bare
    refine .inr ⟨rfl,before,shown,?_⟩
    simp only [resultColumn,bare,shown,List.length_append,List.length_singleton]
    omega

theorem Arranged.result_lt (arranged : proposition.Arranged) :
    proposition.resultColumn < proposition.filled.width := by
  rw [filled,TruthTable.width_filled]
  rcases arranged.result with ⟨name,-,single,none,first⟩ | ⟨-,before,shown,last⟩
  · simp [single,none,first]
  · simp [shown,last]

/-- The column of the result holds the values of the formula. -/
theorem Arranged.column_result (arranged : proposition.Arranged) :
    proposition.filled.column proposition.resultColumn =
      (rows proposition.config.reversed proposition.vars.length).map fun row =>
        proposition.formula.value (Assignment.ofRow proposition.vars row).truth := by
  rcases arranged.result with ⟨name,bare,single,none,first⟩ | ⟨-,before,shown,last⟩
  · rw [first,filled,TruthTable.column,TruthTable.filled,List.filterMap_map,
      ← List.filterMap_eq_map]
    apply List.filterMap_congr
    intro row member
    have cells := Assignment.row_eq_map arranged.distinct (mem_rows.mp member)
    have only : row[0]? = some ((Assignment.ofRow proposition.vars row).truth name) := by
      refine (congrArg (·[0]?) cells).trans ?_
      simp [single]
    rw [Function.comp_apply,TruthTable.cellsOf,none,List.map_nil,List.append_nil,bare,
      Function.comp_apply,Formula.value_var,only]
  · rw [last,filled]
    exact TruthTable.column_filled (by simp [shown])

theorem Arranged.isConstant_result (arranged : proposition.Arranged) (expected : Bool) :
    proposition.filled.isConstant expected proposition.resultColumn =
      proposition.formula.isConstantly expected :=
  TruthTable.isConstant_of_column arranged.distinct arranged.within arranged.result_lt
    arranged.column_result expected

theorem Arranged.values (arranged : proposition.Arranged) :
    proposition.values = .ok ((rows proposition.config.reversed proposition.vars.length).map
      fun row => proposition.formula.value (Assignment.ofRow proposition.vars row).truth) := by
  rw [Proposition.values,arranged.table,← arranged.column_result]
  rfl

theorem Arranged.isTautology (arranged : proposition.Arranged) :
    proposition.isTautology = .ok proposition.formula.isTautology := by
  rw [Proposition.isTautology,arranged.table,Formula.isTautology,← arranged.isConstant_result]
  rfl

theorem Arranged.isContradiction (arranged : proposition.Arranged) :
    proposition.isContradiction = .ok proposition.formula.isContradiction := by
  rw [Proposition.isContradiction,arranged.table,Formula.isContradiction,
    ← arranged.isConstant_result]
  rfl

theorem Arranged.isSatisfiable (arranged : proposition.Arranged) :
    proposition.isSatisfiable = .ok proposition.formula.isSatisfiable := by
  rw [Proposition.isSatisfiable,arranged.isContradiction]
  rfl

/-- What a table and the values read off it must be: in the column of the result stands the value of
the formula on every row, and the verdicts found there are those on the formula. -/
structure ExactTable (proposition : Proposition) (table : TruthTable) (values : List Bool) :
    Prop where
  result_lt : proposition.resultColumn < table.width
  /-- Counting back from the number of columns does not go below the first one. -/
  counted : proposition.formula.name? = none →
    1 ≤ proposition.vars.length + proposition.columns.length
  length_eq : values.length = table.size
  evaluated : ∀ place < table.size, ∃ assignment value,
    table.assignment? place = some assignment ∧ values[place]? = some value ∧
      proposition.formula.eval assignment = .ok value
  tautology : proposition.isTautology = .ok proposition.formula.isTautology
  contradiction : proposition.isContradiction = .ok proposition.formula.isContradiction
  satisfiable : proposition.isSatisfiable = .ok proposition.formula.isSatisfiable

theorem Arranged.exactTable (arranged : proposition.Arranged) :
    ∃ values, proposition.values = .ok values ∧
      proposition.ExactTable proposition.filled values := by
  refine ⟨_,arranged.values,?_⟩
  constructor
  case result_lt => exact arranged.result_lt
  case counted =>
    intro compound
    obtain ⟨before,shown⟩ := columns_of_compound compound
    simp [shown]
    omega
  case length_eq => simp [TruthTable.size,filled,TruthTable.filled]
  case evaluated =>
    intro place bound
    have listed : place < (rows proposition.config.reversed proposition.vars.length).length := by
      simpa [TruthTable.size,filled,TruthTable.filled] using bound
    have found := List.getElem?_eq_getElem listed
    have covers := Assignment.covers_ofRow arranged.distinct (TruthTable.width_of_getElem found)
    refine ⟨_,_,?_,?_,Formula.eval_of_covers covers arranged.within⟩
    · rw [filled,TruthTable.assignment_filled,found]
      rfl
    · rw [List.getElem?_map,found]
      rfl
  case tautology => exact arranged.isTautology
  case contradiction => exact arranged.isContradiction
  case satisfiable => exact arranged.isSatisfiable

/-- The places of the variables and of the last column. -/
theorem keep_ends (front middle : List α) (last : α) :
    keep (fun place => place < front.length || place == front.length + middle.length)
      (front ++ (middle ++ [last])) = front ++ [last] := by
  have whole : keep (fun place => place < front.length || place == front.length + middle.length)
      front = front :=
    keep_of_all fun place bound => by simp [bound]
  have none : keep (fun place => front.length + place < front.length ||
      front.length + place == front.length + middle.length) middle = [] :=
    keep_of_none fun place bound => by simp; omega
  rw [keep_append,keep_append,whole,none,List.nil_append]
  simp [keep]

theorem filled_restrict {vars : List String} {before : List Formula} {formula : Formula}
    {reversed : Bool} :
    TruthTable.filled vars [formula] reversed =
      (TruthTable.filled vars (before ++ [formula]) reversed).restrict fun place =>
        place < vars.length || place == vars.length + before.length := by
  have headers := keep_ends vars (before.map Formula.text) formula.text
  have cells (row : List Bool) :=
    keep_ends row (before.map (Formula.value (Assignment.ofRow vars row).truth))
      (formula.value (Assignment.ofRow vars row).truth)
  rw [List.length_map] at headers
  simp only [List.length_map] at cells
  simp only [TruthTable.filled,TruthTable.restrict,List.map_append,List.map_cons,List.map_nil,
    List.map_map,headers]
  congr 1
  apply List.map_congr_left
  intro row member
  have width := mem_rows.mp member
  rw [Function.comp_apply,TruthTable.cellsOf,TruthTable.cellsOf,List.map_append,← width]
  exact (cells row).symm

theorem Arranged.filled_brief (arranged : proposition.Arranged) :
    (proposition.showing false).filled =
      (proposition.showing true).filled.restrict fun place =>
        place < proposition.vars.length ||
          place == (proposition.showing true).resultColumn := by
  have full : (proposition.showing true).Arranged := ⟨arranged.vars_eq,arranged.limit⟩
  rcases full.result with ⟨name,bare,single,none,first⟩ | ⟨compound,before,shown,last⟩
  · have brief : (proposition.showing false).columns = [] := columns_of_name bare
    have vars_eq : proposition.vars = [name] := single
    have alone (reversed : Bool) : TruthTable.filled [name] [] reversed =
        (TruthTable.filled [name] [] reversed).restrict fun place => place < 1 || place == 0 := by
      cases reversed <;> rfl
    rw [filled,filled,brief,none,first,vars_eq]
    simpa [showing,vars_eq] using alone proposition.config.reversed
  · have brief : (proposition.showing false).columns = [proposition.formula] := by
      have compound : proposition.formula.name? = Option.none := compound
      simp [columns,showing,Formula.isVariable,compound]
    rw [filled,filled,brief,shown,last]
    exact filled_restrict

/-- A proposition, however it was made and whatever its table shows, has a table, and the table
answers about its own statement. Without columns for the constituents it is the same table, restricted
to the variables and the result. -/
theorem table_exact {proposition : Proposition} (constructed : proposition.Constructed) :
    (∃ table values, proposition.table = .ok table ∧ proposition.values = .ok values ∧
      proposition.ExactTable table values) ∧
    (∀ shown, (proposition.showing shown).Constructed) ∧
    ∃ full brief, (proposition.showing true).table = .ok full ∧
      (proposition.showing false).table = .ok brief ∧
      brief = full.restrict fun place => place < proposition.vars.length ||
        place == (proposition.showing true).resultColumn := by
  have arranged := constructed.arranged
  obtain ⟨values,answered,exact_table⟩ := arranged.exactTable
  exact ⟨⟨_,values,arranged.table,answered,exact_table⟩,constructed.showing,_,_,
    (constructed.showing true).arranged.table,(constructed.showing false).arranged.table,
    arranged.filled_brief⟩

/-- `q and p` has the shape of `p and q` and no column of its own, so the result stands in the fourth
column, behind the sorted variables and one conjunction. -/
theorem table_exact_repeated :
    let config : Config := { reversed := true, order := .sorted }
    let conjunction : Formula := .junction .and [.var "q",.var "p"]
    let repeated : Formula := .conditional conjunction (.junction .and [.var "p",.var "q"])
    let proposition : Proposition := ⟨repeated.text,repeated,["p","q"],config⟩
    proposition.Constructed ∧ proposition.resultColumn = 3 ∧
      ∃ table values, proposition.table = .ok table ∧ proposition.values = .ok values ∧
        proposition.ExactTable table values ∧ values = [true,true,true,true] := by
  intro config conjunction repeated proposition
  have constructed : proposition.Constructed := by
    have sorted : config.order.arrange repeated.vars = ["p","q"] :=
      mergeSort_swapped (by decide)
    have stated : ofFormula repeated config = .ok proposition := by
      rw [ofFormula,assemble_eq_ok,sorted]
      exact ⟨by decide,rfl⟩
    exact .stated stated
  obtain ⟨⟨table,values,filled,answered,exact_table⟩,-⟩ := table_exact constructed
  have answer : proposition.values = .ok [true,true,true,true] := by decide +kernel
  have same := Except.ok.inj (answered.symm.trans answer)
  exact ⟨constructed,by decide +kernel,table,values,filled,answered,exact_table,same⟩

end Proposition
end Sentential
