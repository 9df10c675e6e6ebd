import Sentential.Proofs.Composition
import Sentential.Proofs.Equivalence
import Sentential.Proofs.Results
import Sentential.Proofs.RoundTrip
import Sentential.Proposition.Kept

/-! Propositions through their history. Text and formula change by separate rules: negating puts the
text into parentheses without reading it again, stating a formula writes a new text, and the formula
meanwhile loses double negations. The text is still read as the formula after any number of such
steps, and what was listed, ordered or filled along the way still belongs to it. -/
namespace Sentential

namespace Statement

theorem parse_negated {statement : String} {formula : Formula}
    (accepted : parse statement = .ok formula) :
    parse ("not (" ++ statement ++ ")") = .ok formula.not := by
  obtain ⟨items,result,spelled,derived,rfl⟩ := parse_eq_ok_iff_respelled.mp accepted
  have chars : ("not (" ++ statement ++ ")").toList =
      Connective.not.keyword.toList ++ ' ' :: '(' :: (statement.toList ++ [')']) := by
    simp [Connective.keyword]
  have spelled : lexemes [] (respell ("not (" ++ statement ++ ")").toList) =
      Item.lexemesEach [.token Connective.not.keyword,.group items] := by
    rw [chars,lexemes_respell_applied (.keyword .not) spelled]
  have negated : Derives Connective.binary [.token Connective.not.keyword,.group items]
      (.not result) := derived.grouped.negated.loosen Connective.binary
  exact parse_eq_ok_iff_respelled.mpr ⟨_,_,spelled,negated,rfl⟩

end Statement

theorem Formula.value_not (truth : String → Bool) (formula : Formula) :
    formula.not.value truth = !formula.value truth := by
  cases formula <;> simp [Formula.not]

namespace Argument

/-- What a test of equivalence takes for its biconditional. -/
theorem biconditional_of_test {argument : Argument} {comparison : Comparison}
    {tests : List EquivalenceTest} {test : EquivalenceTest}
    (tested : argument.equivalenceTests comparison = .ok tests) (member : test ∈ tests) :
    ∃ left ∈ argument.statements, ∃ right ∈ argument.statements,
      Proposition.ofFormula (left.formula.iff right.formula)
        { argument.config with showConstituents := false } = .ok test.biconditional := by
  obtain ⟨pair,paired,compared⟩ := exists_of_mem_mapM tested member
  obtain ⟨left,right⟩ := mem_of_mem_pairs paired
  obtain ⟨biconditional,made,compared⟩ := bind_eq_ok.mp compared
  obtain ⟨equivalent,-,compared⟩ := bind_eq_ok.mp compared
  cases compared
  exact ⟨_,List.fst_mem_of_mem_zipIdx left,_,List.fst_mem_of_mem_zipIdx right,made⟩

end Argument

namespace Proposition.Kept

/-- The propositions that a history of steps leads to. It begins with a statement. -/
inductive Reached : Kept → Prop where
  | parsed {statement : String} {config : Config} {kept : Kept} :
      parse statement config = .ok kept → Reached kept
  | negated {kept : Kept} : Reached kept → Reached kept.negate
  | restated {kept other : Kept} {config : Config} :
      Reached kept → ofFormula kept.formula config = .ok other → Reached other
  | compared {left right kept : Kept} {config : Config} :
      Reached left → Reached right → biconditional config left right = .ok kept → Reached kept
  | asked {kept other : Kept} {table : TruthTable} :
      Reached kept → kept.table = .ok (table,other) → Reached other

/-- The parts of a proposition belong together. -/
structure Coherent (kept : Kept) : Prop extends kept.toProposition.Arranged where
  read : Statement.parse kept.statement = .ok kept.formula
  constituents_eq : kept.constituents = kept.formula.constituents
  table_eq : ∀ table ∈ kept.table?, kept.toProposition.table = .ok table

variable {kept : Kept}

theorem coherent_of_assemble {statement : String} {formula : Formula} {config : Config}
    (read : Statement.parse statement = .ok formula)
    (made : assemble statement formula formula.constituents config = .ok kept) :
    kept.Coherent := by
  rw [assemble] at made
  split at made
  · next proposition assembled =>
    cases made
    obtain ⟨limit,rfl⟩ := assemble_eq_ok.mp assembled
    exact ⟨⟨rfl,limit⟩,read,rfl,nofun⟩
  · cases made

namespace Coherent

theorem expressible (coherent : kept.Coherent) : Statement.Expressible kept.formula :=
  .parsed coherent.read

theorem columns_eq (coherent : kept.Coherent) : kept.columns = kept.toProposition.columns := by
  rw [columns,coherent.constituents_eq]
  rfl

theorem resultColumn_eq (coherent : kept.Coherent) :
    kept.resultColumn = kept.toProposition.resultColumn := by
  rw [resultColumn,coherent.columns_eq]
  rfl

/-- The table that is kept is the one that would be filled. -/
theorem table (coherent : kept.Coherent) :
    kept.table = .ok (kept.toProposition.filled,
      { kept with table? := some kept.toProposition.filled }) := by
  have filled := coherent.toArranged.table
  rw [Kept.table]
  split
  · next table found =>
    have same := (coherent.table_eq table found).symm.trans filled
    cases same
    rw [← found]
  · have built : TruthTable.build kept.vars kept.columns kept.config.reversed =
        .ok kept.toProposition.filled := by
      rw [Proposition.table,← coherent.columns_eq] at filled
      split at filled
      · next built =>
        cases filled
        exact built
      · cases filled
    rw [built]

theorem values (coherent : kept.Coherent) : kept.values = kept.toProposition.values := by
  rw [Kept.values,coherent.table,coherent.resultColumn_eq,Proposition.values,
    coherent.toArranged.table]
  rfl

theorem negate (coherent : kept.Coherent) : kept.negate.Coherent where
  toArranged := coherent.toArranged.negate
  read := Statement.parse_negated coherent.read
  constituents_eq := rfl
  table_eq := nofun

theorem ask {table : TruthTable} {other : Kept} (coherent : kept.Coherent)
    (asked : kept.table = .ok (table,other)) : other.Coherent := by
  rw [coherent.table] at asked
  cases asked
  refine ⟨coherent.toArranged,coherent.read,coherent.constituents_eq,?_⟩
  rintro _ ⟨⟩
  exact coherent.toArranged.table

/-- Negating turns every value over and leaves what the rows assign as it is. -/
theorem opposite (coherent : kept.Coherent) :
    ∃ table negated values, kept.table.map Prod.fst = .ok table ∧
      kept.negate.table.map Prod.fst = .ok negated ∧ kept.values = .ok values ∧
      kept.negate.values = .ok (values.map (!·)) ∧
      values.length = table.size ∧ negated.size = table.size ∧
      ∀ place, negated.assignment? place = table.assignment? place := by
  have values_eq := coherent.values.trans coherent.toArranged.values
  refine ⟨_,_,_,congrArg (Except.map Prod.fst) coherent.table,
    congrArg (Except.map Prod.fst) coherent.negate.table,values_eq,?_,?_,?_,?_⟩
  · rw [coherent.negate.values,coherent.negate.toArranged.values,List.map_map]
    refine congrArg Except.ok (List.map_congr_left fun row _ => ?_)
    exact Formula.value_not _ _
  · simp [TruthTable.size,filled,TruthTable.filled]
  · simp only [TruthTable.size,filled,TruthTable.filled,List.length_map]
    rfl
  · intro place
    rw [filled,filled,TruthTable.assignment_filled,TruthTable.assignment_filled]
    rfl

end Coherent

theorem coherent_of_ofFormula {formula : Formula} {config : Config}
    (expressible : Statement.Expressible formula) (made : ofFormula formula config = .ok kept) :
    kept.Coherent :=
  coherent_of_assemble (expressible.parse_render .signs) made

theorem Reached.coherent (reached : Reached kept) : kept.Coherent := by
  induction reached with
  | @parsed statement config kept made =>
    rw [parse] at made
    split at made
    · next formula read => exact coherent_of_assemble read made
    · cases made
  | negated _ ih => exact ih.negate
  | restated _ made ih => exact coherent_of_ofFormula ih.expressible made
  | compared _ _ made ihLeft ihRight =>
    exact coherent_of_ofFormula (ihLeft.expressible.iff ihRight.expressible) made
  | asked _ asked ih => exact ih.ask asked

/-- A test of equivalence between reached propositions has a reached biconditional. -/
theorem reached_of_test {argument : Argument} {comparison : Comparison}
    {tests : List EquivalenceTest} {test : EquivalenceTest}
    (reached : ∀ statement ∈ argument.statements, ∃ kept : Kept,
      Reached kept ∧ kept.toProposition = statement)
    (tested : argument.equivalenceTests comparison = .ok tests) (member : test ∈ tests) :
    ∃ kept : Kept, Reached kept ∧ kept.toProposition = test.biconditional := by
  obtain ⟨_,memberLeft,_,memberRight,made⟩ := Argument.biconditional_of_test tested member
  obtain ⟨left,reachedLeft,rfl⟩ := reached _ memberLeft
  obtain ⟨right,reachedRight,rfl⟩ := reached _ memberRight
  have kept : biconditional argument.config left right =
      .ok ⟨test.biconditional,(left.formula.iff right.formula).constituents,none⟩ := by
    rw [Proposition.ofFormula] at made
    rw [biconditional,ofFormula,assemble,made]
  exact ⟨_,reachedLeft.compared reachedRight kept,rfl⟩

/-- Whatever was done to a proposition since its statement was read, its parts belong together and
negating it turns its values over. The propositions of equivalence tests are among those meant. -/
theorem history_coherent :
    (∀ kept : Kept, Reached kept → kept.Coherent ∧
      ∃ table negated values, kept.table.map Prod.fst = .ok table ∧
        kept.negate.table.map Prod.fst = .ok negated ∧ kept.values = .ok values ∧
        kept.negate.values = .ok (values.map (!·)) ∧
        values.length = table.size ∧ negated.size = table.size ∧
        ∀ place, negated.assignment? place = table.assignment? place) ∧
    ∀ (argument : Argument) (comparison : Comparison) (tests : List EquivalenceTest),
      (∀ statement ∈ argument.statements, ∃ kept : Kept,
        Reached kept ∧ kept.toProposition = statement) →
      argument.equivalenceTests comparison = .ok tests →
      ∀ test ∈ tests, ∃ kept : Kept, Reached kept ∧ kept.toProposition = test.biconditional :=
  ⟨fun _ reached => ⟨reached.coherent,reached.coherent.opposite⟩,
    fun _ _ _ reached tested _ member => reached_of_test reached tested member⟩

/-- The formula of `not (~(p & q))` is the conjunction, and its text still says otherwise. -/
theorem history_coherent_negated :
    let conjunction : Formula := .junction .and [.var "p",.var "q"]
    let kept : Kept := ⟨⟨"~(p & q)",.neg conjunction,["p","q"],{}⟩,
      conjunction.not.constituents,none⟩
    Reached kept.negate ∧ kept.negate.formula = conjunction ∧
      kept.negate.statement = "not (~(p & q))" ∧
      Statement.parse "not (~(p & q))" = .ok conjunction ∧
      kept.negate.values = .ok [false,false,false,true] := by
  intro conjunction kept
  have read : Statement.parse "~(p & q)" = .ok (Statement.Tree.formula
      (.not (.binary .and (.name "p") (.name "q")))) :=
    Statement.parse_of_tree (by decide +kernel)
  have parsed : parse "~(p & q)" {} = .ok kept := by
    rw [parse,read]
    rfl
  have reached : Reached kept.negate := .negated (.parsed parsed)
  have coherent := (history_coherent.1 _ reached).1
  exact ⟨reached,rfl,rfl,coherent.read,coherent.values.trans (by decide +kernel)⟩

end Proposition.Kept
end Sentential
