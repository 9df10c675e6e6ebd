import Sentential.Proofs.Canonical
import Sentential.Proofs.Grammar
import Sentential.Proofs.Respelling

/-! Reading a whole statement: the lexemes of its normal text are those of items from which the
grammar derives a tree. The names of the tree are the words of the statement that are no keywords, so
they are names that respelling leaves alone. -/
namespace Sentential

/-- A valid name that is no spelling of a connective. `AND` is valid but is never read as a name. -/
def Name.Speakable (name : String) : Prop :=
  isValid name ∧ Connective.ofWord? name.toList = none

namespace Statement

open Text

/-- A statement is accepted exactly if its normal text spells out items that the grammar derives. -/
theorem parse_eq_ok_iff {statement : String} {formula : Formula} :
    parse statement = .ok formula ↔ ∃ items result,
      lexemes [] (normalChars statement.toList) = Item.lexemesEach items ∧
      Derives Connective.binary items result ∧ result.formula = formula := by
  have normal (items : List Item) : bracketed (normalize statement) = .ok items ↔
      lexemes [] (normalChars statement.toList) = Item.lexemesEach items := by
    rw [bracketed_eq_ok_iff,normalize,String.toList_ofList]
  constructor
  · intro parsed
    obtain ⟨result,read,same⟩ := bind_eq_ok.mp parsed
    obtain ⟨items,bracketed,read⟩ := bind_eq_ok.mp read
    cases same
    exact ⟨items,result,(normal items).mp bracketed,readGroup_eq_ok_iff.mp read,rfl⟩
  · rintro ⟨items,result,spelled,derived,rfl⟩
    rw [parse,tree,(normal items).mpr spelled]
    show (readGroup true items >>= _) = _
    rw [readGroup_eq_ok_iff.mpr derived]
    rfl

theorem parse_of_tree {statement : String} {result : Tree}
    (read : (tree statement).toOption = some result) : parse statement = .ok result.formula := by
  cases found : tree statement with
  | error => simp [found,Except.toOption] at read
  | ok other =>
    obtain rfl : other = result := by simpa [found,Except.toOption] using read
    rw [parse,found]
    rfl

/-- The words of derived items are the names of the tree, in their order, and keywords. -/
theorem Derives.names_eq_words (derived : Derives ks items result) :
    (Lexeme.words (Item.lexemesEach items)).filter
      (fun word => !Connective.isKeyword (String.ofList word)) =
      result.names.map String.toList := by
  induction derived with
  | tighter _ ih => exact ih
  | joined _ _ ihLeft ihRight =>
    simp [ihLeft,ihRight,Tree.names]
  | negated _ ih => simp [ih,Tree.names]
  | named valid =>
    simp [Name.isKeyword_of_isValid valid,Tree.names]
  | grouped _ ih => simp [ih]

theorem Tree.leaves_formula (tree : Tree) (proper : tree.Proper) :
    tree.formula.leaves = tree.names := by
  induction tree with
  | name text => rfl
  | not operand ih => rw [formula,Formula.leaves_not,ih proper,names]
  | binary k left right ihLeft ihRight =>
    obtain ⟨binary,properLeft,properRight⟩ := proper
    rw [formula,Formula.leaves_combine binary,ihLeft properLeft,ihRight properRight,names]

theorem Derives.speakable {text : List Char} (derived : Derives Connective.binary items result)
    (spelled : lexemes [] (normalChars text) = Item.lexemesEach items) :
    ∀ name ∈ result.names, Name.Speakable name := by
  intro name member
  have valid := (derived.proper [] rfl).2 name member
  refine ⟨valid,?_⟩
  have word : name.toList ∈ Lexeme.words (lexemes [] (respell text)) := by
    have kept : name.toList ∈ result.names.map String.toList := List.mem_map_of_mem member
    rw [← derived.names_eq_words,← spelled,words_normalChars] at kept
    exact (List.mem_filter.mp kept).1
  have settled := settled_respell [] text (.inl rfl) name.toList word
  have letters : ∀ c ∈ name.toList, isWordCharacter c := by
    have parts := Name.chars_of_isValid (by simpa using valid : Name.isValid (.ofList name.toList))
    exact fun c member => isWordCharacter_of_isPart (parts.2 c member)
  cases found : Connective.ofWord? name.toList with
  | none => rfl
  | some k =>
    have same := settled letters k found
    exact absurd (String.toList_inj.mp same) (Name.not_keyword valid k)

/-- The formulas that statements stand for and all that is built from them. -/
inductive Expressible : Formula → Prop where
  | parsed : parse statement = .ok formula → Expressible formula
  | not : Expressible operand → Expressible operand.not
  | and : Expressible left → Expressible right → Expressible (left.and right)
  | or : Expressible left → Expressible right → Expressible (left.or right)
  | xor : Expressible left → Expressible right → Expressible (left.xor right)
  | implies : Expressible left → Expressible right → Expressible (left.implies right)
  | iff : Expressible left → Expressible right → Expressible (left.iff right)

/-- Such a formula is canonical, and each of its names can be written in a statement. -/
theorem Expressible.canonical {formula : Formula} (expressible : Expressible formula) :
    formula.Canonical ∧ ∀ name ∈ formula.leaves, Name.Speakable name := by
  have joined {left right : Formula} {k : Connective} (binary : k ≠ .not)
      (ofLeft : left.Canonical ∧ ∀ name ∈ left.leaves, Name.Speakable name)
      (ofRight : right.Canonical ∧ ∀ name ∈ right.leaves, Name.Speakable name) :
      (Formula.combine k left right).Canonical ∧
        ∀ name ∈ (Formula.combine k left right).leaves, Name.Speakable name := by
    refine ⟨ofLeft.1.combine ofRight.1 k,?_⟩
    rw [Formula.leaves_combine binary]
    exact List.forall_mem_append.mpr ⟨ofLeft.2,ofRight.2⟩
  induction expressible with
  | parsed accepted =>
    obtain ⟨items,result,spelled,derived,rfl⟩ := parse_eq_ok_iff.mp accepted
    refine ⟨result.canonical_formula,?_⟩
    rw [result.leaves_formula (derived.proper [] rfl).1]
    exact derived.speakable spelled
  | not _ ih =>
    refine ⟨ih.1.not,?_⟩
    rw [Formula.leaves_not]
    exact ih.2
  | and _ _ ihLeft ihRight => exact joined (k := .and) (by decide) ihLeft ihRight
  | or _ _ ihLeft ihRight => exact joined (k := .or) (by decide) ihLeft ihRight
  | xor _ _ ihLeft ihRight => exact joined (k := .xor) (by decide) ihLeft ihRight
  | implies _ _ ihLeft ihRight => exact joined (k := .implies) (by decide) ihLeft ihRight
  | iff _ _ ihLeft ihRight => exact joined (k := .iff) (by decide) ihLeft ihRight

end Statement
end Sentential
