import Sentential.Proofs.Balance

/-! Names as statements. A valid name that is no word for a connective is read as the variable of that
name, and nothing else is. Validity rules out keywords only, while statements may also write
connectives with other words, so there are valid names that no statement can speak of: a formula with
such a name has a text, but the text is refused or means something else. -/
namespace Sentential

/-- Words for connectives that are no keywords, and so are valid names. -/
def Name.reserved : List String := ["NOT","AND","OR","XOR","to","IFF"]

theorem Connective.ofWord_eq_none {word : String} :
    ofWord? word.toList = none ↔ ∀ k, word ∉ words k := by
  constructor
  · intro none k member
    rw [ofWord_of_mem word member] at none
    cases none
  · intro unspelled
    rw [ofWord?,List.find?_eq_none]
    intro k _ spelled
    obtain ⟨other,member,same⟩ := List.any_eq_true.mp spelled
    rw [String.toList_inj.mp (beq_iff_eq.mp same)] at member
    exact unspelled k member

theorem Connective.words_cases (k : Connective) :
    ∀ word ∈ words k, word = k.keyword ∨ word ∈ Name.reserved := by
  cases k <;> decide

theorem Name.reserved_cases : ∀ name ∈ reserved, isValid name ∧ ∃ k, name ∈ Connective.words k := by
  have listed : ∀ name ∈ reserved, isValid name ∧
      ∃ k ∈ Connective.all, name ∈ Connective.words k := by
    decide +kernel
  intro name member
  obtain ⟨valid,k,-,spelled⟩ := listed name member
  exact ⟨valid,k,spelled⟩

/-- Only the words that are no keywords separate the valid names from those that can be spoken of. -/
theorem Name.speakable_iff {name : String} : Speakable name ↔ isValid name ∧ name ∉ reserved := by
  refine and_congr_right fun valid => ?_
  rw [Connective.ofWord_eq_none]
  constructor
  · intro unspelled member
    obtain ⟨-,k,spelled⟩ := reserved_cases name member
    exact unspelled k spelled
  · intro free k spelled
    rcases k.words_cases name spelled with keyword | member
    · exact not_keyword valid k keyword
    · exact free member

namespace Statement

open Text

theorem lexemes_respell_alone {l : Lexeme} {text : List Char} (spelling : l.Spelling text) :
    lexemes [] (respell text) = [l] := by
  simpa [respell,lexemes,Lexeme.finish] using lexemes_respell spelling bounded_nil

theorem parse_of_speakable {name : String} (speakable : Name.Speakable name) :
    parse name = .ok (.var name) := by
  obtain ⟨valid,unspelled⟩ := speakable
  have legal : Name.isValid (.ofList name.toList) := by simpa using valid
  obtain ⟨some,parts⟩ := Name.chars_of_isValid legal
  have letters : ∀ c ∈ name.toList, isWordCharacter c :=
    fun c member => isWordCharacter_of_isPart (parts c member)
  have spelled : lexemes [] (respell name.toList) = Item.lexemesEach [.token name] :=
    lexemes_respell_alone (.name some letters unspelled)
  have derived : Derives Connective.binary [.token name] (.name name) :=
    (Derives.named valid).loosen Connective.binary
  exact parse_eq_ok_iff_respelled.mpr ⟨_,_,spelled,derived,rfl⟩

/-- A connective by itself is not what a statement can be. -/
theorem refused_of_word {k : Connective} {word : String} (spelled : word ∈ k.words) :
    ∃ error, parse word = .error error ∧ error.fault = .malformed .operatorAsOperand := by
  have alone : lexemes [] (respell word.toList) = Item.lexemesEach [.token k.keyword] :=
    lexemes_respell_alone (.connective (.word spelled))
  have refused : readToken k.keyword = .error (.malformed k.keyword .operatorAsOperand) := by
    rw [readToken,if_pos k.isKeyword_keyword]
  rw [refused_iff,alone,readWhole,readLexemes_eq_some_iff.mpr rfl]
  show verdict (readGroup true [.token k.keyword]) = _
  rw [readGroup,refused]
  rfl

/-- A text is read as the variable of that name exactly if it is a valid name and none of the reserved
words, which are valid as well and are refused. A variable is rendered as its name, so the same goes
for its renderings. -/
theorem parse_eq_var_iff (name : String) :
    (parse name = .ok (.var name) ↔ Name.isValid name ∧ name ∉ Name.reserved) ∧
    (∀ style, parse ((Formula.var name).render style) = .ok (.var name) ↔
      Name.isValid name ∧ name ∉ Name.reserved) ∧
    (name ∈ Name.reserved → Name.isValid name ∧
      ∃ error, parse name = .error error ∧ error.fault = .malformed .operatorAsOperand) := by
  have read : parse name = .ok (.var name) ↔ Name.isValid name ∧ name ∉ Name.reserved := by
    rw [← Name.speakable_iff]
    refine ⟨fun read => ?_,parse_of_speakable⟩
    have leaf : name ∈ (Formula.var name).leaves := List.mem_singleton_self name
    exact (Expressible.parsed read).canonical.2 name leaf
  refine ⟨read,fun style => ?_,fun member => ?_⟩
  · rw [Formula.render,Formula.chars,String.ofList_toList]
    exact read
  · obtain ⟨valid,k,spelled⟩ := Name.reserved_cases name member
    exact ⟨valid,refused_of_word spelled⟩

/-- `to` is a valid name, but a statement takes it for the arrow. -/
theorem valid_name_refused :
    Name.isValid "to" = true ∧ parse "to" = .error (.malformed "->" .operatorAsOperand) := by
  have refused : tree "to" = .error (.malformed "->" .operatorAsOperand) := by decide +kernel
  refine ⟨by decide,?_⟩
  rw [parse,refused]
  rfl

end Statement
end Sentential
