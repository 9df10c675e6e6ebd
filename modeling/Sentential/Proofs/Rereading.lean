import Sentential.Proofs.Nesting

/-! Items that are written out and read again. Between items stands one space, and parentheses need
none, so a token ends where its text does and a group where its parenthesis closes, at any depth. What
is read back are the same items, provided that each token could stand in a text in the first place. -/
namespace Sentential.Statement

open Text

/-- The item could be read from a text: each token in it is a word without parentheses and blanks. -/
inductive Item.Writable : Item → Prop where
  | token {text : String} : text ≠ "" →
      (∀ c ∈ text.toList, isParenthesis c = false ∧ isBlank c = false) → Writable (.token text)
  | group {items : List Item} : (∀ item ∈ items, Writable item) → Writable (.group items)

theorem isPlain_iff {c : Char} : isPlain c ↔ isParenthesis c = false ∧ isBlank c = false := by
  simp [isPlain]

theorem bounded_space (rest : List Char) : Bounded (' ' :: rest) := by
  intro c first
  cases first
  exact isPlain_space

/-- A space ends every item but the last, so the items have their lexemes one after the other. -/
theorem lexemes_charsEach {items : List Item}
    (each : ∀ item ∈ items, lexemes [] item.chars = item.lexemes) :
    lexemes [] ([' '].intercalate (Item.charsEach items)) = Item.lexemesEach items := by
  induction items with
  | nil => rfl
  | cons item items ih =>
    obtain ⟨first,others⟩ := List.forall_mem_cons.mp each
    cases items with
    | nil => simpa [Item.charsEach] using first
    | cons next items =>
      have apart : [' '].intercalate (Item.charsEach (item :: next :: items)) =
          item.chars ++ ' ' :: [' '].intercalate (Item.charsEach (next :: items)) := by
        simp [Item.charsEach]
      calc
        lexemes [] ([' '].intercalate (Item.charsEach (item :: next :: items)))
          = lexemes [] item.chars ++
              lexemes [] (' ' :: [' '].intercalate (Item.charsEach (next :: items))) := by
            rw [apart,lexemes_append (bounded_space _)]
        _ = item.lexemes ++ Item.lexemesEach (next :: items) := by
            rw [first,lexemes_space,Lexeme.finish,List.nil_append,ih others]

/-- A writable item is seen in its text as it is. -/
theorem lexemes_chars {item : Item} (writable : item.Writable) :
    lexemes [] item.chars = item.lexemes := by
  induction writable with
  | @token text some apart =>
    have plain : ∀ c ∈ text.toList, isPlain c := fun c member => isPlain_iff.mpr (apart c member)
    apply lexemes_word plain
    simpa using some
  | @group items _ ih =>
    rw [Item.chars,List.cons_append,lexemes_opening,lexemes_append (bounded_closing []),
      lexemes_charsEach ih,lexemes_closing]
    simp [lexemes,Lexeme.finish]

theorem bracketed_renderAll {items : List Item} (writable : ∀ item ∈ items, item.Writable) :
    bracketed (Item.renderAll items) = .ok items := by
  apply bracketed_eq_ok_iff.mpr
  rw [Item.renderAll,String.toList_ofList]
  exact lexemes_charsEach fun item member => lexemes_chars (writable item member)

/-- Whatever a text holds could stand in a text. -/
theorem Holds.writable {text : List Char} {items : List Item} (holds : Holds text items) :
    ∀ item ∈ items, item.Writable := by
  induction holds with
  | nil => exact List.forall_mem_nil _
  | blank _ _ ih => exact ih
  | @word text items word some plain _ _ ih =>
    refine List.forall_mem_cons.mpr ⟨.token ?_ ?_,ih⟩
    · simpa using some
    · intro c member
      rw [String.toList_ofList] at member
      exact isPlain_iff.mp (plain c member)
  | group _ _ ihWithin ih => exact List.forall_mem_cons.mpr ⟨.group ihWithin,ih⟩

theorem writable_of_bracketed {text : String} {items : List Item}
    (read : bracketed text = .ok items) : ∀ item ∈ items, item.Writable :=
  (holds_iff.mpr (bracketed_eq_ok_iff.mp read)).writable

/-- Items are read back from their text exactly if their tokens are words without parentheses and blanks.
Those of the items of any text are, so these items come back from the text that they have themselves. -/
theorem rereading_exact (items : List Item) :
    (bracketed (Item.renderAll items) = .ok items ↔ ∀ item ∈ items, item.Writable) ∧
    ∀ text, bracketed text = .ok items → bracketed (Item.renderAll items) = .ok items := by
  refine ⟨⟨writable_of_bracketed,bracketed_renderAll⟩,?_⟩
  intro text read
  exact bracketed_renderAll (writable_of_bracketed read)

/-- Spaces stand between items only, so none stands next to the inside of a parenthesis. -/
example : Item.renderAll [.token "p",.group [.group [],.token "and",.group [.token "q"]]] =
    "p (() and (q))" := by
  decide

end Sentential.Statement
