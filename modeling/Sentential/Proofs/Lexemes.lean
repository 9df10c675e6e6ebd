import Mathlib.Logic.Relation
import Sentential.Proofs.Characters
import Sentential.Statement.Bracketing

/-! What a text looks like to the bracket reader: parentheses and words, blanks forgotten. The steps
of normalizing that follow respelling are described here by what they do to lexemes. Spacing leaves
them alone; unwrapping takes the parentheses off negated names and does nothing else. -/
namespace Sentential.Statement

open Text

inductive Lexeme where
  | opening
  | closing
  | word (text : List Char)
  deriving DecidableEq, Repr

/-- A character that can be part of a word of lexemes. -/
def isPlain (c : Char) : Bool := !isParenthesis c && !isBlank c

namespace Lexeme

/-- What a character contributes that is not part of a word. -/
def mark (c : Char) : List Lexeme :=
  if c = '(' then [.opening] else if c = ')' then [.closing] else []

/-- A word that was collected last character first, if there is one. -/
def finish : List Char → List Lexeme
  | [] => []
  | c :: letters => [.word (c :: letters).reverse]

def word? : Lexeme → Option (List Char)
  | .word text => some text
  | _ => none

def words (ls : List Lexeme) : List (List Char) := ls.filterMap word?

@[simp] theorem words_nil : words [] = [] := rfl
@[simp] theorem words_opening (ls : List Lexeme) : words (.opening :: ls) = words ls := rfl
@[simp] theorem words_closing (ls : List Lexeme) : words (.closing :: ls) = words ls := rfl
@[simp] theorem words_word (text : List Char) (ls : List Lexeme) :
    words (.word text :: ls) = text :: words ls := rfl

@[simp] theorem words_append (ls ls' : List Lexeme) : words (ls ++ ls') = words ls ++ words ls' :=
  List.filterMap_append

end Lexeme

/-- The lexemes of a text after the characters of an unfinished word, which come last first. -/
def lexemes (word : List Char) : List Char → List Lexeme
  | [] => Lexeme.finish word
  | c :: cs =>
    if isPlain c then lexemes (c :: word) cs
    else Lexeme.finish word ++ (Lexeme.mark c ++ lexemes [] cs)

/-- A text that begins with no part of a word. -/
def Bounded (text : List Char) : Prop := ∀ c ∈ text.head?, isPlain c = false

theorem lexemes_append {word text rest : List Char} (bounded : Bounded rest) :
    lexemes word (text ++ rest) = lexemes word text ++ lexemes [] rest := by
  induction text generalizing word with
  | nil =>
    cases rest with
    | nil => simp [lexemes,Lexeme.finish]
    | cons c rest =>
      have stops : isPlain c = false := bounded c rfl
      simp [lexemes,stops,Lexeme.finish]
  | cons c text ih =>
    by_cases plain : isPlain c
    · simp only [List.cons_append,lexemes,plain,if_true,ih]
    · simp only [List.cons_append,lexemes,plain,ih,List.append_assoc,if_false,
        Bool.false_eq_true]

theorem lexemes_plain_append {word text : List Char} (plain : ∀ c ∈ text, isPlain c)
    (rest : List Char) : lexemes word (text ++ rest) = lexemes (text.reverse ++ word) rest := by
  induction text generalizing word with
  | nil => rfl
  | cons c text ih =>
    obtain ⟨first,plain⟩ := List.forall_mem_cons.mp plain
    simp only [List.cons_append,lexemes,first,if_true,ih plain,List.reverse_cons,List.append_assoc,
      List.nil_append]

theorem lexemes_word {text : List Char} (plain : ∀ c ∈ text, isPlain c) (some : text ≠ []) :
    lexemes [] text = [.word text] := by
  obtain ⟨c,rest,reversed⟩ := List.exists_cons_of_ne_nil (List.reverse_ne_nil_iff.mpr some)
  rw [← List.append_nil text,lexemes_plain_append plain,List.append_nil,lexemes,reversed,
    Lexeme.finish,← reversed,List.reverse_reverse,List.append_nil]

theorem isPlain_opening : isPlain '(' = false := by decide
theorem isPlain_closing : isPlain ')' = false := by decide
theorem isPlain_space : isPlain ' ' = false := by decide

theorem isPlain_of_blank {c : Char} (blank : isBlank c) : isPlain c = false := by
  simp [isPlain,blank]

theorem ne_parenthesis_of_blank {c : Char} (blank : isBlank c) : c ≠ '(' ∧ c ≠ ')' := by
  constructor <;> rintro rfl <;> exact absurd blank (by decide)

@[simp] theorem lexemes_opening (word text : List Char) :
    lexemes word ('(' :: text) = Lexeme.finish word ++ .opening :: lexemes [] text := by
  simp [lexemes,isPlain_opening,Lexeme.mark]

@[simp] theorem lexemes_closing (word text : List Char) :
    lexemes word (')' :: text) = Lexeme.finish word ++ .closing :: lexemes [] text := by
  simp [lexemes,isPlain_closing,Lexeme.mark]

theorem lexemes_blank {c : Char} (blank : isBlank c) (word text : List Char) :
    lexemes word (c :: text) = Lexeme.finish word ++ lexemes [] text := by
  obtain ⟨open_,close⟩ := ne_parenthesis_of_blank blank
  simp [lexemes,isPlain_of_blank blank,Lexeme.mark,open_,close]

@[simp] theorem lexemes_space (word text : List Char) :
    lexemes word (' ' :: text) = Lexeme.finish word ++ lexemes [] text :=
  lexemes_blank (by decide) word text

/-- A pending blank has ended the word before it, whether or not it is written. -/
theorem lexemes_squeeze {inside pending : Bool} {word text : List Char}
    (fresh : inside = true → word = []) :
    lexemes word (squeeze inside pending text) =
      if pending then Lexeme.finish word ++ lexemes [] text else lexemes word text := by
  induction text generalizing inside pending word with
  | nil => cases pending <;> simp [squeeze,lexemes,Lexeme.finish]
  | cons c text ih =>
    by_cases blank : isBlank c
    · simp only [squeeze,blank,if_true,ih fresh,lexemes_blank blank]
      cases pending <;> simp [Lexeme.finish]
    have step (word : List Char) :
        lexemes word (c :: squeeze (c == '(') false text) = lexemes word (c :: text) := by
      by_cases plain : isPlain c
      · have letter : (c == '(') = false := by
          rw [beq_eq_false_iff_ne]
          rintro rfl
          exact absurd plain (by decide)
        simp only [lexemes,plain,if_true,letter]
        exact ih (by simp)
      · simp only [lexemes,plain,if_false,Bool.false_eq_true,ih (fun _ => rfl)]
    by_cases spaced : (pending && !inside && c != ')') = true
    · obtain rfl : pending = true := by
        cases pending with
        | true => rfl
        | false => simp at spaced
      simp only [squeeze,blank,spaced,if_true,lexemes_space,step,Bool.false_eq_true,if_false]
    · simp only [squeeze,blank,spaced,step,Bool.false_eq_true,if_false]
      cases pending with
      | false => rfl
      | true =>
        cases inside with
        | true => simp [fresh rfl,Lexeme.finish]
        | false =>
          obtain rfl : c = ')' := by simpa using spaced
          simp [Lexeme.finish]

theorem lexemes_tidy (text : List Char) : lexemes [] (tidy text) = lexemes [] text :=
  lexemes_squeeze fun _ => rfl

namespace Lexeme

/-- A valid name after any number of `not`s. -/
def Negated (inner : List Lexeme) : Prop :=
  ∃ count name, Name.isValid (String.ofList name) ∧
    inner = List.replicate count (.word Connective.not.keyword.toList) ++ [.word name]

end Lexeme

/-- Parentheses are taken off some negated names, and all else is kept. -/
inductive Unwraps : List Lexeme → List Lexeme → Prop where
  | nil : Unwraps [] []
  | keep : Unwraps ls ls' → Unwraps (l :: ls) (l :: ls')
  | drop {inner : List Lexeme} : Lexeme.Negated inner → Unwraps ls ls' →
      Unwraps (.opening :: inner ++ .closing :: ls) (inner ++ ls')

namespace Unwraps

theorem refl (ls : List Lexeme) : Unwraps ls ls := by
  induction ls with
  | nil => exact nil
  | cons l ls ih => exact keep ih

theorem prepend (kept : List Lexeme) (unwraps : Unwraps ls ls') :
    Unwraps (kept ++ ls) (kept ++ ls') := by
  induction kept with
  | nil => exact unwraps
  | cons l kept ih => exact keep ih

/-- Words stay, in their order. -/
theorem words (unwraps : Unwraps ls ls') : Lexeme.words ls' = Lexeme.words ls := by
  induction unwraps with
  | nil => rfl
  | @keep ls ls' l _ ih =>
    have split (rest : List Lexeme) : Lexeme.words (l :: rest) =
        Lexeme.words [l] ++ Lexeme.words rest :=
      Lexeme.words_append [l] rest
    rw [split ls,split ls',ih]
  | @drop inner ls ls' _ _ ih =>
    simp [ih]

theorem run_words (run : Relation.ReflTransGen Unwraps ls ls') :
    Lexeme.words ls' = Lexeme.words ls := by
  induction run with
  | refl => rfl
  | tail _ step ih => exact step.words.trans ih

end Unwraps

theorem isPlain_of_isWordCharacter {c : Char} (word : isWordCharacter c) : isPlain c := by
  have parenthesis : isParenthesis c = false := by
    rw [isParenthesis,Bool.or_eq_false_iff,beq_eq_false_iff_ne,beq_eq_false_iff_ne]
    constructor <;> rintro rfl <;> exact absurd word (by decide)
  simp [isPlain,parenthesis,isBlank_of_isWordCharacter word]

theorem isWordCharacter_of_apart {c : Char} (apart : isPlain c = false) :
    isWordCharacter c = false := by
  rw [← Bool.not_eq_true]
  intro word
  rw [isPlain_of_isWordCharacter word] at apart
  cases apart

theorem lexemes_of_isNegatedName {text : List Char} (negated : isNegatedName text) :
    Lexeme.Negated (lexemes [] text) := by
  fun_induction isNegatedName text with
  | case1 cs ih =>
    obtain ⟨count,name,valid,same⟩ := ih negated
    refine ⟨count + 1,name,valid,?_⟩
    have spelled : lexemes [] ('n' :: 'o' :: 't' :: ' ' :: cs) =
        .word Connective.not.keyword.toList :: lexemes [] cs := by
      have bounded : Bounded (' ' :: cs) := by simp [Bounded,isPlain_space]
      have split : lexemes [] (['n','o','t'] ++ ' ' :: cs) = _ := lexemes_append bounded
      have word : lexemes [] ['n','o','t'] = [.word Connective.not.keyword.toList] := by decide
      rw [word,lexemes_space] at split
      exact split
    rw [spelled,same,List.replicate_succ,List.cons_append]
  | case2 cs =>
    obtain ⟨some,parts⟩ := Name.chars_of_isValid negated
    have plain : ∀ c ∈ cs, isPlain c := fun c member =>
      isPlain_of_isWordCharacter (isWordCharacter_of_isPart (parts c member))
    exact ⟨0,cs,negated,lexemes_word plain some⟩

/-- A redundant group stands at the head of the text and holds a negated name. -/
theorem redundantGroup_eq_some {text inner rest : List Char}
    (found : redundantGroup? text = some (inner,rest)) :
    text = '(' :: (inner ++ ')' :: rest) ∧ isNegatedName inner := by
  cases text with
  | nil => cases found
  | cons c cs =>
    simp only [redundantGroup?] at found
    split at found
    · next opens =>
      have parts := List.takeWhile_append_dropWhile (p := (!isParenthesis ·)) (l := cs)
      split at found
      · next closed =>
        split at found
        · next negated =>
          cases found
          rw [closed] at parts
          exact ⟨by rw [opens,parts],negated⟩
        · cases found
      · cases found
    · cases found

theorem unwraps_unwrap (word text : List Char) :
    Unwraps (lexemes word text) (lexemes word (unwrap text)) := by
  fun_induction unwrap text generalizing word with
  | case1 => exact .refl _
  | case2 c cs inner rest found ih =>
    obtain ⟨same,negated⟩ := redundantGroup_eq_some found
    have closing : Bounded (')' :: rest) := by simp [Bounded,isPlain_closing]
    have space : Bounded (' ' :: unwrap rest) := by simp [Bounded,isPlain_space]
    rw [same,lexemes_opening,lexemes_append closing,lexemes_closing,List.cons_append,lexemes_space,
      lexemes_append space,lexemes_space]
    exact .prepend _ (.drop (lexemes_of_isNegatedName negated) (ih []))
  | case3 c cs none ih =>
    by_cases plain : isPlain c
    · simp only [lexemes,plain,if_true]
      exact ih (c :: word)
    · simp only [lexemes,plain,if_false,Bool.false_eq_true]
      exact .prepend _ (.prepend _ (ih []))

/-- Repeated unwrapping, with its spacing, only takes parentheses off negated names. -/
theorem unwraps_unwrapAll (text : List Char) :
    Relation.ReflTransGen Unwraps (lexemes [] text) (lexemes [] (unwrapAll text)) := by
  fun_induction unwrapAll text with
  | case1 text next fewer ih =>
    have step : Unwraps (lexemes [] text) (lexemes [] next) := by
      rw [lexemes_tidy]
      exact unwraps_unwrap [] text
    exact .head step ih
  | case2 => exact .refl

/-- Normal text is respelled text with parentheses taken off negated names. -/
theorem unwraps_normalChars (text : List Char) :
    Relation.ReflTransGen Unwraps (lexemes [] (respell text)) (lexemes [] (normalChars text)) := by
  rw [← lexemes_tidy,normalChars]
  exact unwraps_unwrapAll (tidy (respell text))

/-- Normalizing keeps the words of the respelled text, in their order. -/
theorem words_normalChars (text : List Char) :
    Lexeme.words (lexemes [] (normalChars text)) = Lexeme.words (lexemes [] (respell text)) :=
  Unwraps.run_words (unwraps_normalChars text)

mutual

def Item.lexemes : Item → List Lexeme
  | .token text => [.word text.toList]
  | .group items => .opening :: Item.lexemesEach items ++ [.closing]

def Item.lexemesEach : List Item → List Lexeme
  | [] => []
  | item :: items => item.lexemes ++ Item.lexemesEach items

end

attribute [simp] Item.lexemes Item.lexemesEach

@[simp] theorem Item.lexemesEach_append (items others : List Item) :
    lexemesEach (items ++ others) = lexemesEach items ++ lexemesEach others := by
  induction items with
  | nil => rfl
  | cons item items ih => simp only [List.cons_append,lexemesEach,ih,List.append_assoc]

/-- Reads items off lexemes, with the unfinished groups that `Item.read` keeps. -/
def readLexemes (outer : List (List Item)) (items : List Item) : List Lexeme → Option (List Item)
  | [] => if outer.isEmpty then some items.reverse else none
  | .opening :: ls => readLexemes (items :: outer) [] ls
  | .closing :: ls =>
    match outer with
    | [] => none
    | around :: outer => readLexemes outer (.group items.reverse :: around) ls
  | .word text :: ls => readLexemes outer (.token (String.ofList text) :: items) ls

theorem readLexemes_finish (outer : List (List Item)) (items : List Item) (word : List Char)
    (ls : List Lexeme) :
    readLexemes outer items (Lexeme.finish word ++ ls) =
      readLexemes outer (Item.finish word items) ls := by
  cases word <;> rfl

theorem read_eq_ok {outer : List (List Item)} {items result : List Item} {word text : List Char} :
    Item.read outer items word text = .ok result ↔
      readLexemes outer items (lexemes word text) = some result := by
  induction text generalizing outer items word with
  | nil =>
    rw [lexemes,← List.append_nil (Lexeme.finish word),readLexemes_finish]
    cases outer <;> simp [Item.read,readLexemes]
  | cons c text ih =>
    by_cases opens : c = '('
    · simp only [Item.read,opens,if_true,lexemes_opening,readLexemes_finish,readLexemes]
      exact ih
    by_cases closes : c = ')'
    · subst closes
      simp only [Item.read,lexemes_closing,readLexemes_finish,readLexemes,opens,if_false,if_true]
      cases outer with
      | nil => simp
      | cons around outer => exact ih
    by_cases blank : isBlank c
    · simp only [Item.read,opens,closes,blank,if_false,if_true,lexemes_blank blank,
        readLexemes_finish]
      exact ih
    · have plain : isPlain c := by simp [isPlain,isParenthesis,opens,closes,blank]
      simp only [Item.read,opens,closes,blank,if_false,lexemes,plain,if_true,Bool.false_eq_true]
      exact ih

/-- The lexemes that were read into unfinished groups. -/
def lexemesRead : List (List Item) → List Item → List Lexeme
  | [], items => Item.lexemesEach items.reverse
  | around :: outer, items => lexemesRead outer around ++ .opening :: Item.lexemesEach items.reverse

theorem lexemesRead_cons (outer : List (List Item)) (item : Item) (items : List Item) :
    lexemesRead outer (item :: items) = lexemesRead outer items ++ item.lexemes := by
  cases outer <;> simp [lexemesRead]

theorem lexemesEach_of_readLexemes {outer : List (List Item)} {items result : List Item}
    {ls : List Lexeme} (read : readLexemes outer items ls = some result) :
    Item.lexemesEach result = lexemesRead outer items ++ ls := by
  induction ls generalizing outer items with
  | nil =>
    cases outer with
    | nil =>
      cases read
      simp [lexemesRead]
    | cons => cases read
  | cons l ls ih =>
    cases l with
    | opening => simpa [lexemesRead] using ih read
    | word text => simpa [lexemesRead_cons] using ih read
    | closing =>
      cases outer with
      | nil => cases read
      | cons around outer => simpa [lexemesRead_cons,lexemesRead] using ih read

mutual

theorem readLexemes_item (item : Item) (outer : List (List Item)) (items : List Item)
    (ls : List Lexeme) :
    readLexemes outer items (item.lexemes ++ ls) = readLexemes outer (item :: items) ls := by
  cases item with
  | token text => simp [readLexemes]
  | group inner =>
    simp only [Item.lexemes,List.cons_append,List.append_assoc,readLexemes]
    rw [readLexemes_items inner]
    simp [readLexemes]

theorem readLexemes_items (inner : List Item) (outer : List (List Item)) (items : List Item)
    (ls : List Lexeme) :
    readLexemes outer items (Item.lexemesEach inner ++ ls) =
      readLexemes outer (inner.reverse ++ items) ls := by
  cases inner with
  | nil => rfl
  | cons item inner =>
    rw [Item.lexemesEach,List.append_assoc,readLexemes_item item,readLexemes_items inner]
    simp

end

/-- Lexemes are read as items exactly if they are the lexemes of the items. -/
theorem readLexemes_eq_some_iff {ls : List Lexeme} {items : List Item} :
    readLexemes [] [] ls = some items ↔ ls = Item.lexemesEach items := by
  constructor
  · intro read
    simpa [lexemesRead] using (lexemesEach_of_readLexemes read).symm
  · intro same
    rw [same,← List.append_nil (Item.lexemesEach items),readLexemes_items]
    simp [readLexemes]

/-- A text is read as items exactly if it has the lexemes of the items. -/
theorem read_eq_ok_iff {text : List Char} {items : List Item} :
    Item.read [] [] [] text = .ok items ↔ lexemes [] text = Item.lexemesEach items := by
  rw [read_eq_ok,readLexemes_eq_some_iff]

theorem bracketed_eq_ok_iff {text : String} {items : List Item} :
    bracketed text = .ok items ↔ lexemes [] text.toList = Item.lexemesEach items := by
  rw [← read_eq_ok_iff,bracketed]
  cases Item.read [] [] [] text.toList <;> simp

end Sentential.Statement
