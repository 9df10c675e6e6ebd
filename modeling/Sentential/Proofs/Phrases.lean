import Sentential.Inline.Parse
import Sentential.Proofs.Tokens
import Sentential.Proofs.Writing

/-! Texts that both notations can read: names that neither reserves, the signs that both have, and
parentheses, with blanks between them. Either reader sees the same nested phrases in such a text, or
finds that its parentheses do not pair up. -/
namespace Sentential

/-- A name that neither notation reserves. -/
structure CommonName where
  text : String
  speakable : Name.Speakable text
  unreserved : text ∉ Inline.reserved

/-- The signs that both notations have. -/
inductive Sign where
  | bang
  | tilde
  | ampersand
  | star
  | bar
  | plus
  | caret
  | arrow
  | doubleArrow
  deriving DecidableEq, Repr

namespace Sign

def chars : Sign → List Char
  | .bang => ['!']
  | .tilde => ['~']
  | .ampersand => ['&']
  | .star => ['*']
  | .bar => ['|']
  | .plus => ['+']
  | .caret => ['^']
  | .arrow => ['-','>']
  | .doubleArrow => ['<','-','>']

def connective : Sign → Connective
  | .bang | .tilde => .not
  | .ampersand | .star => .and
  | .bar | .plus => .or
  | .caret => .xor
  | .arrow => .implies
  | .doubleArrow => .iff

theorem spelling (sign : Sign) : sign.connective.Spelling sign.chars := by
  have single {k : Connective} {c : Char} (sign : c ∈ k.signs) : k.Spelling [c] :=
    .signs sign (List.forall_mem_nil _) (fun more => absurd rfl more)
  have shaft : '-' ∈ ['-','='] := List.mem_cons_self ..
  cases sign with
  | arrow => exact Connective.Spelling.arrow shaft Nat.one_pos
  | doubleArrow => exact Connective.Spelling.doubleArrow shaft Nat.one_pos
  | _ => exact single (by decide)

theorem chars_operators (sign : Sign) : ∀ c ∈ sign.chars, c ∈ Inline.operatorMarks :=
  List.all_iff_forall_prop.mp (by cases sign <;> decide)

end Sign

inductive Symbol where
  | name (name : CommonName)
  | sign (sign : Sign)
  | opening
  | closing

namespace Symbol

def chars : Symbol → List Char
  | .name n => n.text.toList
  | .sign s => s.chars
  | .opening => ['(']
  | .closing => [')']

def lexeme : Symbol → Statement.Lexeme
  | .name n => .word n.text.toList
  | .sign s => .word s.connective.keyword.toList
  | .opening => .opening
  | .closing => .closing

theorem spelling (symbol : Symbol) : symbol.lexeme.Spelling symbol.chars := by
  cases symbol with
  | name name =>
    have valid : Name.isValid (String.ofList name.text.toList) := by
      simpa using name.speakable.1
    obtain ⟨some,parts⟩ := Name.chars_of_isValid valid
    exact .name some (fun c member => Text.isWordCharacter_of_isPart (parts c member))
      name.speakable.2
  | sign sign => exact .connective sign.spelling
  | opening => exact .opening
  | closing => exact .closing

/-- Symbols begin with what is in ASCII. -/
theorem head_chars (symbol : Symbol) :
    ∃ c rest, symbol.chars = c :: rest ∧ c.toNat < 0x80 := by
  cases symbol with
  | name name =>
    obtain ⟨first,letters,spelled,start,-⟩ := Name.toList_of_isValid name.speakable.1
    have := Text.toNat_of_isPart (Text.isPart_of_isStart start)
    exact ⟨first,letters,spelled,by omega⟩
  | sign sign => cases sign <;> exact ⟨_,_,rfl,by decide⟩
  | opening => exact ⟨'(',[],rfl,by decide⟩
  | closing => exact ⟨')',[],rfl,by decide⟩

end Symbol

/-- A text that writes symbols one after the other, with blanks between them and wherever else. -/
inductive Spaced : List Symbol → List Char → Prop where
  | nil : Spaced [] []
  | blank : Text.isBlank c → Spaced symbols text → Spaced symbols (c :: text)
  | symbol : Inline.Pauses text → Spaced symbols text →
      Spaced (symbol :: symbols) (symbol.chars ++ text)

/-- A name, a sign, or phrases in parentheses. -/
inductive Phrase where
  | name (name : CommonName)
  | sign (sign : Sign)
  | group (phrases : List Phrase)

namespace Phrase

mutual

/-- The item of a statement that a phrase is read as. -/
def item : Phrase → Statement.Item
  | .name n => .token n.text
  | .sign s => .token s.connective.keyword
  | .group phrases => .group (items phrases)

def items : List Phrase → List Statement.Item
  | [] => []
  | phrase :: phrases => phrase.item :: items phrases

end

mutual

/-- The tokens of inline text that a phrase is read as. -/
def tokens : Phrase → List Inline.Token
  | .name n => [.identifier n.text]
  | .sign s => Inline.marks s.chars
  | .group phrases => [.group .parenthesis (tokensEach phrases)]

def tokensEach : List Phrase → List Inline.Token
  | [] => []
  | phrase :: phrases => phrase.tokens ++ tokensEach phrases

end

theorem items_eq_map (phrases : List Phrase) : items phrases = phrases.map item := by
  induction phrases with
  | nil => rfl
  | cons phrase phrases ih => rw [items,ih,List.map_cons]

theorem tokensEach_eq_flatMap (phrases : List Phrase) :
    tokensEach phrases = phrases.flatMap tokens := by
  induction phrases with
  | nil => rfl
  | cons phrase phrases ih => rw [tokensEach,ih,List.flatMap_cons]

/-- The phrases of symbols, if parentheses pair up. `outer` holds the unfinished groups around the
current one, the innermost first, and `phrases` the current one, both last first. -/
def nest (outer : List (List Phrase)) (phrases : List Phrase) :
    List Symbol → Option (List Phrase)
  | [] => if outer.isEmpty then some phrases.reverse else none
  | .name n :: symbols => nest outer (.name n :: phrases) symbols
  | .sign s :: symbols => nest outer (.sign s :: phrases) symbols
  | .opening :: symbols => nest (phrases :: outer) [] symbols
  | .closing :: symbols =>
    match outer with
    | [] => none
    | around :: outer => nest outer (.group phrases.reverse :: around) symbols

end Phrase

namespace Statement

open Text Phrase

theorem lexemes_spaced_symbols {symbols : List Symbol} {text : List Char}
    (spaced : Spaced symbols text) : lexemes [] (respell text) = symbols.map Symbol.lexeme := by
  induction spaced with
  | nil => simp [respell,lexemes,Lexeme.finish]
  | blank blank _ ih =>
    rw [respell_apart (isPlain_of_blank blank),lexemes_blank blank,ih]
    rfl
  | symbol pauses _ ih =>
    have bounded : Bounded _ := fun c next => isPlain_of_blank (pauses c next)
    rw [lexemes_respell (Symbol.spelling _) bounded,ih,List.map_cons]

theorem readLexemes_symbols (outer : List (List Phrase)) (phrases : List Phrase)
    (symbols : List Symbol) :
    readLexemes (outer.map items) (items phrases) (symbols.map Symbol.lexeme) =
      (nest outer phrases symbols).map items := by
  induction symbols generalizing outer phrases with
  | nil => cases outer <;> simp [readLexemes,nest,items_eq_map]
  | cons symbol symbols ih =>
    cases symbol with
    | name name =>
      simpa [readLexemes,nest,Symbol.lexeme,items,item] using ih outer (.name name :: phrases)
    | sign sign =>
      simpa [readLexemes,nest,Symbol.lexeme,items,item] using ih outer (.sign sign :: phrases)
    | opening => simpa [readLexemes,nest,Symbol.lexeme,items] using ih (phrases :: outer) []
    | closing =>
      cases outer with
      | nil => rfl
      | cons around outer =>
        have closed := ih outer (.group phrases.reverse :: around)
        simpa [readLexemes,nest,Symbol.lexeme,items_eq_map,item] using closed

end Statement

namespace Inline

open Phrase

theorem readTokens_symbols {symbols : List Symbol} {text : List Char} (spaced : Spaced symbols text)
    (outer : List (List Phrase)) (phrases : List Phrase) :
    readTokens (outer.map fun phrases => (.parenthesis,(tokensEach phrases.reverse).reverse))
      (tokensEach phrases.reverse).reverse (skipBlanks text) =
      (nest outer phrases symbols).map tokensEach := by
  induction spaced generalizing outer phrases with
  | nil => cases outer <;> simp [skipBlanks,readTokens,nest]
  | blank blank _ ih => rw [skipBlanks_blank blank,ih]
  | @symbol text symbols symbol pauses _ ih =>
    cases symbol with
    | name name =>
      obtain ⟨first,letters,spelled,start,parts⟩ := Name.toList_of_isValid name.speakable.1
      have part := Text.isPart_of_isStart start
      have slash : first ≠ '/' := by
        rintro rfl
        exact absurd part (by decide)
      have shorter : text.length < (first :: letters ++ text).length := by
        rw [List.length_append,List.length_cons]
        omega
      rw [Symbol.chars,spelled,List.cons_append,skipBlanks_token (isSpace_of_isPart part) slash,
        ← List.cons_append,readTokens_lexeme (lexeme_name start parts pauses) shorter,← spelled,
        String.ofList_toList]
      simpa [nest,tokensEach_eq_flatMap,tokens] using ih outer (.name name :: phrases)
    | sign sign =>
      rw [Symbol.chars,readTokens_marks sign.chars_operators pauses]
      simpa [nest,tokensEach_eq_flatMap,tokens] using ih outer (.sign sign :: phrases)
    | opening =>
      have token : skipBlanks ('(' :: text) = '(' :: text := skipBlanks_token rfl (by decide) text
      rw [Symbol.chars,List.singleton_append,token,
        readTokens_lexeme (lexeme_opening pauses) (Nat.lt_succ_self _)]
      exact ih (phrases :: outer) []
    | closing =>
      have token : skipBlanks (')' :: text) = ')' :: text := skipBlanks_token rfl (by decide) text
      rw [Symbol.chars,List.singleton_append,token,
        readTokens_lexeme (lexeme_closing text) (Nat.lt_succ_self _)]
      cases outer with
      | nil => rfl
      | cons around outer =>
        have closed := ih outer (.group phrases.reverse :: around)
        simpa [nest,tokensEach_eq_flatMap,tokens] using closed

theorem head_of_spaced {symbols : List Symbol} {text : List Char} (spaced : Spaced symbols text) :
    text.head? ≠ some '\uFEFF' := by
  cases spaced with
  | nil => nofun
  | blank blank _ =>
    rintro ⟨⟩
    exact absurd blank (by decide)
  | @symbol _ _ symbol _ _ =>
    obtain ⟨c,rest,spelled,ascii⟩ := symbol.head_chars
    rw [spelled]
    rintro ⟨⟩
    exact absurd ascii (by decide)

/-- The tokens are those of the phrases. No text of symbols begins with a byte order mark. -/
theorem tokens_of_spaced {symbols : List Symbol} {text : String}
    (spaced : Spaced symbols text.toList) :
    tokens? text = (nest [] [] symbols).map tokensEach := by
  rw [tokens?]
  simp only [head_of_spaced spaced,if_false]
  exact readTokens_symbols spaced [] []

end Inline
end Sentential
