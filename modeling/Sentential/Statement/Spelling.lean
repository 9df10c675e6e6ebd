import Sentential.Connective
import Sentential.Text.WordCharacter

/-! The spellings of the connectives. A statement may write a connective as a word, as a sign, as
a run of signs or as an arrow; `respell` puts its keyword, between blanks, in the place of each.

Words count only when they stand alone: `band` is a name, and `p∧and` holds two connectives. Signs
need no blanks around them. -/
namespace Sentential

namespace Connective

/-- The words for a connective, in both cases where there are two. -/
def words : Connective → List String
  | .not => ["not", "NOT"]
  | .and => ["and", "AND"]
  | .or => ["or", "OR"]
  | .xor => ["xor", "XOR"]
  | .implies => ["to"]
  | .iff => ["iff", "IFF"]

def signs : Connective → List Char
  | .not => ['∼', '¬', '~', '!']
  | .and => ['&', '*', '∧', '⋅']
  | .or => ['|', '+', '∨']
  | .xor => ['^', '⊻', '⊕', '⨁']
  | .implies => ['⟹', '⟶', '→', '⇒']
  | .iff => ['⇔', '⟷', '↔', '⟺']

def ofWord? (word : List Char) : Option Connective :=
  all.find? fun k => k.words.any fun w => w.toList == word

def ofSign? (c : Char) : Option Connective := all.find? fun k => k.signs.contains c

end Connective

namespace Statement

open Text

/-- What follows an arrow: a shaft of hyphens or of equals signs, then a point. -/
def afterArrow? : List Char → Option (List Char)
  | [] => none
  | c :: cs =>
    if c = '-' ∨ c = '=' then
      match cs.dropWhile (· == c) with
      | '>' :: rest => some rest
      | _ => none
    else none

/-- The connective written with signs at the head of a text, and what follows it. A run of signs
of `and`, `or` or `xor`, also of different ones, is a single occurrence. -/
def symbol? : List Char → Option (Connective × List Char)
  | [] => none
  | c :: cs =>
    match Connective.ofSign? c with
    | some k => some (k, if k.isAssociative then cs.dropWhile k.signs.contains else cs)
    | none =>
      if c = '<' then (afterArrow? cs).map (.iff, ·) else (afterArrow? (c :: cs)).map (.implies, ·)

theorem length_dropWhile_le (p : α → Bool) (xs : List α) :
    (xs.dropWhile p).length ≤ xs.length :=
  (List.dropWhile_sublist p).length_le

theorem length_afterArrow {cs rest : List Char} (h : afterArrow? cs = some rest) :
    rest.length < cs.length := by
  cases cs with
  | nil => simp [afterArrow?] at h
  | cons c cs =>
    simp only [afterArrow?] at h
    split at h
    · have bound := length_dropWhile_le (· == c) cs
      split at h
      · next shaft =>
        rw [shaft] at bound
        cases h
        simp only [List.length_cons] at bound ⊢
        omega
      · contradiction
    · contradiction

/-- A symbol takes at least one character. -/
theorem length_symbol {cs rest : List Char} {k : Connective} (h : symbol? cs = some (k, rest)) :
    rest.length < cs.length := by
  cases cs with
  | nil => simp [symbol?] at h
  | cons c cs =>
    simp only [symbol?] at h
    split at h
    · next sign _ =>
      cases h
      have bound := length_dropWhile_le k.signs.contains cs
      split <;> simp only [List.length_cons] <;> omega
    · split at h
      · simp only [Option.map_eq_some_iff, Prod.mk.injEq] at h
        obtain ⟨after, found, _, rfl⟩ := h
        have := length_afterArrow found
        simp only [List.length_cons]
        omega
      · simp only [Option.map_eq_some_iff, Prod.mk.injEq] at h
        obtain ⟨after, found, _, rfl⟩ := h
        exact length_afterArrow found

/-- A keyword between blanks, so that it cannot touch a name. -/
def spaced (k : Connective) : List Char := ' ' :: k.keyword.toList ++ [' ']

/-- Every spelling of a connective becomes its keyword. The text is read once from left to right:
a word is taken whole and compared with the words of the connectives, any other character begins a
symbol or stands for itself. -/
def respell : List Char → List Char
  | [] => []
  | c :: cs =>
    if isWordCharacter c then
      let word := c :: cs.takeWhile isWordCharacter
      (match Connective.ofWord? word with
        | some k => spaced k
        | none => word) ++ respell (cs.dropWhile isWordCharacter)
    else
      match _found : symbol? (c :: cs) with
      | some (k, rest) => spaced k ++ respell rest
      | none => c :: respell cs
termination_by text => text.length
decreasing_by
  · have := length_dropWhile_le isWordCharacter cs
    simp only [List.length_cons]
    omega
  · exact length_symbol _found
  · simp

end Statement
end Sentential
