import Sentential.Name
import Sentential.Statement.Spelling
import Sentential.Text.Blank

/-! Normal statements. Connectives are keywords, blanks are single spaces where something stands
on both sides, and no parentheses enclose just a name or a negated name. Parentheses are otherwise
kept as they are, balanced or not. -/
namespace Sentential.Statement

open Text

/-- Leaves one space for a run of blanks between two characters, and none next to the inside of a
parenthesis or at either end. `inside` says that the last character kept opens a group or that
there is none; `pending` that blanks were passed since. -/
def squeeze (inside pending : Bool) : List Char → List Char
  | [] => []
  | c :: cs =>
    if isBlank c then squeeze inside true cs
    else if pending && !inside && c != ')' then ' ' :: c :: squeeze (c == '(') false cs
    else c :: squeeze (c == '(') false cs

def tidy (text : List Char) : List Char := squeeze true false text

/-- A valid name after any number of `not`s, each followed by one space. -/
def isNegatedName : List Char → Bool
  | 'n' :: 'o' :: 't' :: ' ' :: cs => isNegatedName cs
  | cs => Name.isValid (String.ofList cs)

def isParenthesis (c : Char) : Bool := c == '(' || c == ')'

/-- A group at the head of a text that is just a negated name: what is in it and what follows. -/
def redundantGroup? : List Char → Option (List Char × List Char)
  | [] => none
  | c :: cs =>
    if c = '(' then
      let inner := cs.takeWhile (!isParenthesis ·)
      match cs.dropWhile (!isParenthesis ·) with
      | ')' :: rest => if isNegatedName inner then some (inner, rest) else none
      | _ => none
    else none

theorem length_redundantGroup {text inner rest : List Char}
    (h : redundantGroup? text = some (inner, rest)) : rest.length < text.length := by
  cases text with
  | nil => simp [redundantGroup?] at h
  | cons c cs =>
    simp only [redundantGroup?] at h
    split at h
    · have bound := length_dropWhile_le (!isParenthesis ·) cs
      split at h
      · next closed =>
        rw [closed] at bound
        split at h
        · cases h
          simp only [List.length_cons] at bound ⊢
          omega
        · contradiction
      · contradiction
    · contradiction

/-- Takes the parentheses off each group that is just a negated name. Spaces take their place. -/
def unwrap : List Char → List Char
  | [] => []
  | c :: cs =>
    match _group : redundantGroup? (c :: cs) with
    | some (inner, rest) => ' ' :: inner ++ ' ' :: unwrap rest
    | none => c :: unwrap cs
termination_by text => text.length
decreasing_by
  · exact length_redundantGroup _group
  · simp

/-- Repeats `unwrap` while it takes parentheses off, since a group may become a negated name only
when the group in it is gone. -/
def unwrapAll (text : List Char) : List Char :=
  let next := tidy (unwrap text)
  if next.count '(' < text.count '(' then unwrapAll next else text
termination_by text.count '('

def normalChars (text : List Char) : List Char := unwrapAll (tidy (respell text))

def normalize (statement : String) : String := String.ofList (normalChars statement.toList)

end Sentential.Statement
