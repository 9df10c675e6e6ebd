import Sentential.Statement.Error
import Sentential.Text.Blank
import Sentential.Text.Measure

/-! The bracket structure of a statement: words, and groups of items in parentheses. Nothing is
said here about connectives or names. -/
namespace Sentential.Statement

open Text

inductive Item where
  | token (text : String)
  | group (items : List Item)
  deriving Repr

mutual

/-- A token stands bare, a group in parentheses. -/
def Item.chars : Item → List Char
  | .token text => text.toList
  | .group items => '(' :: ([' '].intercalate (Item.charsEach items)) ++ [')']

def Item.charsEach : List Item → List (List Char)
  | [] => []
  | item :: items => item.chars :: Item.charsEach items

end

def Item.render (item : Item) : String := String.ofList item.chars

/-- Items as they read in a statement, with single spaces between them. -/
def Item.renderAll (items : List Item) : String :=
  String.ofList ([' '].intercalate (Item.charsEach items))

/-- How parentheses fail to pair up. -/
inductive Imbalance where
  /-- A parenthesis closes nothing; `rest` follows it. -/
  | unopened (rest : List Char)
  /-- The text ends within a group. -/
  | unclosed
  deriving DecidableEq, Repr

/-- The items read so far, last first, with the word that was being read. -/
def Item.finish (word : List Char) (items : List Item) : List Item :=
  match word with
  | [] => items
  | _ => .token (String.ofList word.reverse) :: items

/-- Reads items up to the end of the text. `outer` holds the unfinished groups around the current
one, the innermost first, `items` the current one and `word` the current word, all last first. -/
def Item.read (outer : List (List Item)) (items : List Item) (word : List Char) :
    List Char → Except Imbalance (List Item)
  | [] =>
    match outer with
    | [] => .ok (Item.finish word items).reverse
    | _ :: _ => .error .unclosed
  | c :: cs =>
    if c = '(' then Item.read (Item.finish word items :: outer) [] [] cs
    else if c = ')' then
      match outer with
      | [] => .error (.unopened cs)
      | around :: outer =>
        Item.read outer (.group (Item.finish word items).reverse :: around) [] cs
    else if isBlank c then Item.read outer (Item.finish word items) [] cs
    else Item.read outer items (c :: word) cs

/-- Where nesting breaks down: at the first thing after a parenthesis that closes nothing, or at
the end of the text. -/
def Imbalance.position (text : List Char) : Imbalance → Nat
  | .unopened rest => byteLength text - byteLength (trimStart rest)
  | .unclosed => byteLength text

/-- The items of a text, at their nesting. -/
def bracketed (text : String) : Except Error (List Item) :=
  match Item.read [] [] [] text.toList with
  | .ok items => .ok items
  | .error fault => .error (.unmatched text (some (fault.position text.toList)))

end Sentential.Statement
