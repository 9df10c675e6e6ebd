import Sentential.Inline.Literal
import Sentential.Inline.Token
import Sentential.Text.Blank

/-! From program text to tokens. Comments count as blanks, except for documentation comments, which
are tokens. A text has no tokens at all if one thing in it is no token or if brackets do not
pair up. -/
namespace Sentential.Inline

open Text

/-- Blank characters and the two direction marks. -/
def isSpace (c : Char) : Bool := isBlank c || c.toNat == 0x200E || c.toNat == 0x200F

/-- What follows a block comment that is open at some depth. Block comments nest. -/
def afterBlock? (depth : Nat) : List Char → Option (List Char)
  | '/' :: '*' :: cs => afterBlock? (depth + 1) cs
  | '*' :: '/' :: cs => if depth ≤ 1 then some cs else afterBlock? (depth - 1) cs
  | _ :: cs => afterBlock? depth cs
  | [] => none

/-- The rest of a text from the end of the line on. -/
def lineEnd (text : List Char) : List Char := text.dropWhile (· != '\n')

/-- How a comment begins, if the text begins with one. -/
inductive Opener where
  | line
  | block
  /-- A documentation comment, `inner` if it is about what it stands in. -/
  | docLine (inner : Bool)
  | docBlock (inner : Bool)
  deriving DecidableEq, Repr

/-- The beginning of a comment and the text after it. Three slashes or two stars document what
follows, but four slashes, three stars and an empty comment do not. -/
def opener? : List Char → Option (Opener × List Char)
  | '/' :: '/' :: '!' :: cs => some (.docLine true, cs)
  | '/' :: '/' :: '/' :: '/' :: cs => some (.line, cs)
  | '/' :: '/' :: '/' :: cs => some (.docLine false, cs)
  | '/' :: '/' :: cs => some (.line, cs)
  | '/' :: '*' :: '!' :: cs => some (.docBlock true, cs)
  | '/' :: '*' :: '*' :: '/' :: cs => some (.block, '*' :: '/' :: cs)
  | '/' :: '*' :: '*' :: '*' :: cs => some (.block, '*' :: '*' :: cs)
  | '/' :: '*' :: '*' :: cs => some (.docBlock false, cs)
  | '/' :: '*' :: cs => some (.block, cs)
  | _ => none

/-- The text after a comment that counts as a blank, if it begins with one that ends. -/
def afterComment? (text : List Char) : Option (List Char) :=
  match opener? text with
  | some (.line, rest) => some (lineEnd rest)
  | some (.block, rest) => afterBlock? 1 rest
  | _ => none

/-- The text from its first token on. -/
def skipBlanks (text : List Char) : List Char :=
  match text with
  | [] => []
  | c :: cs =>
    if isSpace c then skipBlanks cs
    else
      match afterComment? (c :: cs) with
      | some rest => if _shorter : rest.length < (c :: cs).length then skipBlanks rest else c :: cs
      | none => c :: cs
termination_by text.length
decreasing_by
  · simp
  · exact _shorter

/-- Whether each carriage return is followed by a line feed. -/
def endsLines : List Char → Bool
  | [] => true
  | '\r' :: '\n' :: cs => endsLines cs
  | c :: cs => c != '\r' && endsLines cs

/-- The characters of a text before a rest of it. -/
def before (text rest : List Char) : List Char := text.take (text.length - rest.length)

/-- The tokens of a documentation comment. -/
def documentation (inner : Bool) (comment : List Char) : List Token :=
  let sign := if inner then [.mark '#' false, .mark '!' false] else [.mark '#' false]
  sign ++ [.group .bracket
    [.identifier "doc", .mark '=' false, .text (String.ofList comment)]]

/-- A documentation comment, in which a carriage return only stands at the end of a line. -/
def documentation? (text : List Char) : Option (List Token × List Char) :=
  let comment? : Option (Bool × List Char × List Char) :=
    match opener? text with
    | some (.docLine inner, rest) =>
      let after := lineEnd rest
      let line := before rest after
      let ending := if after.isEmpty then line else
        if line.getLast? = some '\r' then line.dropLast else line
      some (inner, ending, after)
    | some (.docBlock inner, rest) =>
      (afterBlock? 1 rest).map fun after =>
        let body := before rest after
        (inner, body.take (body.length - 2), after)
    | _ => none
  match comment? with
  | some (inner, comment, rest) =>
    if endsLines comment then some (documentation inner comment, rest) else none
  | none => none

/-- The characters of punctuation. -/
def markCharacters : List Char := "~!@#$%^&*-=+|;:,<.>/?'".toList

/-- A punctuation character at the head of a text, where no comment begins. -/
def markCharacter? (text : List Char) : Option (Char × List Char) :=
  if ['/', '/'].isPrefixOf text || ['/', '*'].isPrefixOf text then none
  else
    match text with
    | [] => none
    | c :: cs => if markCharacters.contains c then some (c, cs) else none

/-- Names that cannot be written raw. -/
def neverRaw : List String := ["_", "super", "self", "Self", "crate"]

/-- An identifier, or a raw one with the two characters that mark it. -/
def identifier? : List Char → Option (List Char × List Char)
  | 'r' :: '#' :: cs =>
    match word? cs with
    | some (word, rest) =>
      if neverRaw.contains (String.ofList word) then none else some ('r' :: '#' :: word, rest)
    | none => none
  | cs => word? cs

/-- The beginnings of literals, which no identifier has. -/
def literalBeginnings : List String :=
  ["r\"", "r#\"", "r##", "b\"", "b'", "br\"", "br#", "c\"", "cr\"", "cr#"]

/-- A punctuation mark. A quote is one only before the name of a label. -/
def mark? (text : List Char) : Option (Token × List Char) :=
  match markCharacter? text with
  | none => none
  | some (c, rest) =>
    if c = '\'' then
      match identifier? rest with
      | none => none
      | some (_, after) =>
        let closed := after.head? = some '\''
        let numbered := after.head? = some '#' ∧ ¬['r', '#'].isPrefixOf rest
        if closed ∨ numbered then none else some (.mark c true, rest)
    else some (.mark c (markCharacter? rest).isSome, rest)

/-- What follows a literal that is no string. -/
def afterLiteral? (text : List Char) : Option (List Char) :=
  ((afterQuoted? text).map afterSuffix).or
    (((afterQuotedCharacter? text).map afterSuffix).or (afterNumber? text))

/-- A placeholder that counts as a literal. -/
def placeholder : List Char := "(/*ERROR*/)".toList

/-- A token other than a group. Literals come before identifiers, since some begin with letters. -/
def leaf? (text : List Char) : Option (Token × List Char) :=
  match string? text with
  | some (value, rest) => some (.text (String.ofList value), afterSuffix rest)
  | none =>
    match afterLiteral? text with
    | some rest => some (.literal, rest)
    | none =>
      match mark? text with
      | some found => some found
      | none =>
        if literalBeginnings.any fun beginning => beginning.toList.isPrefixOf text then none
        else
          match identifier? text with
          | some (name, rest) => some (.identifier (String.ofList name), rest)
          | none =>
            if placeholder.isPrefixOf text then some (.literal, text.drop placeholder.length)
            else none

/-- A step of reading tokens. -/
inductive Lexeme where
  | opening (delimiter : Delimiter)
  | closing (delimiter : Delimiter)
  | tokens (tokens : List Token)
  deriving Repr

def Delimiter.ofOpening? : Char → Option Delimiter
  | '(' => some .parenthesis
  | '[' => some .bracket
  | '\x7b' => some .brace
  | _ => none

def Delimiter.ofClosing? : Char → Option Delimiter
  | ')' => some .parenthesis
  | ']' => some .bracket
  | '\x7d' => some .brace
  | _ => none

/-- A bracket at the head of a text. -/
def bracket? (text : List Char) : Option (Lexeme × List Char) :=
  match text with
  | [] => none
  | c :: cs =>
    if placeholder.isPrefixOf text then none
    else
      match Delimiter.ofOpening? c with
      | some delimiter => some (.opening delimiter, cs)
      | none => (Delimiter.ofClosing? c).map fun delimiter => (.closing delimiter, cs)

def lexeme? (text : List Char) : Option (Lexeme × List Char) :=
  match documentation? text with
  | some (tokens, rest) => some (.tokens tokens, rest)
  | none =>
    match bracket? text with
    | some found => some found
    | none => (leaf? text).map fun (token, rest) => (.tokens [token], rest)

/-- Reads tokens up to the end of a text that begins with no blank. `outer` holds the unfinished
groups around the current one, the innermost first, and `tokens` the current one, both last
first. -/
def readTokens (outer : List (Delimiter × List Token)) (tokens : List Token) (text : List Char) :
    Option (List Token) :=
  match text with
  | [] => if outer.isEmpty then some tokens.reverse else none
  | c :: cs =>
    match lexeme? (c :: cs) with
    | none => none
    | some (lexeme, after) =>
      let rest := skipBlanks after
      if _shorter : rest.length < (c :: cs).length then
        match lexeme with
        | .opening delimiter => readTokens ((delimiter, tokens) :: outer) [] rest
        | .closing delimiter =>
          match outer with
          | [] => none
          | (opened, around) :: outer =>
            if opened = delimiter then
              readTokens outer (.group delimiter tokens.reverse :: around) rest
            else none
        | .tokens found => readTokens outer (found.reverse ++ tokens) rest
      else none
termination_by text.length
decreasing_by all_goals exact _shorter

/-- The tokens of a text, past a byte order mark if it begins with one. -/
def tokens? (text : String) : Option (List Token) :=
  let chars := text.toList
  let chars := if chars.head? = some '\uFEFF' then chars.tail else chars
  readTokens [] [] (skipBlanks chars)

end Sentential.Inline
