import Sentential.Text.Identifier

/-! Literals of inline formulas. Of most only the end matters; a string literal also has a value,
which becomes the name of a variable.

Each function reads from the head of a text and answers with what follows, or with nothing if the
text does not begin that way. -/
namespace Sentential.Inline

open Text

def startsWord (c : Char) : Bool := c == '_' || startsIdentifier c

def continuesWord (c : Char) : Bool := continuesIdentifier c

/-- A plain identifier. -/
def word? : List Char → Option (List Char × List Char)
  | [] => none
  | c :: cs =>
    if startsWord c then some (c :: cs.takeWhile continuesWord, cs.dropWhile continuesWord)
    else none

/-- What follows a suffix, which any literal may have. -/
def afterSuffix (text : List Char) : List Char :=
  match word? text with
  | some (_, rest) => rest
  | none => text

def hexDigit? (c : Char) : Option Nat :=
  if c.isDigit then some (c.toNat - '0'.toNat)
  else if 'a' ≤ c ∧ c ≤ 'f' then some (10 + c.toNat - 'a'.toNat)
  else if 'A' ≤ c ∧ c ≤ 'F' then some (10 + c.toNat - 'A'.toNat)
  else none

/-- The three kinds of quoted literal: characters, bytes, and characters that end at a null. -/
inductive Alphabet where
  | characters
  | bytes
  | nonNull
  deriving DecidableEq, Repr

/-- The characters that a quoted literal may hold as they are. -/
def Alphabet.allows : Alphabet → Char → Bool
  | .characters, _ => true
  | .bytes, c => c.toNat < 0x80
  | .nonNull, c => c.toNat ≠ 0

/-- The values that an escape of two hexadecimal digits may have. -/
def Alphabet.allowsCode : Alphabet → Nat → Bool
  | .characters, code => code < 0x80
  | .bytes, _ => true
  | .nonNull, code => code ≠ 0

/-- Up to six hexadecimal digits, with underscores after the first, and a closing brace. -/
def codePoint? (value digits : Nat) : List Char → Option (Nat × List Char)
  | [] => none
  | c :: cs =>
    if c = '\x7d' then if 0 < digits then some (value, cs) else none
    else if c = '_' then if 0 < digits then codePoint? value digits cs else none
    else
      match hexDigit? c with
      | some digit => if digits < 6 then codePoint? (value * 16 + digit) (digits + 1) cs else none
      | none => none

/-- The character that an escape stands for, after its backslash. -/
def escape? (alphabet : Alphabet) : List Char → Option (Char × List Char)
  | 'n' :: cs => some ('\n', cs)
  | 'r' :: cs => some ('\r', cs)
  | 't' :: cs => some ('\t', cs)
  | '\\' :: cs => some ('\\', cs)
  | '\'' :: cs => some ('\'', cs)
  | '"' :: cs => some ('"', cs)
  | '0' :: cs => if alphabet = .nonNull then none else some ('\x00', cs)
  | 'x' :: high :: low :: cs =>
    match hexDigit? high, hexDigit? low with
    | some high, some low =>
      let code := 16 * high + low
      if alphabet.allowsCode code then some (Char.ofNat code, cs) else none
    | _, _ => none
  | 'u' :: '\x7b' :: cs =>
    if alphabet = .bytes then none
    else
      match codePoint? 0 0 cs with
      | some (code, rest) =>
        if code.isValidChar ∧ (alphabet = .nonNull → code ≠ 0) then some (Char.ofNat code, rest)
        else none
      | none => none
  | _ => none

theorem length_codePoint {value digits code : Nat} {cs rest : List Char}
    (h : codePoint? value digits cs = some (code, rest)) : rest.length < cs.length := by
  induction cs generalizing value digits with
  | nil => simp [codePoint?] at h
  | cons c cs ih =>
    simp only [codePoint?] at h
    have grow : ∀ {v d}, codePoint? v d cs = some (code, rest) →
        rest.length < (c :: cs).length := fun found => by
      have := ih found
      simp only [List.length_cons]
      omega
    split at h
    · split at h <;> simp_all
    · split at h
      · split at h
        · exact grow h
        · contradiction
      · split at h
        · split at h
          · exact grow h
          · contradiction
        · contradiction

theorem length_escape {alphabet : Alphabet} {c : Char} {cs rest : List Char}
    (h : escape? alphabet cs = some (c, rest)) : rest.length < cs.length := by
  unfold escape? at h
  split at h
  case h_9 =>
    split at h
    · contradiction
    · split at h
      · next found =>
        split at h
        · cases h
          have := length_codePoint found
          simp only [List.length_cons]
          omega
        · contradiction
      · contradiction
  case h_8 =>
    split at h
    · dsimp only at h
      split at h
      · cases h
        simp only [List.length_cons]
        omega
      · contradiction
    · contradiction
  case h_7 =>
    split at h
    · contradiction
    · cases h
      simp
  case h_10 => contradiction
  all_goals
    cases h
    simp

/-- What follows the blanks after a backslash at the end of a line. A carriage return there must
end a line together with a line feed. -/
def continuation? : List Char → Option (List Char)
  | [] => none
  | '\r' :: '\n' :: cs => continuation? cs
  | c :: cs =>
    if c = '\r' then none
    else if c = ' ' ∨ c = '\t' ∨ c = '\n' then continuation? cs
    else some (c :: cs)

theorem length_continuation {cs rest : List Char} (h : continuation? cs = some rest) :
    rest.length ≤ cs.length := by
  fun_induction continuation? cs with
  | case1 => contradiction
  | case2 cs ih =>
    have := ih h
    simp only [List.length_cons]
    omega
  | case3 => contradiction
  | case4 c cs _ _ _ ih =>
    have := ih h
    simp only [List.length_cons]
    omega
  | case5 => cases h; simp

/-- The value of a quoted literal after its opening quote, and what follows its closing one. A line
ends in the value with a line feed alone. -/
def quoted? (alphabet : Alphabet) : List Char → Option (List Char × List Char)
  | [] => none
  | c :: cs =>
    if c = '"' then some ([], cs)
    else if c = '\r' then
      match cs with
      | '\n' :: cs => (quoted? alphabet cs).map fun (value, rest) => ('\n' :: value, rest)
      | _ => none
    else if c = '\\' then
      if cs.head? = some '\n' ∨ cs.head? = some '\r' then
        match _rest : continuation? cs with
        | some rest => quoted? alphabet rest
        | none => none
      else
        match _escape : escape? alphabet cs with
        | some (escaped, rest) =>
          (quoted? alphabet rest).map fun (value, rest) => (escaped :: value, rest)
        | none => none
    else if alphabet.allows c then
      (quoted? alphabet cs).map fun (value, rest) => (c :: value, rest)
    else none
termination_by text => text.length
decreasing_by
  · simp only [List.length_cons]
    omega
  · have := length_continuation _rest
    simp only [List.length_cons]
    omega
  · have := length_escape _escape
    simp only [List.length_cons]
    omega
  · simp

/-- The value of a raw literal after its opening quote. The quote that ends it is followed by as
many hash signs as went before it. -/
def rawQuoted? (alphabet : Alphabet) (hashes : Nat) : List Char → Option (List Char × List Char)
  | [] => none
  | '\r' :: '\n' :: cs =>
    (rawQuoted? alphabet hashes cs).map fun (value, rest) => ('\r' :: '\n' :: value, rest)
  | c :: cs =>
    if c = '"' ∧ (List.replicate hashes '#').isPrefixOf cs then some ([], cs.drop hashes)
    else if c ≠ '\r' ∧ alphabet.allows c then
      (rawQuoted? alphabet hashes cs).map fun (value, rest) => (c :: value, rest)
    else none

/-- The most hash signs that a raw literal may have on either side. -/
def maxHashes : Nat := 255

/-- A raw literal after the letters that announce it. -/
def raw? (alphabet : Alphabet) (text : List Char) : Option (List Char × List Char) :=
  let hashes := (text.takeWhile (· == '#')).length
  match text.dropWhile (· == '#') with
  | '"' :: rest => if hashes ≤ maxHashes then rawQuoted? alphabet hashes rest else none
  | _ => none

/-- A string literal, plain or raw. -/
def string? : List Char → Option (List Char × List Char)
  | '"' :: cs => quoted? .characters cs
  | 'r' :: cs => raw? .characters cs
  | _ => none

/-- What follows a literal of bytes or of characters other than a string. -/
def afterQuoted? : List Char → Option (List Char)
  | 'b' :: '"' :: cs => (quoted? .bytes cs).map (·.2)
  | 'b' :: 'r' :: cs => (raw? .bytes cs).map (·.2)
  | 'c' :: '"' :: cs => (quoted? .nonNull cs).map (·.2)
  | 'c' :: 'r' :: cs => (raw? .nonNull cs).map (·.2)
  | _ => none

/-- What follows the closing quote of a character. -/
def afterQuote? : List Char → Option (List Char)
  | '\'' :: cs => some cs
  | _ => none

/-- What follows one character or escape and a closing quote. -/
def afterCharacter? (alphabet : Alphabet) : List Char → Option (List Char)
  | [] => none
  | '\\' :: cs => (escape? alphabet cs).bind fun (_, rest) => afterQuote? rest
  | c :: cs => if alphabet.allows c then afterQuote? cs else none

/-- What follows a literal of one byte or one character. -/
def afterQuotedCharacter? : List Char → Option (List Char)
  | 'b' :: '\'' :: cs => afterCharacter? .bytes cs
  | '\'' :: cs => afterCharacter? .characters cs
  | _ => none

def isDigitOrGap (c : Char) : Bool := c.isDigit || c == '_'

def isExponentMark (c : Char) : Bool := c == 'e' || c == 'E'

/-- What follows an exponent after its mark: one sign at most, then digits, with underscores
anywhere. -/
def afterExponent? (signed valued : Bool) : List Char → Option (List Char)
  | [] => if valued then some [] else none
  | c :: cs =>
    if c.isDigit then afterExponent? signed true cs
    else if c = '_' then afterExponent? signed valued cs
    else if valued then some (c :: cs)
    else if (c = '+' ∨ c = '-') ∧ !signed then afterExponent? true false cs
    else none

/-- What follows a number with a point or an exponent. After a point an exponent that is not one
belongs to the suffix. -/
def afterFloat? : List Char → Option (List Char)
  | [] => none
  | c :: cs =>
    if c.isDigit then
      match cs.dropWhile isDigitOrGap with
      | '.' :: after =>
        if after.head?.any fun c => c == '.' || startsWord c then none
        else
          match after.dropWhile isDigitOrGap with
          | [] => some []
          | mark :: rest =>
            if isExponentMark mark then
              some ((afterExponent? false false rest).getD (mark :: rest))
            else some (mark :: rest)
      | mark :: rest => if isExponentMark mark then afterExponent? false false rest else none
      | [] => none
    else none

/-- What follows digits of a base, at least one. A decimal digit out of the base spoils the number,
a letter out of it begins the suffix. A decimal number does not begin with an underscore. -/
def afterDigits? (base : Nat) (some? : Bool) : List Char → Option (List Char)
  | [] => if some? then some [] else none
  | c :: cs =>
    if c = '_' then if !some? && base == 10 then none else afterDigits? base some? cs
    else
      match hexDigit? c with
      | some digit =>
        if digit < base then afterDigits? base true cs
        else if c.isDigit then none
        else if some? then some (c :: cs)
        else none
      | none => if some? then some (c :: cs) else none

/-- What follows the digits of a whole number. -/
def afterInteger? : List Char → Option (List Char)
  | '0' :: 'x' :: cs => afterDigits? 16 false cs
  | '0' :: 'o' :: cs => afterDigits? 8 false cs
  | '0' :: 'b' :: cs => afterDigits? 2 false cs
  | cs => afterDigits? 10 false cs

/-- What follows a number and its suffix, where a word may not go on. -/
def afterNumber? (text : List Char) : Option (List Char) :=
  let whole := fun (rest : List Char) =>
    let rest := afterSuffix rest
    if rest.head?.any continuesWord then none else some rest
  ((afterFloat? text).bind whole).or ((afterInteger? text).bind whole)

end Sentential.Inline
