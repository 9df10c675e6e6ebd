import Mathlib.Data.Bool.AllAny
import Sentential.Inline.Lexer
import Sentential.Proofs.Characters

/-! How an inline text is cut into tokens where blanks stand around everything. A name before a blank
is taken whole and is no literal, whatever letters it begins with; a mark is joint if another one
stands right behind it; a parenthesis opens or closes a group. -/
namespace Sentential.Inline

open Text

/-- A text that goes on with a blank, or not at all. -/
def Pauses (text : List Char) : Prop := ∀ c ∈ text.head?, isBlank c

/-- A text that has no quote and no hash sign where its first word ends, and no digit in front. These
make literals out of the words before them. -/
def Unquoted (text : List Char) : Prop :=
  (∀ c ∈ (text.dropWhile Name.isPart).head?, c ∉ ['"','\'','#']) ∧
    ∀ c ∈ text.head?, c.isDigit = false

theorem Unquoted.ne {text rest : List Char} {c : Char} (unquoted : Unquoted text)
    (word : List Char) (parts : word.all Name.isPart) (quote : c ∈ ['"','\'','#']) :
    text ≠ word ++ c :: rest := by
  rintro rfl
  have special : ∀ c ∈ ['"','\'','#'], Name.isPart c = false :=
    List.all_iff_forall_prop.mp (by decide)
  have first := unquoted.1
  have noPart : ¬Name.isPart c := by simp [special c quote]
  rw [List.dropWhile_append_of_pos (List.all_eq_true.mp parts),
    List.dropWhile_cons_of_neg noPart] at first
  exact first c rfl quote

theorem raw_eq_none {alphabet : Alphabet} {text : List Char} (word : List Char)
    (parts : word.all Name.isPart) (unquoted : Unquoted (word ++ text)) :
    raw? alphabet text = none := by
  cases text with
  | nil => rfl
  | cons c cs =>
    have hash : c ≠ '#' := by
      rintro rfl
      exact unquoted.ne word parts (by simp) rfl
    have quote : c ≠ '"' := by
      rintro rfl
      exact unquoted.ne word parts (by simp) rfl
    simp [raw?,hash,quote]

theorem string_eq_none {text : List Char} (unquoted : Unquoted text) : string? text = none := by
  unfold string?
  split
  · exact absurd rfl (unquoted.ne [] rfl (by simp))
  · exact raw_eq_none ['r'] (by decide) unquoted
  · rfl

theorem afterQuoted_eq_none {text : List Char} (unquoted : Unquoted text) :
    afterQuoted? text = none := by
  unfold afterQuoted?
  split
  · exact absurd rfl (unquoted.ne ['b'] (by decide) (by simp))
  · rw [raw_eq_none ['b','r'] (by decide) unquoted]
    rfl
  · exact absurd rfl (unquoted.ne ['c'] (by decide) (by simp))
  · rw [raw_eq_none ['c','r'] (by decide) unquoted]
    rfl
  · rfl

theorem afterQuotedCharacter_eq_none {text : List Char} (unquoted : Unquoted text) :
    afterQuotedCharacter? text = none := by
  unfold afterQuotedCharacter?
  split
  · exact absurd rfl (unquoted.ne ['b'] (by decide) (by simp))
  · exact absurd rfl (unquoted.ne [] rfl (by simp))
  · rfl

theorem hexDigit_ge {c : Char} {digit : Nat} (found : hexDigit? c = some digit)
    (letter : c.isDigit = false) : 10 ≤ digit := by
  have value : c.val.toNat = c.toNat := rfl
  have a : 'a'.toNat = 97 := rfl
  have A : 'A'.toNat = 65 := rfl
  simp only [hexDigit?,letter,Bool.false_eq_true,if_false] at found
  split at found
  · next lower =>
    have bound : 97 ≤ c.val.toNat := UInt32.le_iff_toNat_le.mp lower.1
    cases found
    omega
  · split at found
    · next upper =>
      have bound : 65 ≤ c.val.toNat := UInt32.le_iff_toNat_le.mp upper.1
      cases found
      omega
    · cases found

/-- A whole number begins with a digit. -/
theorem afterInteger_eq_none {text : List Char} (letter : ∀ c ∈ text.head?, c.isDigit = false) :
    afterInteger? text = none := by
  have zero : '0'.isDigit = true := rfl
  unfold afterInteger?
  split
  · simp [zero] at letter
  · simp [zero] at letter
  · simp [zero] at letter
  · cases text with
    | nil => rfl
    | cons c cs =>
      have letter : c.isDigit = false := letter c rfl
      rw [afterDigits?]
      split
      · rfl
      · split
        · next digit found =>
          have := hexDigit_ge found letter
          simp [letter,show ¬digit < 10 by omega]
        · rfl

/-- Words without quotes and hash signs are no literals. -/
theorem afterLiteral_eq_none {text : List Char} (unquoted : Unquoted text) :
    afterLiteral? text = none := by
  have noFloat : afterFloat? text = none := by
    cases text with
    | nil => rfl
    | cons c cs => simp [afterFloat?,unquoted.2 c rfl]
  simp [afterLiteral?,afterQuoted_eq_none unquoted,afterQuotedCharacter_eq_none unquoted,
    afterNumber?,noFloat,afterInteger_eq_none unquoted.2]

theorem literalBeginnings_eq_false {text : List Char} (unquoted : Unquoted text) :
    (literalBeginnings.any fun beginning => beginning.toList.isPrefixOf text) = false := by
  have quoted : ∀ beginning ∈ literalBeginnings,
      (beginning.toList.dropWhile Name.isPart).head?.any (['"','\'','#'].contains ·) :=
    List.all_eq_true.mp (by decide)
  rw [List.any_eq_false]
  intro beginning member starts
  obtain ⟨quote,first,special⟩ := (Option.any_eq_true _ _).mp (quoted beginning member)
  obtain ⟨rest,ends⟩ := List.head?_eq_some_iff.mp first
  obtain ⟨more,same⟩ := List.isPrefixOf_iff_prefix.mp starts
  rw [← List.takeWhile_append_dropWhile (p := Name.isPart) (l := beginning.toList),ends,
    List.append_assoc] at same
  exact unquoted.ne _ List.all_takeWhile (List.contains_iff_mem.mp special) same.symm

def brackets : List Char := ['(',')','[',']','\x7b','\x7d']

/-- The marks of operators, alone or in arrows. -/
def operatorMarks : List Char := ['!','~','&','*','|','+','^','-','<','>']

theorem markCharacter_of_mem {c : Char} (mark : c ∈ operatorMarks) (rest : List Char) :
    markCharacter? (c :: rest) = some (c,rest) := by
  have all : ∀ c ∈ operatorMarks, c ≠ '/' ∧ markCharacters.contains c :=
    List.all_iff_forall_prop.mp (by decide)
  obtain ⟨other,listed⟩ := all c mark
  simp [markCharacter?,Ne.symm other,List.contains_iff_mem.mp listed]

theorem markCharacter_eq_none {c : Char} (other : markCharacters.contains c = false)
    (rest : List Char) : markCharacter? (c :: rest) = none := by
  rw [markCharacter?]
  split
  · rfl
  · simp only [other,Bool.false_eq_true,if_false]

theorem markCharacter_of_pauses {rest : List Char} (pauses : Pauses rest) :
    markCharacter? rest = none := by
  have unblank : ∀ c ∈ markCharacters, isBlank c = false :=
    List.all_iff_forall_prop.mp (by decide)
  cases rest with
  | nil => rfl
  | cons c rest =>
    apply markCharacter_eq_none
    rw [← Bool.not_eq_true]
    intro mark
    have blank := pauses c rfl
    rw [unblank c (List.contains_iff_mem.mp mark)] at blank
    cases blank

theorem opener_eq_none {c : Char} (other : c ≠ '/') (rest : List Char) :
    opener? (c :: rest) = none := by
  unfold opener?
  split <;> simp_all

theorem documentation_eq_none {c : Char} (other : c ≠ '/') (rest : List Char) :
    documentation? (c :: rest) = none := by
  simp only [documentation?,opener_eq_none other]

theorem bracket_eq_none {c : Char} (other : c ∉ ['(',')','[',']','\x7b','\x7d'])
    (rest : List Char) : bracket? (c :: rest) = none := by
  simp only [List.mem_cons,List.not_mem_nil,or_false,not_or] at other
  have opens : Delimiter.ofOpening? c = none := by
    unfold Delimiter.ofOpening?
    split <;> simp_all
  have closes : Delimiter.ofClosing? c = none := by
    unfold Delimiter.ofClosing?
    split <;> simp_all
  simp [bracket?,opens,closes]

theorem unquoted_of_mark {c : Char} (mark : c ∈ operatorMarks) (rest : List Char) :
    Unquoted (c :: rest) := by
  have all : ∀ c ∈ operatorMarks, Name.isPart c = false ∧ c ∉ ['"','\'','#'] ∧
      c.isDigit = false := List.all_iff_forall_prop.mp (by decide)
  obtain ⟨apart,unquoted,letter⟩ := all c mark
  refine ⟨?_,?_⟩
  · rw [List.dropWhile_cons_of_neg (by simp [apart])]
    rintro _ ⟨⟩
    exact unquoted
  · rintro _ ⟨⟩
    exact letter

/-- The mark of an operator is a token. -/
theorem lexeme_mark {c : Char} (mark : c ∈ operatorMarks) (rest : List Char) :
    lexeme? (c :: rest) = some (.tokens [.mark c (markCharacter? rest).isSome],rest) := by
  have all : ∀ c ∈ operatorMarks, c ≠ '/' ∧ c ≠ '\'' ∧ c ∉ brackets :=
    List.all_iff_forall_prop.mp (by decide)
  obtain ⟨slash,quote,noBracket⟩ := all c mark
  have unquoted := unquoted_of_mark mark rest
  have read : leaf? (c :: rest) = some (.mark c (markCharacter? rest).isSome,rest) := by
    simp [leaf?,string_eq_none unquoted,afterLiteral_eq_none unquoted,mark?,
      markCharacter_of_mem mark,quote]
  simp [lexeme?,documentation_eq_none slash,bracket_eq_none noBracket,read]

theorem continuesWord_of_isBlank {c : Char} (blank : isBlank c) : continuesWord c = false := by
  have noWord : isWordCharacter c = false := by
    rw [← Bool.not_eq_true]
    intro word
    rw [isBlank_of_isWordCharacter word] at blank
    cases blank
  have apart : blanks.areApart identifierNotWord ∧ blanks.areApart newerThanWords := by
    decide +kernel
  simp [continuesWord,continuesIdentifier,noWord,CodePoints.contains_of_apart apart.1 blank,
    CodePoints.contains_of_apart apart.2 blank]

theorem continuesWord_of_isPart {c : Char} (part : Name.isPart c) : continuesWord c := by
  have ascii : CodePoints.contains [(48,122)] c := by
    simp [CodePoints.contains,toNat_of_isPart part]
  have apart : CodePoints.areApart [(48,122)] wordNotIdentifier := by decide +kernel
  simp [continuesWord,continuesIdentifier,isWordCharacter_of_isPart part,
    CodePoints.contains_of_apart apart ascii]

theorem startsWord_of_isStart {c : Char} (start : Name.isStart c) : startsWord c := by
  rcases Bool.or_eq_true_iff.mp start with letter | underscore
  · have := toNat_of_isAlphanum (Bool.or_eq_true_iff.mpr (.inl letter))
    have ascii : c.toNat < 0x80 := by omega
    simp [startsWord,startsIdentifier,ascii,letter]
  · simp [startsWord,underscore]

theorem isDigit_of_isStart {c : Char} (start : Name.isStart c) : c.isDigit = false := by
  have value : c.val.toNat = c.toNat := rfl
  rw [← Bool.not_eq_true]
  intro digit
  have bounds : (48 ≤ c.val && c.val ≤ 57) = true := digit
  simp [UInt32.le_iff_toNat_le,value] at bounds
  rcases Bool.or_eq_true_iff.mp start with letter | underscore
  · have ranges : (decide (65 ≤ c.val ∧ c.val ≤ 90) || (97 ≤ c.val && c.val ≤ 122)) = true := letter
    simp [UInt32.le_iff_toNat_le,value] at ranges
    omega
  · obtain rfl := beq_iff_eq.mp underscore
    exact absurd bounds (by decide)

theorem isPart_of_isBlank {c : Char} (blank : isBlank c) : Name.isPart c = false := by
  rw [← Bool.not_eq_true]
  intro part
  rw [isBlank_of_isWordCharacter (isWordCharacter_of_isPart part)] at blank
  cases blank

section

variable {first : Char} {letters rest : List Char} (start : Name.isStart first)
  (parts : ∀ c ∈ letters, Name.isPart c) (pauses : Pauses rest)

include start parts pauses

theorem unquoted_of_name : Unquoted (first :: letters ++ rest) := by
  have name : ∀ c ∈ first :: letters, Name.isPart c :=
    List.forall_mem_cons.mpr ⟨isPart_of_isStart start,parts⟩
  have quotes : ∀ c ∈ ['"','\'','#'], isBlank c = false :=
    List.all_iff_forall_prop.mp (by decide)
  refine ⟨?_,?_⟩
  · rw [(takeWhile_of_ends name fun c next => isPart_of_isBlank (pauses c next)).2]
    intro c next quote
    have blank := pauses c next
    rw [quotes c quote] at blank
    cases blank
  · rintro _ ⟨⟩
    exact isDigit_of_isStart start

theorem identifier_name : identifier? (first :: letters ++ rest) = some (first :: letters,rest) := by
  have unquoted := unquoted_of_name start parts pauses
  have whole : word? (first :: letters ++ rest) = some (first :: letters,rest) := by
    obtain ⟨taken,left⟩ := takeWhile_of_ends
      (fun c member => continuesWord_of_isPart (parts c member))
      (fun c next => continuesWord_of_isBlank (pauses c next))
    simp [word?,startsWord_of_isStart start,taken,left]
  unfold identifier?
  split
  · next same => exact absurd same (unquoted.ne ['r'] (by decide) (by simp))
  · exact whole

/-- A name is one token, an identifier. -/
theorem lexeme_name : lexeme? (first :: letters ++ rest) =
    some (.tokens [.identifier (String.ofList (first :: letters))],rest) := by
  have unquoted := unquoted_of_name start parts pauses
  have special : ∀ c ∈ '/' :: (brackets ++ markCharacters), Name.isPart c = false :=
    List.all_iff_forall_prop.mp (by decide)
  have other : first ∉ '/' :: (brackets ++ markCharacters) := by
    intro listed
    have part := isPart_of_isStart start
    rw [special first listed] at part
    cases part
  rw [List.mem_cons,List.mem_append,not_or,not_or] at other
  obtain ⟨slash,noBracket,noMark⟩ := other
  have noMark : mark? (first :: letters ++ rest) = none := by
    rw [mark?,List.cons_append,markCharacter_eq_none (by simpa using noMark)]
  have read : leaf? (first :: letters ++ rest) =
      some (.identifier (String.ofList (first :: letters)),rest) := by
    rw [leaf?,string_eq_none unquoted,afterLiteral_eq_none unquoted,noMark,
      literalBeginnings_eq_false unquoted,identifier_name start parts pauses]
    rfl
  rw [lexeme?,read,List.cons_append,documentation_eq_none slash,bracket_eq_none noBracket]
  rfl

end

/-- A parenthesis before a blank opens a group. It begins no placeholder. -/
theorem lexeme_opening {rest : List Char} (pauses : Pauses rest) :
    lexeme? ('(' :: rest) = some (.opening .parenthesis,rest) := by
  have unblank : isBlank '/' = false := by decide
  have noPlaceholder : placeholder.isPrefixOf ('(' :: rest) = false := by
    rw [← Bool.not_eq_true]
    intro starts
    obtain ⟨more,same⟩ := List.isPrefixOf_iff_prefix.mp starts
    have second : rest.head? = some '/' := by
      rw [← List.cons.inj same |>.2]
      rfl
    have blank := pauses '/' second
    rw [unblank] at blank
    cases blank
  rw [lexeme?,documentation_eq_none (by decide),bracket?,noPlaceholder]
  rfl

theorem lexeme_closing (rest : List Char) :
    lexeme? (')' :: rest) = some (.closing .parenthesis,rest) := by
  have noPlaceholder : placeholder.isPrefixOf (')' :: rest) = false := rfl
  rw [lexeme?,documentation_eq_none (by decide),bracket?,noPlaceholder]
  rfl

theorem length_skipBlanks (text : List Char) : (skipBlanks text).length ≤ text.length := by
  fun_induction skipBlanks text with
  | case1 => exact Nat.le_refl _
  | case2 c cs _ ih => exact Nat.le_succ_of_le ih
  | case3 c cs _ rest _ shorter ih => exact Nat.le_trans ih (Nat.le_of_lt shorter)
  | case4 => exact Nat.le_refl _
  | case5 => exact Nat.le_refl _

theorem skipBlanks_blank {c : Char} (blank : isBlank c) (cs : List Char) :
    skipBlanks (c :: cs) = skipBlanks cs := by
  rw [skipBlanks,if_pos (by simp [isSpace,blank])]

/-- Tokens begin with what is neither a blank nor the beginning of a comment. -/
theorem skipBlanks_token {c : Char} (token : isSpace c = false) (slash : c ≠ '/')
    (cs : List Char) : skipBlanks (c :: cs) = c :: cs := by
  rw [skipBlanks]
  simp [token,afterComment?,opener_eq_none slash]

theorem isSpace_of_isPart {c : Char} (part : Name.isPart c) : isSpace c = false := by
  have := toNat_of_isPart part
  have unblank := isBlank_of_isWordCharacter (isWordCharacter_of_isPart part)
  simp [isSpace,unblank]
  omega

/-- What reading does with one lexeme, and that it goes on after the blanks that follow. -/
theorem readTokens_lexeme {outer : List (Delimiter × List Token)} {tokens : List Token}
    {text after : List Char} {lexeme : Lexeme} :
    lexeme? text = some (lexeme,after) → after.length < text.length →
    readTokens outer tokens text =
      match lexeme with
      | .opening delimiter => readTokens ((delimiter,tokens) :: outer) [] (skipBlanks after)
      | .closing delimiter =>
        match outer with
        | [] => none
        | (opened,around) :: outer =>
          if opened = delimiter then
            readTokens outer (.group delimiter tokens.reverse :: around) (skipBlanks after)
          else none
      | .tokens found => readTokens outer (found.reverse ++ tokens) (skipBlanks after) := by
  intro read shorter
  have bound := Nat.lt_of_le_of_lt (length_skipBlanks after) shorter
  cases text with
  | nil => cases shorter
  | cons c cs =>
    rw [readTokens,read]
    cases lexeme <;> exact dif_pos bound

/-- The tokens of marks that stand together. All but the last are joint. -/
def marks : List Char → List Token
  | [] => []
  | c :: cs => .mark c (!cs.isEmpty) :: marks cs

/-- Marks that stand together before a blank are read one by one. -/
theorem readTokens_marks {outer : List (Delimiter × List Token)} {tokens : List Token}
    {signs rest : List Char} (operators : ∀ c ∈ signs, c ∈ operatorMarks) (pauses : Pauses rest) :
    readTokens outer tokens (skipBlanks (signs ++ rest)) =
      readTokens outer ((marks signs).reverse ++ tokens) (skipBlanks rest) := by
  have all : ∀ c ∈ operatorMarks, isSpace c = false ∧ c ≠ '/' :=
    List.all_iff_forall_prop.mp (by decide)
  induction signs generalizing tokens with
  | nil => rfl
  | cons c signs ih =>
    obtain ⟨mark,operators⟩ := List.forall_mem_cons.mp operators
    obtain ⟨token,slash⟩ := all c mark
    have joint : (markCharacter? (signs ++ rest)).isSome = !signs.isEmpty := by
      cases signs with
      | nil => rw [List.nil_append,markCharacter_of_pauses pauses]; rfl
      | cons d signs => rw [List.cons_append,markCharacter_of_mem (operators d (by simp))]; rfl
    rw [List.cons_append,skipBlanks_token token slash,
      readTokens_lexeme (lexeme_mark mark _) (Nat.lt_succ_self _)]
    show readTokens outer (_ :: tokens) _ = _
    rw [ih operators,joint,marks]
    simp

end Sentential.Inline
