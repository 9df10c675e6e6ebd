import Sentential.Proofs.Nesting

/-! Items read by a parser that reads one group. The text is put into parentheses for it, so a
parenthesis that closes nothing ends the group too early, and one that is never closed leaves the group
unfinished. How the parser works is left open. It reads lexemes from left to right, passes over blanks,
stops at the first lexeme with which no group goes on and tells the byte where it stopped, counted in
the text with parentheses around it. Then nothing of these parentheses is left in what is answered. -/
namespace Sentential.Statement

open Text

/-- A lexeme with the bytes at which it starts and ends. -/
structure Placed where
  lexeme : Lexeme
  start : Nat
  stop : Nat
  deriving DecidableEq, Repr

def Placed.finish (start : Nat) : List Char → List Placed
  | [] => []
  | c :: letters => [⟨.word (c :: letters).reverse,start,start + byteLength (c :: letters)⟩]

/-- The lexemes of a text in their places, after an unfinished word that starts at a byte and whose
characters come last first. -/
def placed (start : Nat) (word : List Char) : List Char → List Placed
  | [] => Placed.finish start word
  | c :: cs =>
    if isPlain c then placed start (c :: word) cs
    else
      let place := start + byteLength word
      Placed.finish start word ++ ((Lexeme.mark c).map (⟨·,place,place + c.utf8Size⟩) ++
        placed (place + c.utf8Size) [] cs)

/-- Why a parser failed, with the place where it did. -/
inductive ParseFault where
  /-- No lexeme begins here. -/
  | invalid (location : Nat)
  /-- The text ended here, behind its last lexeme. -/
  | unrecognizedEnd (location : Nat)
  /-- Nothing goes on with the lexeme that starts here. -/
  | unrecognized (start : Nat)
  /-- All was read before the lexeme that starts here. -/
  | extra (start : Nat)
  | user
  deriving DecidableEq, Repr

def ParseFault.location? : ParseFault → Option Nat
  | .invalid location => some location
  | .unrecognizedEnd location => some location
  | .unrecognized start => some start
  | .extra start => some start
  | .user => none

/-- Some group goes on from these lexemes. -/
def Viable (ls : List Lexeme) : Prop := ∃ items rest, ls ++ rest = (Item.group items).lexemes

/-- Where the last of some lexemes ends, or the one before them if there are none. -/
def endOf (last : Nat) (tokens : List Placed) : Nat := tokens.foldl (fun _ token => token.stop) last

/-- What a parser of one group answers to lexemes. -/
inductive Answers : List Placed → Except ParseFault (List Item) → Prop where
  | whole (items : List Item) : tokens.map Placed.lexeme = (Item.group items).lexemes →
      Answers tokens (.ok items)
  | unexpected {before : List Placed} : Viable (before.map Placed.lexeme) →
      ¬Viable ((before ++ [token]).map Placed.lexeme) →
      fault = .unrecognized token.start ∨ fault = .extra token.start →
      Answers (before ++ token :: after) (.error fault)
  | ended : Viable (tokens.map Placed.lexeme) →
      (∀ items, tokens.map Placed.lexeme ≠ (Item.group items).lexemes) →
      Answers tokens (.error (.unrecognizedEnd (endOf 0 tokens)))

/-- What is relied on of a parser. -/
def GroupParser (parse : List Char → Except ParseFault (List Item)) : Prop :=
  ∀ text, Answers (placed 0 [] text) (parse text)

/-- The items of a text, read by a parser with the text in parentheses. Places count in the text as it
is, and none is beyond its end. -/
def bracketedBy (parse : List Char → Except ParseFault (List Item)) (text : String) :
    Except Error (List Item) :=
  (parse ('(' :: text.toList ++ [')'])).mapError fun fault =>
    .unmatched text (fault.location?.map fun location => min (location - 1) (byteLength text.toList))

/-- How far a group was read. Groups around the current one and items come last first. -/
inductive Progress where
  | fresh
  | within (outer : List (List Item)) (items : List Item)
  | closed (items : List Item)

namespace Progress

/-- How far a group is read with one more lexeme, if any group goes on with it. -/
def next? : Progress → Lexeme → Option Progress
  | .fresh, .opening => some (.within [] [])
  | .within outer items, .opening => some (.within (items :: outer) [])
  | .within outer items, .word text => some (.within outer (.token (String.ofList text) :: items))
  | .within [] items, .closing => some (.closed items.reverse)
  | .within (around :: outer) items, .closing =>
    some (.within outer (.group items.reverse :: around))
  | _, _ => none

/-- Reads on, where the lexeme before ended at `last`. -/
def parse (progress : Progress) (last : Nat) : List Placed → Except ParseFault (List Item)
  | [] =>
    match progress with
    | .closed items => .ok items
    | _ => .error (.unrecognizedEnd last)
  | token :: tokens =>
    match progress.next? token.lexeme with
    | some progress => progress.parse token.stop tokens
    | none => .error (.unrecognized token.start)

/-- The lexemes that were read. -/
def lexemes : Progress → List Lexeme
  | .fresh => []
  | .within outer items => .opening :: lexemesRead outer items
  | .closed items => (Item.group items).lexemes

variable {progress next : Progress} {l : Lexeme} {ls : List Lexeme} {items result : List Item}
  {outer : List (List Item)}

theorem next_lexemes (step : progress.next? l = some next) :
    next.lexemes = progress.lexemes ++ [l] := by
  revert step
  fun_cases next? progress l with
  | case1 => rintro ⟨⟩; rfl
  | case2 => rintro ⟨⟩; simp [lexemes,lexemesRead]
  | case3 => rintro ⟨⟩; simp [lexemes,lexemesRead_cons]
  | case4 => rintro ⟨⟩; simp [lexemes,lexemesRead]
  | case5 => rintro ⟨⟩; simp [lexemes,lexemesRead_cons,lexemesRead]
  | case6 => rintro ⟨⟩

/-- A group that was begun can be closed. -/
theorem viable (progress : Progress) : Viable progress.lexemes := by
  cases progress with
  | fresh => exact ⟨[],_,List.nil_append _⟩
  | closed items => exact ⟨items,[],List.append_nil _⟩
  | within outer items =>
    induction outer generalizing items with
    | nil =>
      refine ⟨items.reverse,[.closing],?_⟩
      have step : (within [] items).next? .closing = some (.closed items.reverse) := rfl
      exact (next_lexemes step).symm
    | cons around outer ih =>
      obtain ⟨result,rest,whole⟩ := ih (.group items.reverse :: around)
      refine ⟨result,.closing :: rest,?_⟩
      have step : (within (around :: outer) items).next? .closing =
          some (.within outer (.group items.reverse :: around)) := rfl
      rwa [next_lexemes step,List.append_assoc] at whole

/-- How far a group is read with more lexemes. -/
def reach? (progress : Progress) (ls : List Lexeme) : Option Progress := ls.foldlM next? progress

theorem reach_lexemes (reached : progress.reach? ls = some next) :
    next.lexemes = progress.lexemes ++ ls := by
  induction ls generalizing progress with
  | nil =>
    cases reached
    exact (List.append_nil _).symm
  | cons l ls ih =>
    obtain ⟨after,step,reached⟩ := Option.bind_eq_some_iff.mp reached
    rw [ih reached,next_lexemes step,List.append_assoc,List.singleton_append]

theorem next_closed (items : List Item) (l : Lexeme) : (closed items).next? l = none := by
  cases l <;> rfl

theorem reach_of_closed (l : Lexeme) (ls : List Lexeme) : (closed items).reach? (l :: ls) = none := by
  rw [reach?,List.foldlM_cons,next_closed]
  rfl

/-- A group ends with the parenthesis behind its items and not before. -/
theorem reach_closed : (within outer items).reach? (ls ++ [.closing]) = some (.closed result) ↔
    readLexemes outer items ls = some result := by
  induction ls generalizing outer items with
  | nil => cases outer <;> simp [reach?,next?,readLexemes]
  | cons l ls ih =>
    cases l with
    | opening => exact ih
    | word text => exact ih
    | closing =>
      cases outer with
      | cons around outer => exact ih
      | nil =>
        refine iff_of_false ?_ (by simp [readLexemes])
        show (closed items.reverse).reach? (ls ++ [.closing]) ≠ _
        cases ls with
        | nil => simp [reach_of_closed]
        | cons l ls => simp [reach_of_closed]

theorem reach_group (items : List Item) :
    fresh.reach? (Item.group items).lexemes = some (.closed items) :=
  reach_closed.mpr (readLexemes_eq_some_iff.mpr rfl)

theorem reach_append (progress : Progress) (ls ls' : List Lexeme) :
    progress.reach? (ls ++ ls') = (progress.reach? ls).bind (·.reach? ls') :=
  List.foldlM_append

/-- With lexemes that can be read from the beginning some group goes on, and with no others. -/
theorem viable_iff : Viable ls ↔ ∃ progress, fresh.reach? ls = some progress := by
  constructor
  · rintro ⟨items,rest,whole⟩
    have reached := reach_group items
    rw [← whole,reach_append] at reached
    obtain ⟨progress,reached,-⟩ := Option.bind_eq_some_iff.mp reached
    exact ⟨progress,reached⟩
  · rintro ⟨progress,reached⟩
    have viable := progress.viable
    rwa [reach_lexemes reached] at viable

/-- What was read is a whole group only if the group was closed. -/
theorem closed_of_lexemes (reached : fresh.reach? ls = some progress)
    (whole : ls = (Item.group items).lexemes) : progress = .closed items := by
  rw [whole,reach_group] at reached
  exact (Option.some.inj reached).symm

theorem reach_concat {before : List Placed} (token : Placed)
    (reached : progress.reach? (before.map Placed.lexeme) = some next) :
    progress.reach? ((before ++ [token]).map Placed.lexeme) = next.next? token.lexeme := by
  rw [List.map_append,reach_append,reached]
  exact Option.bind_fun_some _

theorem parse_append {before : List Placed} (last : Nat) (after : List Placed)
    (reached : progress.reach? (before.map Placed.lexeme) = some next) :
    progress.parse last (before ++ after) = next.parse (endOf last before) after := by
  induction before generalizing progress last with
  | nil =>
    cases reached
    rfl
  | cons token before ih =>
    obtain ⟨middle,step,reached⟩ := Option.bind_eq_some_iff.mp reached
    rw [List.cons_append,parse,step]
    exact ih token.stop reached

theorem parse_ended (open_ : ∀ items, progress ≠ .closed items) (last : Nat) :
    progress.parse last [] = .error (.unrecognizedEnd last) := by
  cases progress with
  | closed items => exact absurd rfl (open_ items)
  | _ => rfl

/-- This parser answers as it should. -/
theorem answers {before : List Placed} (reached : fresh.reach? (before.map Placed.lexeme) = some progress)
    (tokens : List Placed) : Answers (before ++ tokens) (progress.parse (endOf 0 before) tokens) := by
  induction tokens generalizing progress before with
  | nil =>
    rw [List.append_nil]
    by_cases done : ∃ items, progress = .closed items
    · obtain ⟨items,rfl⟩ := done
      exact .whole items (reach_lexemes reached).symm
    · rw [parse_ended (not_exists.mp done)]
      refine .ended (viable_iff.mpr ⟨_,reached⟩) fun items whole => ?_
      exact done ⟨items,closed_of_lexemes reached whole⟩
  | cons token tokens ih =>
    have further := reach_concat token reached
    rw [parse]
    cases step : progress.next? token.lexeme with
    | some next =>
      have rest := ih (further.trans step)
      simpa [endOf] using rest
    | none =>
      refine .unexpected (viable_iff.mpr ⟨_,reached⟩) ?_ (.inl rfl)
      rw [viable_iff,further,step]
      nofun

end Progress

/-- A parser that goes from lexeme to lexeme. -/
def parseGroup (text : List Char) : Except ParseFault (List Item) :=
  Progress.fresh.parse 0 (placed 0 [] text)

theorem groupParser_parseGroup : GroupParser parseGroup := by
  intro text
  have nothing : Progress.fresh.reach? (([] : List Placed).map Placed.lexeme) = some .fresh := rfl
  exact Progress.answers nothing (placed 0 [] text)

/-- Any two parsers fail at the same place, if at all. -/
theorem Answers.location_eq {tokens : List Placed} {answer : Except ParseFault (List Item)}
    (answers : Answers tokens answer) :
    answer.mapError ParseFault.location? =
      (Progress.fresh.parse 0 tokens).mapError ParseFault.location? := by
  cases answers with
  | whole items spelled =>
    have reached := Progress.reach_group items
    rw [← spelled] at reached
    have read := Progress.parse_append 0 [] reached
    rw [List.append_nil] at read
    rw [read]
    rfl
  | @unexpected token fault after before viable stuck location =>
    obtain ⟨progress,reached⟩ := Progress.viable_iff.mp viable
    have stops : progress.next? token.lexeme = none := by
      rw [Progress.viable_iff,Progress.reach_concat token reached] at stuck
      exact Option.eq_none_iff_forall_ne_some.mpr (not_exists.mp stuck)
    rw [Progress.parse_append 0 _ reached,Progress.parse,stops]
    rcases location with rfl | rfl <;> rfl
  | ended viable unfinished =>
    obtain ⟨progress,reached⟩ := Progress.viable_iff.mp viable
    have unclosed (items : List Item) : progress ≠ .closed items := by
      rintro rfl
      exact unfinished items (Progress.reach_lexemes reached).symm
    have read := Progress.parse_append 0 [] reached
    rw [List.append_nil] at read
    rw [read,Progress.parse_ended unclosed]

/-- What is answered depends on the parser only through the place where it fails. -/
theorem bracketedBy_eq {parse parse' : List Char → Except ParseFault (List Item)}
    (reads : GroupParser parse) (reads' : GroupParser parse') (text : String) :
    bracketedBy parse text = bracketedBy parse' text := by
  have located (parse : List Char → Except ParseFault (List Item)) : bracketedBy parse text =
      ((parse ('(' :: text.toList ++ [')'])).mapError ParseFault.location?).mapError fun location? =>
        .unmatched text (location?.map fun location => min (location - 1) (byteLength text.toList)) := by
    rw [bracketedBy]
    cases parse ('(' :: text.toList ++ [')']) <;> rfl
  rw [located,located,(reads _).location_eq,(reads' _).location_eq]

section

variable (start : Nat) (word text : List Char)

theorem placed_opening : placed start word ('(' :: text) = Placed.finish start word ++
    ⟨.opening,start + byteLength word,start + byteLength word + '('.utf8Size⟩ ::
      placed (start + byteLength word + '('.utf8Size) [] text := by
  rw [placed,if_neg (by simp [isPlain_opening])]
  rfl

theorem placed_closing : placed start word (')' :: text) = Placed.finish start word ++
    ⟨.closing,start + byteLength word,start + byteLength word + ')'.utf8Size⟩ ::
      placed (start + byteLength word + ')'.utf8Size) [] text := by
  rw [placed,if_neg (by simp [isPlain_closing])]
  rfl

theorem placed_blank {c : Char} (blank : isBlank c) : placed start word (c :: text) =
    Placed.finish start word ++ placed (start + byteLength word + c.utf8Size) [] text := by
  obtain ⟨open_,close⟩ := ne_parenthesis_of_blank blank
  have unmarked : Lexeme.mark c = [] := by simp [Lexeme.mark,open_,close]
  rw [placed,if_neg (by simp [isPlain_of_blank blank]),unmarked]
  rfl

theorem placed_plain {c : Char} (plain : isPlain c) :
    placed start word (c :: text) = placed start (c :: word) text := by
  rw [placed,if_pos plain]

end

/-- A word starts where its first character stands. -/
theorem exists_placed_word (start : Nat) {word : List Char} (some : word ≠ []) (text : List Char) :
    ∃ token tokens, placed start word text = token :: tokens ∧ token.start = start := by
  induction text generalizing word with
  | nil =>
    obtain ⟨c,letters,rfl⟩ := List.exists_cons_of_ne_nil some
    exact ⟨_,[],rfl,rfl⟩
  | cons c cs ih =>
    rw [placed]
    split
    · exact ih (List.cons_ne_nil c word)
    · obtain ⟨d,letters,rfl⟩ := List.exists_cons_of_ne_nil some
      exact ⟨_,_,rfl,rfl⟩

/-- The first lexeme of a text with a closing parenthesis behind it starts after the blanks. -/
theorem exists_placed_rest (start : Nat) (text : List Char) : ∃ token tokens,
    placed start [] (text ++ [')']) = token :: tokens ∧
      token.start = start + byteLength text - byteLength (trimStart text) := by
  induction text generalizing start with
  | nil => exact ⟨_,[],rfl,rfl⟩
  | cons c cs ih =>
    by_cases blank : isBlank c
    · obtain ⟨token,tokens,first,place⟩ := ih (start + c.utf8Size)
      refine ⟨token,tokens,?_,?_⟩
      · rw [List.cons_append,placed_blank _ _ _ blank]
        exact first
      · rw [place,trimStart,trimStart,List.dropWhile_cons_of_pos blank,byteLength,Nat.add_assoc]
    have kept : trimStart (c :: cs) = c :: cs := List.dropWhile_cons_of_neg blank
    rw [kept,Nat.add_sub_cancel,List.cons_append,placed]
    split
    · exact exists_placed_word start (List.cons_ne_nil _ _) _
    · next apart =>
      rcases eq_parenthesis_of_apart (by simpa using apart) blank with rfl | rfl
      · exact ⟨_,_,rfl,rfl⟩
      · exact ⟨_,_,rfl,rfl⟩

/-- What a parser says of a text with parentheses around it that ends at `stop`, a closing one aside. -/
def Imbalance.fault (stop : Nat) : Imbalance → ParseFault
  | .unopened rest => .unrecognized (stop - byteLength (trimStart rest))
  | .unclosed => .unrecognizedEnd (stop + ')'.utf8Size)

namespace Progress

variable {outer : List (List Item)} {items : List Item} {word text : List Char}

/-- An unfinished word is read as an item. -/
theorem parse_finish (start last : Nat) (tokens : List Placed) :
    (within outer items).parse last (Placed.finish start word ++ tokens) =
      (within outer (Item.finish word items)).parse (endOf last (Placed.finish start word)) tokens := by
  cases word <;> rfl

/-- Reading lexemes with a closing parenthesis behind them fails where reading the text before it does. -/
theorem parse_placed (start last : Nat) :
    (within outer items).parse last (placed start word (text ++ [')'])) =
      (Item.read outer items word text).mapError
        (Imbalance.fault (start + byteLength word + byteLength text)) := by
  have further (start : Nat) (word : List Char) (c : Char) (cs : List Char) :
      start + byteLength word + byteLength (c :: cs) =
        start + byteLength word + c.utf8Size + byteLength [] + byteLength cs := by
    simp [byteLength,Nat.add_assoc]
  fun_induction Item.read outer items word text generalizing start last with
  | case1 items word =>
    rw [List.nil_append,placed_closing,parse_finish]
    rfl
  | case2 items word around outer =>
    rw [List.nil_append,placed_closing,parse_finish]
    rfl
  | case3 outer items word cs ih =>
    rw [List.cons_append,placed_opening,parse_finish,further]
    exact ih _ _
  | case4 items word cs =>
    obtain ⟨token,tokens,first,place⟩ :=
      exists_placed_rest (start + byteLength word + ')'.utf8Size) cs
    rw [List.cons_append,placed_closing,parse_finish,first]
    show (closed (Item.finish word items).reverse).parse (start + byteLength word + 1)
      (token :: tokens) = _
    rw [parse,next_closed,place,further]
    rfl
  | case5 items word cs _ around outer ih =>
    rw [List.cons_append,placed_closing,parse_finish,further]
    exact ih _ _
  | case6 outer items word c cs opens closes blank ih =>
    rw [List.cons_append,placed_blank _ _ _ blank,parse_finish,further]
    exact ih _ _
  | case7 outer items word c cs opens closes unblank ih =>
    have plain : isPlain c := by
      simp [isPlain,isParenthesis_eq_false opens closes,unblank]
    have moved : start + byteLength word + byteLength (c :: cs) =
        start + byteLength (c :: word) + byteLength cs := by
      simp only [byteLength]
      omega
    rw [List.cons_append,placed_plain _ _ _ plain,moved]
    exact ih _ _

end Progress

/-- The shift by the parenthesis in front is taken back, and the end is never passed. -/
theorem Imbalance.location_fault (text : List Char) (fault : Imbalance) :
    ((fault.fault (1 + byteLength text)).location?.map fun location =>
      min (location - 1) (byteLength text)) = some (fault.position text) := by
  cases fault with
  | unopened rest =>
    refine congrArg some ?_
    show min (1 + byteLength text - byteLength (trimStart rest) - 1) (byteLength text) =
      byteLength text - byteLength (trimStart rest)
    omega
  | unclosed =>
    refine congrArg some ?_
    show min (1 + byteLength text + 1 - 1) (byteLength text) = byteLength text
    omega

theorem bracketedBy_parseGroup (text : String) : bracketedBy parseGroup text = bracketed text := by
  have opened : parseGroup ('(' :: text.toList ++ [')']) =
      (Item.read [] [] [] text.toList).mapError (Imbalance.fault (1 + byteLength text.toList)) := by
    rw [parseGroup,List.cons_append,placed_opening]
    exact Progress.parse_placed 1 1
  rw [bracketedBy,opened,bracketed]
  cases Item.read [] [] [] text.toList with
  | ok items => rfl
  | error fault =>
    exact congrArg (Except.error ∘ Error.unmatched text) (fault.location_fault text.toList)

/-- The items of a text in the answer of any parser of single groups that reads from the left. There are
items exactly if the parentheses of the text are balanced, and then they are its words, none of which
could be longer, and its groups, each in its place. Otherwise the text is given back with the byte where
its nesting breaks down, which is a place between two characters or at an end of the text. -/
theorem bracketed_exact {parse : List Char → Except ParseFault (List Item)}
    (reads : GroupParser parse) (text : String) :
    bracketedBy parse text = bracketed text ∧
    ((∃ items, bracketed text = .ok items) ↔ Balanced text.toList) ∧
    (∀ items, bracketed text = .ok items ↔ Holds text.toList items) ∧
    (∀ error, bracketed text = .error error ↔
      ∃ position, error = .unmatched text (some position) ∧ BreaksAt text.toList position) ∧
    ∀ position, BreaksAt text.toList position →
      position ≤ text.utf8ByteSize ∧ String.Pos.Raw.IsValid text ⟨position⟩ := by
  refine ⟨?_,?_,?_,?_,?_⟩
  · rw [bracketedBy_eq reads groupParser_parseGroup,bracketedBy_parseGroup]
  · simp only [bracketed_eq_ok_iff,← read_eq_ok_iff,exists_read_iff,balanced_iff_closes]
    rfl
  · intro items
    rw [holds_iff,bracketed_eq_ok_iff]
  · exact fun error => bracketed_eq_error_iff
  · intro position breaks
    have valid := breaks.isValid
    rw [String.ofList_toList] at valid
    exact ⟨valid.le_rawEndPos,valid⟩

/-- In `é) (` the text goes on at byte 4, behind a letter of two bytes and the parenthesis that closes
nothing. -/
theorem bracketed_exact_unopened : GroupParser parseGroup ∧
    bracketedBy parseGroup "é) (" = .error (.unmatched "é) (" (some 4)) := by
  refine ⟨groupParser_parseGroup,?_⟩
  obtain ⟨same,-,-,refused,-⟩ := bracketed_exact groupParser_parseGroup "é) ("
  rw [same,refused]
  have balanced : Balanced ['é'] := by
    rw [balanced_iff_closes]
    exact (closes_other (by decide)).mpr (closes_nil.mpr rfl)
  have split : "é) (".toList = ['é'] ++ ')' :: ([' '] ++ ['(']) := rfl
  have blank : ∀ c ∈ [' '], isBlank c := List.forall_mem_singleton.mpr (by decide)
  have stop : ∀ c ∈ ['('].head?, isBlank c = false := by
    intro c first
    cases first
    decide
  have breaks : BreaksAt "é) (".toList (byteLength (['é'] ++ ')' :: [' '])) :=
    .unopened split balanced blank stop
  exact ⟨_,rfl,breaks⟩

end Sentential.Statement
