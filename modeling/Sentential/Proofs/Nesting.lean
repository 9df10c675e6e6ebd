import Sentential.Proofs.Balance

/-! What the bracket reader makes of a text. The items of a balanced text are its words, none of which
could be longer, and its groups, each in its place. The nesting of any other text breaks down at one
place: behind the first parenthesis that closes nothing, or else at the end. -/
namespace Sentential.Statement

open Text

/-- A text holds items: words as long as they can be and groups in parentheses, with any blanks before,
between and behind them. -/
inductive Holds : List Char → List Item → Prop where
  | nil : Holds [] []
  | blank : isBlank c → Holds text items → Holds (c :: text) items
  | word {word : List Char} : word ≠ [] → (∀ c ∈ word, isPlain c) → Bounded text →
      Holds text items → Holds (word ++ text) (.token (String.ofList word) :: items)
  | group {inner : List Char} : Holds inner within → Holds text items →
      Holds ('(' :: inner ++ ')' :: text) (.group within :: items)

/-- The byte at which the nesting of a text breaks down. -/
inductive BreaksAt (text : List Char) : Nat → Prop where
  /-- A parenthesis closes nothing, the first that does. What matters is where the text goes on behind
  it, blanks aside. -/
  | unopened {before gap rest : List Char} : text = before ++ ')' :: (gap ++ rest) →
      Balanced before → (∀ c ∈ gap, isBlank c) → (∀ c ∈ rest.head?, isBlank c = false) →
      BreaksAt text (byteLength (before ++ ')' :: gap))
  /-- Each parenthesis that closes has something to close, but some that open are left over. -/
  | unclosed : (∀ before, before <+: text → before.count ')' ≤ before.count '(') →
      text.count ')' < text.count '(' → BreaksAt text (byteLength text)

/-- What comes before the first place of an element comes before all its places. -/
theorem exists_of_append_eq {front xs ls ls' : List α} {x : α} (fresh : x ∉ front)
    (same : front ++ xs = ls ++ x :: ls') : ∃ between, ls = front ++ between ∧ xs = between ++ x :: ls' := by
  rcases List.append_eq_append_iff.mp same with ⟨between,rfl,later⟩ | ⟨more,rfl,later⟩
  · exact ⟨between,rfl,later⟩
  · cases more with
    | nil => exact ⟨[],by simp,by simpa using later.symm⟩
    | cons y more =>
      obtain ⟨rfl,-⟩ := List.cons_eq_cons.mp later
      simp at fresh

theorem closing_notMem_finish (word : List Char) : Lexeme.closing ∉ Lexeme.finish word := by
  cases word <;> simp [Lexeme.finish]

theorem closing_notMem_mark {c : Char} (apart : c ≠ ')') : Lexeme.closing ∉ Lexeme.mark c := by
  rw [Lexeme.mark]
  split
  · simp
  · simp

theorem bounded_closing (text : List Char) : Bounded (')' :: text) := by
  simp [Bounded,isPlain_closing]

/-- A text can be cut wherever its lexemes have a closing parenthesis. -/
theorem exists_of_lexemes_closing {word text : List Char} {ls ls' : List Lexeme}
    (spelled : lexemes word text = ls ++ .closing :: ls') :
    ∃ inner rest, text = inner ++ ')' :: rest ∧ lexemes word inner = ls ∧ lexemes [] rest = ls' := by
  induction text generalizing word ls with
  | nil =>
    rw [lexemes] at spelled
    exact absurd (spelled ▸ by simp) (closing_notMem_finish word)
  | cons c cs ih =>
    by_cases plain : isPlain c
    · rw [lexemes,if_pos plain] at spelled
      obtain ⟨inner,rest,rfl,ofInner,ofRest⟩ := ih spelled
      exact ⟨c :: inner,rest,rfl,by rw [lexemes,if_pos plain,ofInner],ofRest⟩
    by_cases closes : c = ')'
    · subst closes
      rw [lexemes_closing] at spelled
      obtain ⟨between,rfl,later⟩ := exists_of_append_eq (closing_notMem_finish word) spelled
      cases between with
      | nil => exact ⟨[],cs,rfl,by simp [lexemes],(List.cons_eq_cons.mp later).2⟩
      | cons l between =>
        obtain ⟨rfl,behind⟩ := List.cons_eq_cons.mp later
        obtain ⟨inner,rest,rfl,ofInner,ofRest⟩ := ih behind
        exact ⟨')' :: inner,rest,rfl,by rw [lexemes_closing,ofInner],ofRest⟩
    · rw [lexemes,if_neg plain,← List.append_assoc] at spelled
      have fresh : Lexeme.closing ∉ Lexeme.finish word ++ Lexeme.mark c := by
        simp [closing_notMem_finish,closing_notMem_mark closes]
      obtain ⟨between,rfl,later⟩ := exists_of_append_eq fresh spelled
      obtain ⟨inner,rest,rfl,ofInner,ofRest⟩ := ih later
      refine ⟨c :: inner,rest,rfl,?_,ofRest⟩
      rw [lexemes,if_neg plain,ofInner,List.append_assoc]

theorem Holds.lexemes_eq {text : List Char} {items : List Item} (holds : Holds text items) :
    lexemes [] text = Item.lexemesEach items := by
  induction holds with
  | nil => rfl
  | blank blank _ ih => rw [lexemes_blank blank,ih]; rfl
  | word some plain bounded _ ih =>
    rw [lexemes_append bounded,lexemes_word plain some,ih]
    simp
  | group _ _ ihInner ih =>
    rw [List.cons_append,lexemes_opening,lexemes_append (bounded_closing _),lexemes_closing,ihInner,ih]
    simp [Lexeme.finish]

namespace Item

variable {items : List Item} {word : List Char} {ls : List Lexeme}

theorem lexemesEach_eq_nil (none : lexemesEach items = []) : items = [] := by
  cases items with
  | nil => rfl
  | cons item items => cases item <;> simp at none

theorem lexemesEach_eq_word (spelled : lexemesEach items = .word word :: ls) :
    ∃ others, items = .token (String.ofList word) :: others ∧ lexemesEach others = ls := by
  cases items with
  | nil => cases spelled
  | cons item others =>
    cases item with
    | group => cases spelled
    | token text =>
      obtain ⟨first,later⟩ := List.cons_eq_cons.mp spelled
      obtain rfl := Lexeme.word.inj first
      exact ⟨others,by rw [String.ofList_toList],later⟩

theorem lexemesEach_eq_opening (spelled : lexemesEach items = .opening :: ls) :
    ∃ within others, items = .group within :: others ∧
      ls = lexemesEach within ++ .closing :: lexemesEach others := by
  cases items with
  | nil => cases spelled
  | cons item others =>
    cases item with
    | token => cases spelled
    | group within =>
      refine ⟨within,others,rfl,?_⟩
      simpa using (List.cons_eq_cons.mp spelled).2.symm

theorem lexemesEach_ne_closing : lexemesEach items ≠ .closing :: ls := by
  cases items with
  | nil => nofun
  | cons item others => cases item <;> simp

end Item

/-- A text begins with a word, as long as it can be, if with any part of one. -/
theorem run_cases (text : List Char) : text = [] ∨
    (∃ c rest, isPlain c = false ∧ text = c :: rest) ∨
    ∃ word rest, word ≠ [] ∧ (∀ c ∈ word, isPlain c) ∧ Bounded rest ∧ text = word ++ rest := by
  induction text using runs_ind with
  | nil => exact .inl rfl
  | apart c rest apart _ => exact .inr (.inl ⟨c,rest,apart,rfl⟩)
  | run word rest some plain bounded _ => exact .inr (.inr ⟨word,rest,some,plain,bounded,rfl⟩)

/-- A text whose lexemes are those of items holds the items. -/
theorem holds_of_lexemes_eq {text : List Char} {items : List Item}
    (spelled : lexemes [] text = Item.lexemesEach items) : Holds text items := by
  -- A group is cut out of the middle of the text, so shorter texts of any form are needed.
  induction length : text.length using Nat.strongRecOn generalizing text items with
  | ind _ ih =>
    subst length
    have shorter {rest : List Char} {items : List Item} (fewer : rest.length < text.length)
        (spelled : lexemes [] rest = Item.lexemesEach items) : Holds rest items :=
      ih rest.length fewer spelled rfl
    rcases run_cases text with rfl | ⟨c,rest,apart,rfl⟩ | ⟨word,rest,some,plain,bounded,rfl⟩
    · rw [Item.lexemesEach_eq_nil spelled.symm]
      exact .nil
    · by_cases blank : isBlank c
      · rw [lexemes_blank blank] at spelled
        exact .blank blank (shorter (by simp) spelled)
      rcases eq_parenthesis_of_apart apart blank with rfl | rfl
      · rw [lexemes_opening] at spelled
        obtain ⟨within,others,rfl,later⟩ := Item.lexemesEach_eq_opening spelled.symm
        obtain ⟨inner,rest,rfl,ofInner,ofRest⟩ := exists_of_lexemes_closing later
        refine .group (shorter ?_ ofInner) (shorter ?_ ofRest)
        · simp only [List.length_cons,List.length_append]
          omega
        · simp only [List.length_cons,List.length_append]
          omega
      · rw [lexemes_closing] at spelled
        exact absurd spelled.symm Item.lexemesEach_ne_closing
    · rw [lexemes_append bounded,lexemes_word plain some] at spelled
      obtain ⟨others,rfl,later⟩ := Item.lexemesEach_eq_word spelled.symm
      refine .word some plain bounded (shorter ?_ later.symm)
      have := List.length_pos_of_ne_nil some
      rw [List.length_append]
      omega

theorem holds_iff {text : List Char} {items : List Item} :
    Holds text items ↔ lexemes [] text = Item.lexemesEach items :=
  ⟨Holds.lexemes_eq,holds_of_lexemes_eq⟩

section

variable {outer : List (List Item)} {items : List Item} {word text before rest : List Char}

/-- A parenthesis after a text that closes what is open closes nothing. -/
theorem read_unopened (closes : Closes outer.length before) :
    Item.read outer items word (before ++ ')' :: rest) = .error (.unopened rest) := by
  induction before generalizing outer items word with
  | nil =>
    obtain rfl := List.length_eq_zero_iff.mp (closes_nil.mp closes)
    rfl
  | cons c cs ih =>
    simp only [List.cons_append,Item.read]
    split
    · next opens =>
      subst opens
      exact ih (closes_opening.mp closes)
    split
    · next unopen ends =>
      subst ends
      cases outer with
      | nil => exact absurd closes not_closes_closing
      | cons around outer => exact ih (closes_closing.mp closes)
    · next unopen unclose =>
      rw [closes_other (isParenthesis_eq_false unopen unclose)] at closes
      split
      · exact ih closes
      · exact ih closes

theorem exists_of_read_unopened
    (broken : Item.read outer items word text = .error (.unopened rest)) :
    ∃ before, text = before ++ ')' :: rest ∧ Closes outer.length before := by
  fun_induction Item.read outer items word text with
  | case1 | case2 => cases broken
  | case3 outer items word cs ih =>
    obtain ⟨before,rfl,closes⟩ := ih broken
    exact ⟨'(' :: before,rfl,closes_opening.mpr closes⟩
  | case4 =>
    cases broken
    exact ⟨[],rfl,closes_nil.mpr rfl⟩
  | case5 items word cs _ around outer ih =>
    obtain ⟨before,rfl,closes⟩ := ih broken
    exact ⟨')' :: before,rfl,closes_closing.mpr closes⟩
  | case6 outer items word c cs opens closes _ ih | case7 outer items word c cs opens closes _ ih =>
    obtain ⟨before,rfl,same⟩ := ih broken
    exact ⟨c :: before,rfl,(closes_other (isParenthesis_eq_false opens closes)).mpr same⟩

theorem closes_replicate (depth : Nat) : Closes depth (List.replicate depth ')') := by
  induction depth with
  | zero => exact closes_nil.mpr rfl
  | succ depth ih => exact closes_closing.mpr ih

/-- A text that leaves groups open lacks that many closing parentheses. -/
theorem exists_of_read_unclosed (broken : Item.read outer items word text = .error .unclosed) :
    ∃ count, Closes outer.length (text ++ List.replicate (count + 1) ')') := by
  fun_induction Item.read outer items word text with
  | case1 => cases broken
  | case2 items word around outer => exact ⟨outer.length,closes_replicate _⟩
  | case3 outer items word cs ih =>
    obtain ⟨count,closes⟩ := ih broken
    exact ⟨count,closes_opening.mpr closes⟩
  | case4 => cases broken
  | case5 items word cs _ around outer ih =>
    obtain ⟨count,closes⟩ := ih broken
    exact ⟨count,closes_closing.mpr closes⟩
  | case6 outer items word c cs opens closes _ ih | case7 outer items word c cs opens closes _ ih =>
    obtain ⟨count,same⟩ := ih broken
    exact ⟨count,(closes_other (isParenthesis_eq_false opens closes)).mpr same⟩

end

theorem byteLength_append (text rest : List Char) :
    byteLength (text ++ rest) = byteLength text + byteLength rest := by
  induction text with
  | nil => simp [byteLength]
  | cons c text ih => rw [List.cons_append,byteLength,ih,byteLength,Nat.add_assoc]

theorem byteLength_eq_utf8ByteSize (text : List Char) :
    byteLength text = (String.ofList text).utf8ByteSize := by
  induction text with
  | nil => rfl
  | cons c text ih =>
    rw [byteLength,ih,String.ofList_cons,String.utf8ByteSize_append,String.utf8ByteSize_singleton]

/-- Every place where the nesting can break down lies within the text, between two characters. -/
theorem BreaksAt.isValid {text : List Char} {position : Nat} (breaks : BreaksAt text position) :
    String.Pos.Raw.IsValid (String.ofList text) ⟨position⟩ := by
  have between {before rest : List Char} (parts : text = before ++ rest) :
      String.Pos.Raw.IsValid (String.ofList text) ⟨byteLength before⟩ := by
    rw [parts,byteLength_eq_utf8ByteSize,String.ofList_append]
    exact String.Pos.Raw.isValid_iff_exists_append.mpr ⟨_,_,rfl,rfl⟩
  cases breaks with
  | unopened parts => exact between (by rw [parts,List.append_assoc,List.cons_append])
  | unclosed => exact between (List.append_nil text).symm

theorem position_unopened (before : List Char) {gap rest : List Char} (blank : ∀ c ∈ gap, isBlank c)
    (stop : ∀ c ∈ rest.head?, isBlank c = false) :
    (Imbalance.unopened (gap ++ rest)).position (before ++ ')' :: (gap ++ rest)) =
      byteLength (before ++ ')' :: gap) := by
  have trimmed : trimStart (gap ++ rest) = rest := (takeWhile_of_ends blank stop).2
  have parts : before ++ ')' :: (gap ++ rest) = (before ++ ')' :: gap) ++ rest := by simp
  rw [Imbalance.position,trimmed,parts,byteLength_append,Nat.add_sub_cancel]

/-- A balanced text has a place neither for a parenthesis that closes nothing nor for one that is left
over. -/
theorem BreaksAt.not_balanced {text : List Char} {position : Nat} (breaks : BreaksAt text position) :
    ¬Balanced text := by
  intro whole
  cases breaks with
  | unopened parts balanced =>
    subst parts
    have behind := whole.within (_ ++ [')']) ⟨_,List.append_assoc ..⟩
    have := balanced.total
    simp only [List.count_append,List.count_singleton_self] at behind
    simp at behind
    omega
  | unclosed _ more => exact absurd whole.total (by omega)

/-- The nesting of a text breaks down where reading its items does. -/
theorem breaksAt_iff {text : List Char} {position : Nat} : BreaksAt text position ↔
    ∃ fault, Item.read [] [] [] text = .error fault ∧ fault.position text = position := by
  constructor
  · intro breaks
    have unread : ¬∃ items, Item.read [] [] [] text = .ok items := fun read =>
      breaks.not_balanced (balanced_iff_closes.mpr (exists_read_iff.mp read))
    cases breaks with
    | unopened parts balanced blank stop =>
      subst parts
      exact ⟨_,read_unopened (balanced_iff_closes.mp balanced),position_unopened _ blank stop⟩
    | unclosed within more =>
      cases read : Item.read [] [] [] text with
      | ok items => exact absurd ⟨items,read⟩ unread
      | error fault =>
        cases fault with
        | unclosed => exact ⟨_,rfl,rfl⟩
        | unopened rest =>
          obtain ⟨before,rfl,closes⟩ := exists_of_read_unopened read
          have first := within (before ++ [')']) ⟨rest,List.append_assoc ..⟩
          have total := closes.total
          simp at first total
          omega
  · rintro ⟨fault,broken,rfl⟩
    cases fault with
    | unclosed =>
      obtain ⟨count,closes⟩ := exists_of_read_unclosed broken
      have total := closes.total
      simp [List.count_replicate] at total
      refine .unclosed (fun before first => ?_) (by omega)
      simpa using closes.within before (first.trans (List.prefix_append ..))
    | unopened rest =>
      obtain ⟨before,rfl,closes⟩ := exists_of_read_unopened broken
      have blank : ∀ c ∈ rest.takeWhile isBlank, isBlank c :=
        List.all_eq_true.mp List.all_takeWhile
      have stop : ∀ c ∈ (trimStart rest).head?, isBlank c = false := by
        intro c first
        have stops := List.head?_dropWhile_not isBlank rest
        rw [← trimStart,Option.mem_def.mp first] at stops
        simpa using stops
      have parts : rest = rest.takeWhile isBlank ++ trimStart rest :=
        List.takeWhile_append_dropWhile.symm
      have place := position_unopened before blank stop
      rw [← parts] at place
      rw [place]
      exact .unopened (by rw [← parts]) (balanced_iff_closes.mpr closes) blank stop

theorem bracketed_eq_error_iff {text : String} {error : Error} : bracketed text = .error error ↔
    ∃ position, error = .unmatched text (some position) ∧ BreaksAt text.toList position := by
  simp only [breaksAt_iff,bracketed]
  cases Item.read [] [] [] text.toList with
  | ok items => simp
  | error fault => simp [eq_comm]

end Sentential.Statement
