import Sentential.Proofs.Spacing

/-! When a whole statement is refused for its parentheses, and when for holding nothing. Both are
decided on normal text, after connectives were respelled and parentheses taken off negated names, and
still both can be seen in the statement as it was written. Respelling keeps all parentheses, and what
unwrapping takes off is one of each kind around a name, so what is left pairs up exactly if all of them
did, and a text in which there is any word is never left empty. -/
namespace Sentential.Statement

open Text

/-- A text closes the groups that are open before it, and those that it opens itself. -/
structure Closes (depth : Nat) (text : List Char) : Prop where
  within : ∀ before, before <+: text → before.count ')' ≤ depth + before.count '('
  total : text.count ')' = depth + text.count '('

/-- No beginning of the text has more closing than opening parentheses, and all of it has as many. -/
structure Balanced (text : List Char) : Prop where
  within : ∀ before, before <+: text → before.count ')' ≤ before.count '('
  total : text.count '(' = text.count ')'

theorem balanced_iff_closes {text : List Char} : Balanced text ↔ Closes 0 text := by
  constructor
  · intro balanced
    exact ⟨by simpa using balanced.within,by simpa using balanced.total.symm⟩
  · intro closes
    exact ⟨by simpa using closes.within,by simpa using closes.total.symm⟩

section

variable {depth : Nat} {c : Char} {cs cs' word : List Char}

theorem closes_iff : Closes depth cs ↔ (∀ before, before <+: cs →
    before.count ')' ≤ depth + before.count '(') ∧ cs.count ')' = depth + cs.count '(' := by
  constructor
  · intro closes
    exact ⟨closes.within,closes.total⟩
  · rintro ⟨within,total⟩
    exact ⟨within,total⟩

theorem closes_nil : Closes depth [] ↔ depth = 0 := by
  constructor
  · intro closes
    simpa using closes.total.symm
  · rintro rfl
    exact ⟨by simp,rfl⟩

/-- What is asked of a text is asked of its first character and of the rest. -/
theorem closes_cons : Closes depth (c :: cs) ↔
    (∀ before, before <+: cs → (c :: before).count ')' ≤ depth + (c :: before).count '(') ∧
      (c :: cs).count ')' = depth + (c :: cs).count '(' := by
  constructor
  · intro closes
    refine ⟨fun before first => closes.within _ ?_,closes.total⟩
    exact List.cons_prefix_cons.mpr ⟨rfl,first⟩
  · rintro ⟨within,total⟩
    refine ⟨fun before first => ?_,total⟩
    rcases List.prefix_cons_iff.mp first with rfl | ⟨later,rfl,first⟩
    · simp
    · exact within later (List.cons_prefix_cons.mp first).2

theorem closes_opening : Closes depth ('(' :: cs) ↔ Closes (depth + 1) cs := by
  have moved (text : List Char) : depth + ('(' :: text).count '(' = depth + 1 + text.count '(' := by
    rw [List.count_cons_self]
    omega
  have same (text : List Char) : ('(' :: text).count ')' = text.count ')' := by simp
  rw [closes_cons]
  simp only [moved,same]
  exact closes_iff.symm

theorem not_closes_closing : ¬Closes 0 (')' :: cs) := by
  intro closes
  have first := closes.within [')'] (List.cons_prefix_cons.mpr ⟨rfl,List.nil_prefix⟩)
  simp at first

theorem closes_closing : Closes (depth + 1) (')' :: cs) ↔ Closes depth cs := by
  have same (text : List Char) : (')' :: text).count '(' = text.count '(' := by simp
  rw [closes_cons]
  simp only [same,List.count_cons_self]
  constructor
  · rintro ⟨within,total⟩
    refine ⟨fun before first => ?_,by omega⟩
    have := within before first
    omega
  · rintro ⟨within,total⟩
    refine ⟨fun before first => ?_,by omega⟩
    have := within before first
    omega

theorem closes_other (bare : isParenthesis c = false) : Closes depth (c :: cs) ↔ Closes depth cs := by
  have apart : c ≠ '(' ∧ c ≠ ')' := by simpa [isParenthesis] using bare
  have opens (text : List Char) : (c :: text).count '(' = text.count '(' :=
    List.count_cons_of_ne apart.1
  have closes (text : List Char) : (c :: text).count ')' = text.count ')' :=
    List.count_cons_of_ne apart.2
  rw [closes_cons]
  simp only [opens,closes]
  exact closes_iff.symm

theorem closes_append (bare : ∀ c ∈ word, isParenthesis c = false) :
    Closes depth (word ++ cs) ↔ Closes depth cs := by
  induction word with
  | nil => rfl
  | cons c word ih =>
    obtain ⟨first,bare⟩ := List.forall_mem_cons.mp bare
    rw [List.cons_append,closes_other first,ih bare]

/-- Texts that close the same groups do so behind the same character. -/
theorem closes_cons_congr (same : ∀ depth, Closes depth cs ↔ Closes depth cs') :
    Closes depth (c :: cs) ↔ Closes depth (c :: cs') := by
  by_cases paren : isParenthesis c
  · have either : c = '(' ∨ c = ')' := by simpa [isParenthesis] using paren
    rcases either with rfl | rfl
    · rw [closes_opening,closes_opening,same]
    · cases depth with
      | zero => exact iff_of_false not_closes_closing not_closes_closing
      | succ depth => rw [closes_closing,closes_closing,same]
  · have bare : isParenthesis c = false := by simpa using paren
    rw [closes_other bare,closes_other bare,same]

end

/-- Respelling leaves the parentheses where they are. -/
theorem closes_respell (text : List Char) (depth : Nat) :
    Closes depth (respell text) ↔ Closes depth text := by
  induction text using runs_ind generalizing depth with
  | nil => simp [respell]
  | apart c rest apart ih =>
    rw [respell_apart apart]
    exact closes_cons_congr ih
  | run word rest _ plain bounded ih =>
    have bare : ∀ c ∈ word, isParenthesis c = false :=
      fun c member => isParenthesis_of_isPlain (plain c member)
    rw [respell_append bounded,closes_append (bare_respell bare),closes_append bare,ih]

theorem isParenthesis_eq_false {c : Char} (unopen : c ≠ '(') (unclose : c ≠ ')') :
    isParenthesis c = false := by
  simp [isParenthesis,unopen,unclose]

/-- Items are read from a text exactly if it closes the groups that are under way. -/
theorem exists_read_iff {outer : List (List Item)} {items : List Item} {word text : List Char} :
    (∃ result, Item.read outer items word text = .ok result) ↔ Closes outer.length text := by
  induction text generalizing outer items word with
  | nil =>
    rw [closes_nil]
    cases outer <;> simp [Item.read]
  | cons c cs ih =>
    by_cases opens : c = '('
    · subst opens
      rw [closes_opening]
      simp only [Item.read,if_true]
      exact ih
    by_cases closes : c = ')'
    · subst closes
      cases outer with
      | nil =>
        refine iff_of_false ?_ not_closes_closing
        simp [Item.read]
      | cons around outer =>
        rw [List.length_cons,closes_closing]
        simp only [Item.read,opens,if_false,if_true]
        exact ih
    · rw [closes_other (isParenthesis_eq_false opens closes)]
      simp only [Item.read,opens,closes,if_false]
      split
      · exact ih
      · exact ih

/-- Nothing, in so many pairs of parentheses. -/
def hollow : Nat → List Item
  | 0 => []
  | depth + 1 => [.group (hollow depth)]

theorem readGroup_hollow (depth : Nat) : readGroup true (hollow depth) = .error .empty := by
  induction depth with
  | zero => rw [hollow,readGroup]; rfl
  | succ depth ih => rw [hollow,readGroup,ih]

theorem fault_malformed {fragment : String} {problem : Problem} :
    (Error.malformed fragment problem).fault ≠ .unmatched ∧
      (Error.malformed fragment problem).fault ≠ .empty := by
  simp [Error.fault]

theorem fault_readToken {text : String} {error : Error} (refused : readToken text = .error error) :
    error.fault ≠ .unmatched ∧ error.fault ≠ .empty := by
  unfold readToken at refused
  split at refused
  · cases refused
    exact fault_malformed
  · split at refused
    · cases refused
    · cases refused
      simp [Error.fault]

/-- A group is never refused for its parentheses, and as empty only at the top and if nothing is in
it. The parts of a split and the operand of a negation are not at the top. -/
theorem fault_readGroup {top : Bool} {items : List Item} {error : Error}
    (refused : readGroup top items = .error error) :
    error.fault ≠ .unmatched ∧
      (error.fault = .empty → top = true ∧ ∃ depth, items = hollow depth) := by
  have never {claim : Prop} (other : error.fault ≠ .unmatched ∧ error.fault ≠ .empty) :
      error.fault ≠ .unmatched ∧ (error.fault = .empty → claim) :=
    ⟨other.1,fun none => absurd none other.2⟩
  have within {items : List Item}
      (ih : error.fault ≠ .unmatched ∧
        (error.fault = .empty → false = true ∧ ∃ depth, items = hollow depth)) :
      error.fault ≠ .unmatched ∧ error.fault ≠ .empty :=
    ⟨ih.1,fun none => absurd (ih.2 none).1 Bool.false_ne_true⟩
  fun_induction readGroup top items with
  | case1 top =>
    cases refused
    cases top with
    | true => exact ⟨by simp [Error.fault],fun _ => ⟨rfl,0,rfl⟩⟩
    | false => exact never fault_malformed
  | case2 top text => exact never (fault_readToken refused)
  | case3 top inner ih =>
    obtain ⟨matched,empty⟩ := ih refused
    refine ⟨matched,fun none => ?_⟩
    obtain ⟨atTop,depth,rfl⟩ := empty none
    exact ⟨atTop,depth + 1,rfl⟩
  | case5 top first second rest k left right split some ihLeft ihRight =>
    rcases bind_eq_error.mp refused with ofLeft | ⟨leftTree,-,refused⟩
    · exact never (within (ihLeft ofLeft))
    · rcases bind_eq_error.mp refused with ofRight | ⟨rightTree,-,made⟩
      · exact never (within (ihRight ofRight))
      · cases made
  | case7 top first second rest unsplit negation some ih =>
    rcases bind_eq_error.mp refused with ofOperand | ⟨operand,-,made⟩
    · exact never (within (ih ofOperand))
    · cases made
  | case4 | case6 | case8 =>
    cases refused
    exact never fault_malformed

theorem verdict_eq_error {read : Except Error Tree} {fault : Fault} :
    verdict read = .error fault ↔ ∃ error, read = .error error ∧ error.fault = fault := by
  cases read <;> simp [verdict,Except.mapError]

/-- What is read off a text is refused for its parentheses exactly if they are not balanced. -/
theorem readWhole_eq_unmatched {text : List Char} :
    readWhole (lexemes [] text) = .error .unmatched ↔ ¬Balanced text := by
  have read : (∃ result, readLexemes [] [] (lexemes [] text) = some result) ↔ Balanced text := by
    rw [balanced_iff_closes]
    simp only [← read_eq_ok]
    exact @exists_read_iff [] [] [] text
  rw [← read,readWhole]
  cases found : readLexemes [] [] (lexemes [] text) with
  | none => simp
  | some items =>
    refine iff_of_false (fun refused => ?_) (by simp)
    obtain ⟨error,refused,fault⟩ := verdict_eq_error.mp refused
    exact (fault_readGroup refused).1 fault

/-- It is refused as empty exactly if there are parentheses around nothing. -/
theorem readWhole_eq_empty {ls : List Lexeme} :
    readWhole ls = .error .empty ↔
      ∃ depth, ls = List.replicate depth .opening ++ List.replicate depth .closing := by
  have spelled (depth : Nat) : Item.lexemesEach (hollow depth) =
      List.replicate depth .opening ++ List.replicate depth .closing := by
    induction depth with
    | zero => rfl
    | succ depth ih =>
      rw [hollow,Item.lexemesEach,Item.lexemes,ih,List.replicate_succ,List.replicate_succ']
      simp
  have read (depth : Nat) : ls = List.replicate depth .opening ++ List.replicate depth .closing ↔
      readLexemes [] [] ls = some (hollow depth) := by
    rw [readLexemes_eq_some_iff,spelled]
  simp only [read,readWhole]
  cases found : readLexemes [] [] ls with
  | none => simp
  | some items =>
    simp only [Option.some.injEq]
    constructor
    · intro refused
      obtain ⟨error,refused,fault⟩ := verdict_eq_error.mp refused
      exact ((fault_readGroup refused).2 fault).2
    · rintro ⟨depth,rfl⟩
      rw [readGroup_hollow]
      rfl

/-- Only parentheses and blanks stand in a text without words. -/
theorem lexemes_of_apart {text : List Char} (apart : ∀ c ∈ text, isPlain c = false) :
    lexemes [] text = text.flatMap Lexeme.mark := by
  induction text with
  | nil => rfl
  | cons c cs ih =>
    obtain ⟨first,apart⟩ := List.forall_mem_cons.mp apart
    simp [lexemes,first,Lexeme.finish,ih apart]

theorem respell_of_apart {text : List Char} (apart : ∀ c ∈ text, isPlain c = false) :
    respell text = text := by
  induction text with
  | nil => rw [respell]
  | cons c cs ih =>
    obtain ⟨first,apart⟩ := List.forall_mem_cons.mp apart
    rw [respell_apart first,ih apart]

theorem apart_of_words {word text : List Char} (none : Lexeme.words (lexemes word text) = []) :
    word = [] ∧ ∀ c ∈ text, isPlain c = false := by
  induction text generalizing word with
  | nil =>
    cases word with
    | nil => exact ⟨rfl,List.forall_mem_nil _⟩
    | cons => simp [lexemes,Lexeme.finish] at none
  | cons c cs ih =>
    rw [lexemes] at none
    split at none
    · cases (ih none).1
    · next stops =>
      rw [Lexeme.words_append,Lexeme.words_append,words_mark,List.nil_append,
        List.append_eq_nil_iff] at none
      refine ⟨?_,List.forall_mem_cons.mpr ⟨by simpa using stops,(ih none.2).2⟩⟩
      cases word with
      | nil => rfl
      | cons => simp [Lexeme.finish] at none

/-- Respelling never takes the last word out of a text, as what it puts there is a word again. -/
theorem apart_of_respell {text : List Char} (apart : ∀ c ∈ respell text, isPlain c = false) :
    ∀ c ∈ text, isPlain c = false := by
  have keyword {k : Connective} {rest : List Char}
      (apart : ∀ c ∈ spaced k ++ rest, isPlain c = false) : False := by
    obtain ⟨some,plain⟩ := k.keyword_plain
    obtain ⟨c,member⟩ := List.exists_mem_of_ne_nil _ some
    have inside : c ∈ spaced k ++ rest := by simp [spaced,member]
    have stops := apart c inside
    rw [plain c member] at stops
    cases stops
  fun_induction respell text with
  | case1 => exact List.forall_mem_nil _
  | case2 c cs letter word ih =>
    exfalso
    split at apart
    · exact keyword apart
    · have stops : isPlain c = false := apart c (List.mem_append_left _ (List.mem_cons_self ..))
      rw [isPlain_of_isWordCharacter letter] at stops
      cases stops
  | case3 c cs other k rest found ih => exact (keyword apart).elim
  | case4 c cs other none ih =>
    obtain ⟨first,apart⟩ := List.forall_mem_cons.mp apart
    exact List.forall_mem_cons.mpr ⟨first,ih apart⟩

theorem flatMap_mark_filter (text : List Char) :
    (text.filter (!isBlank ·)).flatMap Lexeme.mark = text.flatMap Lexeme.mark := by
  induction text with
  | nil => rfl
  | cons c cs ih =>
    by_cases blank : isBlank c
    · have none : Lexeme.mark c = [] := by
        obtain ⟨opens,closes⟩ := ne_parenthesis_of_blank blank
        simp [Lexeme.mark,opens,closes]
      simp [blank,none,ih]
    · simp [blank,ih]

theorem flatMap_chars_mark {text : List Char} (apart : ∀ c ∈ text, isPlain c = false) :
    (text.flatMap Lexeme.mark).flatMap Lexeme.chars = text.filter (!isBlank ·) := by
  induction text with
  | nil => rfl
  | cons c cs ih =>
    obtain ⟨first,apart⟩ := List.forall_mem_cons.mp apart
    rw [List.flatMap_cons,List.flatMap_append,ih apart]
    by_cases blank : isBlank c
    · obtain ⟨opens,closes⟩ := ne_parenthesis_of_blank blank
      simp [Lexeme.mark,opens,closes,blank]
    · rcases eq_parenthesis_of_apart first blank with rfl | rfl
      · simp [Lexeme.mark,Lexeme.chars,blank]
      · simp [Lexeme.mark,Lexeme.chars,blank]

/-- The lexemes are those of parentheses around nothing exactly if the text is that, blanks aside. -/
theorem lexemes_respell_hollow {text : List Char} {depth : Nat} :
    lexemes [] (respell text) = List.replicate depth .opening ++ List.replicate depth .closing ↔
      text.filter (!isBlank ·) = List.replicate depth '(' ++ List.replicate depth ')' := by
  constructor
  · intro spelled
    have none : Lexeme.words (lexemes [] (respell text)) = [] := by
      rw [spelled,Lexeme.words_append]
      simp [Lexeme.words,Lexeme.word?]
    have apart := apart_of_respell (apart_of_words none).2
    rw [respell_of_apart apart,lexemes_of_apart apart] at spelled
    rw [← flatMap_chars_mark apart,spelled]
    simp [Lexeme.chars,List.flatMap_replicate]
  · intro parts
    have apart : ∀ c ∈ text, isPlain c = false := by
      intro c member
      by_cases blank : isBlank c
      · exact isPlain_of_blank blank
      · have kept : c ∈ text.filter (!isBlank ·) := by simp [member,blank]
        rw [parts,List.mem_append] at kept
        rcases kept with opens | closes
        · rw [(List.mem_replicate.mp opens).2]
          exact isPlain_opening
        · rw [(List.mem_replicate.mp closes).2]
          exact isPlain_closing
    rw [respell_of_apart apart,lexemes_of_apart apart,← flatMap_mark_filter,parts]
    simp [Lexeme.mark,List.flatMap_replicate]

/-- A statement is refused as its respelled text is. -/
theorem refused_iff {statement : String} {fault : Fault} :
    (∃ error, parse statement = .error error ∧ error.fault = fault) ↔
      readWhole (lexemes [] (respell statement.toList)) = .error fault := by
  have refused (error : Error) : parse statement = .error error ↔ tree statement = .error error := by
    rw [parse,bind_eq_error]
    simp [pure,Except.pure]
  rw [← verdict_tree,verdict_eq_error]
  simp only [refused]

theorem balanced_respell (text : List Char) : Balanced (respell text) ↔ Balanced text := by
  rw [balanced_iff_closes,balanced_iff_closes,closes_respell]

/-- Normalizing takes off parentheses in pairs, wherever they are and whatever else is unbalanced. -/
theorem balanced_normalChars (text : List Char) : Balanced (normalChars text) ↔ Balanced text := by
  rw [← balanced_respell text,← not_iff_not,← readWhole_eq_unmatched,← readWhole_eq_unmatched,
    Unwraps.run_readWhole (unwraps_normalChars text)]

/-- A statement is refused for its parentheses exactly if they are not balanced as they were written,
whatever else is wrong with it, and normalizing changes nothing about that. It is refused as empty
exactly if, blanks aside, it is nothing in any number of pairs of parentheses. -/
theorem refusal_classes (statement : String) :
    ((∃ text position, parse statement = .error (.unmatched text position)) ↔
      ¬Balanced statement.toList) ∧
    (parse statement = .error .empty ↔ ∃ depth, statement.toList.filter (!isBlank ·) =
      List.replicate depth '(' ++ List.replicate depth ')') ∧
    (Balanced (normalize statement).toList ↔ Balanced statement.toList) := by
  refine ⟨?_,?_,?_⟩
  · rw [← balanced_respell,← readWhole_eq_unmatched,← refused_iff]
    constructor
    · rintro ⟨text,position,refused⟩
      exact ⟨_,refused,rfl⟩
    · rintro ⟨error,refused,fault⟩
      cases error with
      | unmatched text position => exact ⟨text,position,refused⟩
      | _ => cases fault
  · simp only [← lexemes_respell_hollow]
    rw [← readWhole_eq_empty,← refused_iff]
    constructor
    · exact fun refused => ⟨_,refused,rfl⟩
    · rintro ⟨error,refused,fault⟩
      cases error with
      | empty => exact refused
      | _ => cases fault
  · rw [normalize,String.toList_ofList]
    exact balanced_normalChars _

end Sentential.Statement
