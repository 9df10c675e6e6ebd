import Sentential.Proofs.Stability

/-! The form of normal statements. Blanks are single spaces that separate something, connectives are
written as keywords only, and no group is just a negated name. A connective in another spelling would
stand in a word of the text, and respelling, which has nothing left to change, would rewrite that
word. -/
namespace Sentential

open Text

namespace Connective

theorem Spelling.plain {k : Connective} {text : List Char} (spelling : k.Spelling text) :
    text ≠ [] ∧ ∀ c ∈ text, Statement.isPlain c := by
  have arrows : ∀ c ∈ ['-','=','<','>'], Statement.isPlain c := List.all_eq_true.mp (by decide)
  have shafts {shaft : Char} {length : Nat} (member : shaft ∈ ['-','=']) :
      ∀ c ∈ List.replicate length shaft ++ ['>'], Statement.isPlain c := by
    intro c inside
    apply arrows
    rcases List.mem_append.mp inside with run | point
    · rw [(List.mem_replicate.mp run).2]
      exact (List.prefix_append ['-','='] ['<','>']).subset member
    · rw [List.mem_singleton.mp point]
      decide
  cases spelling with
  | word member =>
    obtain ⟨some,letters⟩ := k.word_letters _ member
    exact ⟨some,fun c inside => Statement.isPlain_of_isWordCharacter (letters c inside)⟩
  | signs first more _ =>
    refine ⟨List.cons_ne_nil _ _,?_⟩
    exact List.forall_mem_cons.mpr
      ⟨(k.sign_apart _ first).2,fun c inside => (k.sign_apart c (more c inside)).2⟩
  | arrow member _ => exact ⟨List.append_ne_nil_of_right_ne_nil _ (List.cons_ne_nil _ _),shafts member⟩
  | doubleArrow member _ =>
    exact ⟨List.cons_ne_nil _ _,List.forall_mem_cons.mpr ⟨arrows '<' (by decide),shafts member⟩⟩

/-- A spelling is a word, or a symbol is read where it begins. -/
theorem Spelling.word_or_symbol {k : Connective} {text : List Char} (spelling : k.Spelling text) :
    (∃ word ∈ k.words, text = word.toList) ∨
    (∀ c ∈ text.head?, isWordCharacter c = false) ∧
      ∀ after, Statement.symbol? (text ++ after) ≠ none := by
  cases spelling with
  | @word _ word member => exact .inl ⟨word,member,rfl⟩
  | signs first _ _ =>
    refine .inr ⟨?_,fun after => ?_⟩
    · rintro _ ⟨⟩
      exact (k.sign_apart _ first).1
    · simp [Statement.symbol?,ofSign_of_mem _ first]
  | @arrow shaft length member positive =>
    refine .inr ⟨?_,fun after => ?_⟩
    · obtain ⟨length,rfl⟩ := Nat.exists_eq_succ_of_ne_zero (Nat.ne_of_gt positive)
      rintro _ ⟨⟩
      exact (Statement.shaft_apart member).1
    · rw [List.append_assoc,List.singleton_append,
        (Statement.symbol_of_arrow member positive).1]
      exact Option.some_ne_none _
  | @doubleArrow shaft length member positive =>
    refine .inr ⟨?_,fun after => ?_⟩
    · rintro _ ⟨⟩
      decide
    · rw [List.cons_append,List.cons_append,List.append_assoc,List.singleton_append,
        (Statement.symbol_of_arrow member positive).2]
      exact Option.some_ne_none _

end Connective

namespace Statement

theorem blank_squeeze {inside pending : Bool} {text : List Char} :
    ∀ c ∈ squeeze inside pending text, isBlank c → c = ' ' := by
  induction text generalizing inside pending with
  | nil => exact List.forall_mem_nil _
  | cons d ds ih =>
    by_cases blank : isBlank d
    · rw [squeeze_blank blank]
      exact ih
    · rw [squeeze_unblank (by simpa using blank)]
      refine List.forall_mem_append.mpr ⟨?_,List.forall_mem_cons.mpr ⟨(absurd · blank),ih⟩⟩
      intro c member _
      split at member
      · exact List.mem_singleton.mp member
      · cases member

/-- A space that is left separates two characters. Before the text stands one that it may follow,
unless a group was just opened or there is nothing. -/
theorem between_squeeze {inside pending : Bool} {text before after : List Char}
    (parts : squeeze inside pending text = before ++ ' ' :: after) :
    (before = [] → inside = false) ∧
      (∀ c ∈ before.getLast?, isBlank c = false ∧ c ≠ '(') ∧
      ∃ c ∈ after.head?, isBlank c = false ∧ c ≠ ')' := by
  induction text generalizing inside pending before with
  | nil => simp [squeeze] at parts
  | cons d ds ih =>
    by_cases blank : isBlank d
    · rw [squeeze_blank blank] at parts
      exact ih parts
    have unblank : isBlank d = false := by simpa using blank
    have ne_space : d ≠ ' ' := by
      rintro rfl
      exact blank (by decide)
    -- Behind the character that stays, which is what stands before the rest.
    have behind {before : List Char}
        (parts : d :: squeeze (d == '(') false ds = before ++ ' ' :: after) :
        before ≠ [] ∧ (∀ c ∈ before.getLast?, isBlank c = false ∧ c ≠ '(') ∧
          ∃ c ∈ after.head?, isBlank c = false ∧ c ≠ ')' := by
      cases before with
      | nil =>
        cases parts
        exact absurd rfl ne_space
      | cons e before =>
        obtain ⟨rfl,parts'⟩ := List.cons.inj parts
        obtain ⟨opens,last,next⟩ := ih parts'
        refine ⟨List.cons_ne_nil _ _,?_,next⟩
        cases before with
        | nil =>
          rintro _ ⟨⟩
          exact ⟨unblank,by simpa using opens rfl⟩
        | cons f before => simpa [List.getLast?_cons_cons] using last
    rw [squeeze_unblank unblank] at parts
    split at parts
    · next spaced =>
      simp only [Bool.and_eq_true,Bool.not_eq_true',bne_iff_ne,ne_eq] at spaced
      cases before with
      | nil =>
        cases parts
        have nothing : ∀ c ∈ ([] : List Char).getLast?, isBlank c = false ∧ c ≠ '(' := by simp
        exact ⟨fun _ => spaced.1.2,nothing,d,rfl,unblank,spaced.2⟩
      | cons e before =>
        obtain ⟨some,last,next⟩ := behind (List.cons.inj parts).2
        obtain ⟨f,before,rfl⟩ := List.exists_cons_of_ne_nil some
        have last' : ∀ c ∈ (e :: f :: before).getLast?, isBlank c = false ∧ c ≠ '(' := by
          simpa [List.getLast?_cons_cons] using last
        exact ⟨fun none => absurd none (List.cons_ne_nil _ _),last',next⟩
    · obtain ⟨some,last,next⟩ := behind parts
      exact ⟨fun none => absurd none some,last,next⟩

/-- A connective is spelled between two parts of a text. A word counts only where it stands alone. -/
structure Spells (k : Connective) (before text after : List Char) : Prop where
  spelling : k.Spelling text
  alone : (∀ c ∈ text, isWordCharacter c) →
    (∀ c ∈ before.getLast?, isWordCharacter c = false) ∧ EndsWord after

namespace Spells

variable {k : Connective} {before text after : List Char}

theorem behind {front : List Char} (spells : Spells k (front ++ before) text after) :
    Spells k before text after := by
  refine ⟨spells.spelling,fun letters => ?_⟩
  obtain ⟨starts,ends⟩ := spells.alone letters
  refine ⟨fun c last => starts c ?_,ends⟩
  rw [List.getLast?_append,Option.mem_def.mp last]
  rfl

theorem ahead {rest : List Char} (spells : Spells k before text (after ++ rest)) :
    Spells k before text after := by
  refine ⟨spells.spelling,fun letters => ?_⟩
  obtain ⟨starts,ends⟩ := spells.alone letters
  refine ⟨starts,fun c first => ends c ?_⟩
  rw [List.head?_append,Option.mem_def.mp first]
  rfl

/-- Letters do not stand before a word. -/
theorem before_eq_nil (spells : Spells k before text after)
    (word : ∀ c ∈ text, isWordCharacter c) (letters : ∀ c ∈ before, isWordCharacter c) :
    before = [] := by
  rw [← List.getLast?_eq_none_iff,Option.eq_none_iff_forall_not_mem]
  intro c last
  have letter := letters c (List.mem_of_getLast? last)
  rw [(spells.alone word).1 c last] at letter
  cases letter

/-- A spelling that begins with a letter is a word. -/
theorem word {c : Char} (spells : Spells k before (c :: text) after) (letter : isWordCharacter c) :
    ∃ word ∈ k.words, c :: text = word.toList := by
  rcases spells.spelling.word_or_symbol with word | ⟨other,-⟩
  · exact word
  · rw [other c rfl] at letter
    cases letter

/-- A word is spelled where letters begin only as all of them. -/
theorem ofWord_of_letters {run rest : List Char} (spells : Spells k before text after)
    (letters : ∀ c ∈ before ++ run, isWordCharacter c) (some : run ≠ []) (ends : EndsWord rest)
    (parts : text ++ after = run ++ rest) :
    before = [] ∧ text = run ∧ Connective.ofWord? run = .some k := by
  obtain ⟨d,run,rfl⟩ := List.exists_cons_of_ne_nil some
  obtain ⟨e,text,rfl⟩ := List.exists_cons_of_ne_nil spells.spelling.plain.1
  obtain ⟨inFront,inRun⟩ := List.forall_mem_append.mp letters
  obtain rfl : e = d := (List.cons.inj parts).1
  obtain ⟨word,member,spelled⟩ := spells.word (inRun e (List.mem_cons_self ..))
  have inside : ∀ c ∈ e :: text, isWordCharacter c := spelled ▸ (k.word_letters word member).2
  have whole : e :: text = e :: run := by
    rw [← (takeWhile_of_ends inside (spells.alone inside).2).1,parts,
      (takeWhile_of_ends inRun ends).1]
  refine ⟨spells.before_eq_nil inside inFront,whole,?_⟩
  rw [← whole,spelled,Connective.ofWord_of_mem word member]

end Spells

/-- A text that respelling leaves alone spells no connective. -/
theorem not_spells_of_respell {k : Connective} {whole text after : List Char} :
    respell whole = whole → ∀ before, whole = before ++ (text ++ after) →
      ¬Spells k before text after := by
  fun_induction respell whole with
  | case1 =>
    intro _ before parts spells
    exact spells.spelling.plain.1 (List.append_eq_nil_iff.mp (List.append_eq_nil_iff.mp parts.symm).2).1
  | case2 c cs letter word ih =>
    intro kept before parts spells
    have letters : ∀ d ∈ word, isWordCharacter d :=
      List.forall_mem_cons.mpr ⟨letter,List.all_eq_true.mp List.all_takeWhile⟩
    have run : c :: cs = word ++ cs.dropWhile isWordCharacter := by
      simp only [word,List.cons_append,List.takeWhile_append_dropWhile]
    have unspelled : Connective.ofWord? word = none := by
      cases spelled : Connective.ofWord? word with
      | none => rfl
      | some k' =>
        have space : c = ' ' := by
          simp only [spelled,spaced,List.cons_append,List.cons.injEq] at kept
          exact kept.1.symm
        rw [space] at letter
        exact absurd letter (by decide)
    simp only [unspelled] at kept
    rw [run] at kept parts
    have kept := List.append_cancel_left kept
    rcases List.append_eq_append_iff.mp parts with ⟨later,same,parts⟩ | ⟨head,same,parts⟩
    · rw [same] at spells
      exact ih kept later parts spells.behind
    by_cases none : head = []
    · rw [← List.append_nil before] at spells
      rw [none,List.nil_append] at parts
      exact ih kept [] parts.symm spells.behind
    · obtain ⟨rfl,-,spelled⟩ := spells.ofWord_of_letters (same ▸ letters) none
        (endsWord_dropWhile cs) parts
      rw [List.nil_append] at same
      rw [← same,unspelled] at spelled
      cases spelled
  | case3 c cs other k' rest found ih =>
    intro kept
    have space : c = ' ' := by
      simp only [spaced,List.cons_append,List.cons.injEq] at kept
      exact kept.1.symm
    rw [space,symbol_eq_none cs (fun _ => Connective.not_mem_signs_of_apart isPlain_space)
      (by decide)] at found
    cases found
  | case4 c cs other none ih =>
    intro kept before parts spells
    cases before with
    | nil =>
      rcases spells.spelling.word_or_symbol with ⟨word,member,rfl⟩ | ⟨-,symbol⟩
      · obtain ⟨some,letters⟩ := k.word_letters word member
        obtain ⟨d,tail,spelled⟩ := List.exists_cons_of_ne_nil some
        rw [spelled] at parts letters
        rw [(List.cons.inj parts).1] at other
        exact other (letters d (List.mem_cons_self ..))
      · rw [parts] at none
        exact symbol after none
    | cons d before =>
      obtain ⟨rfl,parts'⟩ := List.cons.inj parts
      exact ih (List.cons.inj kept).2 before parts' (@Spells.behind _ _ _ _ [c] spells)

/-- What a keyword spells is its connective, as the keyword. -/
theorem keyword_of_spells {k k' : Connective} {before text after : List Char}
    (parts : k'.keyword.toList = before ++ (text ++ after)) (spells : Spells k before text after) :
    text = k.keyword.toList := by
  by_cases arrow : k' = .implies
  · subst arrow
    have chars : ∀ c ∈ text, c ∈ ['-','>'] := by
      intro c member
      have inside : c ∈ Connective.implies.keyword.toList :=
        parts ▸ List.mem_append_right _ (List.mem_append_left _ member)
      exact inside
    have total := congrArg List.length parts
    rw [List.length_append,List.length_append] at total
    have apart : ∀ c ∈ ['-','>'], isWordCharacter c = false ∧ Connective.ofSign? c = none := by
      have all : ['-','>'].all fun c => !isWordCharacter c && (Connective.ofSign? c).isNone := by
        decide
      simpa only [List.all_eq_true,Bool.and_eq_true,Bool.not_eq_true',Option.isNone_iff_eq_none]
        using all
    cases spells.spelling with
    | word member =>
      obtain ⟨some,letters⟩ := k.word_letters _ member
      obtain ⟨c,inside⟩ := List.exists_mem_of_ne_nil _ some
      have letter := letters c inside
      rw [(apart c (chars c inside)).1] at letter
      cases letter
    | signs first _ _ =>
      have unsigned := (apart _ (chars _ (List.mem_cons_self ..))).2
      rw [Connective.ofSign_of_mem _ first] at unsigned
      cases unsigned
    | doubleArrow member positive => exact absurd (chars '<' (List.mem_cons_self ..)) (by decide)
    | @arrow shaft length member positive =>
      -- No arrow is shorter than the keyword, so it is all of it.
      have keyword : Connective.implies.keyword.toList.length = 2 := rfl
      simp only [keyword,List.length_append,List.length_replicate,List.length_singleton] at total
      obtain rfl : before = [] := List.eq_nil_of_length_eq_zero (by omega)
      obtain rfl : after = [] := List.eq_nil_of_length_eq_zero (by omega)
      rw [List.nil_append,List.append_nil] at parts
      exact parts.symm
  · obtain ⟨some,letters⟩ := k'.word_letters _ (Connective.keyword_mem_words arrow)
    rw [parts] at letters
    have rest : text ++ after ≠ [] := List.append_ne_nil_of_left_ne_nil spells.spelling.plain.1 _
    have ends : EndsWord [] := fun _ => nofun
    obtain ⟨rfl,whole,spelled⟩ :=
      spells.ofWord_of_letters letters rest ends (List.append_nil _).symm
    rw [List.nil_append] at parts
    rw [whole,← parts]
    rw [← parts] at spelled
    exact Connective.ofWord_keyword spelled

/-- The words of a respelled text are those of its words. -/
theorem words_respell (text : List Char) :
    Lexeme.words (lexemes [] (respell text)) =
      (Lexeme.words (lexemes [] text)).flatMap fun word => Lexeme.words (lexemes [] (respell word)) := by
  induction text using runs_ind with
  | nil => simp [respell,lexemes,Lexeme.finish]
  | apart c rest apart ih =>
    rw [respell_apart apart]
    simp [lexemes,apart,Lexeme.finish,words_mark,ih]
  | run word rest some plain bounded ih =>
    rw [respell_append bounded,lexemes_append (bounded_respell bounded),Lexeme.words_append,
      lexemes_append bounded,Lexeme.words_append,lexemes_word plain some,List.flatMap_append,ih]
    simp

/-- Respelling leaves a text alone or puts a keyword somewhere. -/
theorem respell_eq_or_spaced (text : List Char) :
    respell text = text ∨ ∃ before k after, respell text = before ++ (spaced k ++ after) := by
  fun_induction respell text with
  | case1 => exact .inl rfl
  | case2 c cs letter word ih =>
    cases Connective.ofWord? word with
    | some k => exact .inr ⟨[],k,_,rfl⟩
    | none =>
      rcases ih with same | ⟨before,k,after,same⟩
      · exact .inl (by simp only [word,same,List.cons_append,List.takeWhile_append_dropWhile])
      · exact .inr ⟨word ++ before,k,after,by simp only [same,List.append_assoc]⟩
  | case3 c cs other k rest found ih => exact .inr ⟨[],k,_,rfl⟩
  | case4 c cs other none ih =>
    rcases ih with same | ⟨before,k,after,same⟩
    · exact .inl (by rw [same])
    · exact .inr ⟨c :: before,k,after,by rw [same]; rfl⟩

/-- A run of plain characters is left alone, or one of its words is then a keyword. -/
theorem words_respell_run {word : List Char} (some : word ≠ []) (plain : ∀ c ∈ word, isPlain c) :
    (respell word = word ∧ Lexeme.words (lexemes [] (respell word)) = [word]) ∨
      ∃ before after, ∃ k : Connective,
        Lexeme.words (lexemes [] (respell word)) = before ++ k.keyword.toList :: after := by
  rcases respell_eq_or_spaced word with same | ⟨before,k,after,same⟩
  · refine .inl ⟨same,?_⟩
    rw [same,lexemes_word plain some]
    rfl
  · have bounded : Bounded (spaced k ++ after) := bounded_cons isPlain_space _
    refine .inr ⟨Lexeme.words (lexemes [] before),Lexeme.words (lexemes [] after),k,?_⟩
    rw [same,lexemes_append bounded,Lexeme.words_append,words_keyword]
    rfl

theorem flatMap_eq_self {f : α → List α} {xs : List α} (some : ∀ x ∈ xs, f x ≠ [])
    (same : xs.flatMap f = xs) : ∀ x ∈ xs, f x = [x] := by
  have longer (xs : List α) (some : ∀ x ∈ xs, f x ≠ []) : xs.length ≤ (xs.flatMap f).length := by
    induction xs with
    | nil => simp
    | cons x xs ih =>
      obtain ⟨first,some⟩ := List.forall_mem_cons.mp some
      have := List.length_pos_iff.mpr first
      have := ih some
      simp only [List.flatMap_cons,List.length_append,List.length_cons]
      omega
  induction xs with
  | nil => exact List.forall_mem_nil _
  | cons x xs ih =>
    obtain ⟨first,others⟩ := List.forall_mem_cons.mp some
    rw [List.flatMap_cons] at same
    have total := congrArg List.length same
    have := List.length_pos_iff.mpr first
    have := longer xs others
    rw [List.length_append,List.length_cons] at total
    obtain ⟨y,single⟩ := List.length_eq_one_iff.mp (by omega : (f x).length = 1)
    rw [single,List.singleton_append] at same
    obtain ⟨rfl,same'⟩ := List.cons.inj same
    exact List.forall_mem_cons.mpr ⟨single,ih others same'⟩

theorem word_plain {text : List Char} : ∀ word ∈ Lexeme.words (lexemes [] text),
    word ≠ [] ∧ ∀ c ∈ word, isPlain c := by
  induction text using runs_ind with
  | nil => simp [lexemes,Lexeme.finish]
  | apart c rest apart ih => simpa [lexemes,apart,Lexeme.finish,words_mark] using ih
  | run word rest some plain bounded ih =>
    rw [lexemes_append bounded,lexemes_word plain some]
    exact List.forall_mem_cons.mpr ⟨⟨some,plain⟩,ih⟩

/-- Each word of a text that is stable is a keyword, or respelling leaves it alone. -/
theorem Stable.words (stable : Stable text) : ∀ word ∈ Lexeme.words (lexemes [] text),
    (∃ k : Connective, word = k.keyword.toList) ∨ respell word = word := by
  have same : (Lexeme.words (lexemes [] text)).flatMap
      (fun word => Lexeme.words (lexemes [] (respell word))) = Lexeme.words (lexemes [] text) := by
    rw [← words_respell,← lexemes_tidy,stable.respelled]
  have some : ∀ word ∈ Lexeme.words (lexemes [] text),
      Lexeme.words (lexemes [] (respell word)) ≠ [] := by
    intro word member
    obtain ⟨some,plain⟩ := word_plain word member
    rcases words_respell_run some plain with ⟨-,words⟩ | ⟨before,after,k,words⟩ <;> simp [words]
  intro word member
  obtain ⟨nonempty,plain⟩ := word_plain word member
  have alone := flatMap_eq_self some same word member
  rcases words_respell_run nonempty plain with ⟨kept,-⟩ | ⟨before,after,k,words⟩
  · exact .inr kept
  · rw [words,List.append_eq_singleton_iff] at alone
    rcases alone with ⟨-,single⟩ | ⟨-,none⟩
    · exact .inl ⟨k,(List.cons.inj single).1.symm⟩
    · cases none

/-- What is spelled in a text is spelled in one of its words. -/
theorem keyword_of_words {text : List Char} {k : Connective} {spelling after : List Char}
    (words : ∀ word ∈ Lexeme.words (lexemes [] text),
      (∃ k : Connective, word = k.keyword.toList) ∨ respell word = word)
    (before : List Char) (parts : text = before ++ (spelling ++ after))
    (spells : Spells k before spelling after) : spelling = k.keyword.toList := by
  obtain ⟨some,plain⟩ := spells.spelling.plain
  induction text using runs_ind generalizing before with
  | nil => exact absurd (List.append_eq_nil_iff.mp (List.append_eq_nil_iff.mp parts.symm).2).1 some
  | apart c rest apart ih =>
    cases before with
    | nil =>
      obtain ⟨d,spelling,rfl⟩ := List.exists_cons_of_ne_nil some
      rw [(List.cons.inj parts).1,plain d (List.mem_cons_self ..)] at apart
      cases apart
    | cons d before =>
      obtain ⟨rfl,parts'⟩ := List.cons.inj parts
      refine ih ?_ before parts' (@Spells.behind _ _ _ _ [c] spells)
      simpa [lexemes,apart,Lexeme.finish,words_mark] using words
  | run word rest nonempty plainWord bounded ih =>
    rw [lexemes_append bounded,lexemes_word plainWord nonempty] at words
    obtain ⟨first,others⟩ := List.forall_mem_cons.mp words
    have inWord {more : List Char} (parts : word = before ++ (spelling ++ more))
        (spells : Spells k before spelling more) : spelling = k.keyword.toList := by
      rcases first with ⟨k',keyword⟩ | kept
      · exact keyword_of_spells (keyword.symm.trans parts) spells
      · exact absurd spells (not_spells_of_respell kept before parts)
    rcases List.append_eq_append_iff.mp parts with ⟨later,same,parts⟩ | ⟨head,same,parts⟩
    · rw [same] at spells
      exact ih others later parts spells.behind
    rcases List.append_eq_append_iff.mp parts with ⟨more,within,parts⟩ | ⟨more,within,parts⟩
    · rw [parts] at spells
      exact inWord (by rw [same,within]) spells.ahead
    · cases more with
      | nil =>
        rw [List.append_nil] at within
        exact inWord (by rw [same,within,List.append_nil]) (@Spells.ahead _ _ _ [] after spells)
      | cons d more =>
        have letter := plain d (within ▸ List.mem_append_right _ (List.mem_cons_self ..))
        rw [bounded d (parts ▸ rfl)] at letter
        cases letter

/-- The form of normal text. -/
structure NormalForm (text : List Char) : Prop where
  blank : ∀ c ∈ text, isBlank c → c = ' '
  /-- A space separates two characters. The first opens no group and the second closes none. -/
  between : ∀ before after, text = before ++ ' ' :: after →
    (∃ c ∈ before.getLast?, isBlank c = false ∧ c ≠ '(') ∧
      ∃ c ∈ after.head?, isBlank c = false ∧ c ≠ ')'
  keywords : ∀ k before spelling after, text = before ++ (spelling ++ after) →
    Spells k before spelling after → spelling = k.keyword.toList
  groups : ∀ before count name after, Name.isValid name →
    text ≠ before ++ '(' :: ((List.replicate count "not ".toList).flatten ++ name.toList ++
      ')' :: after)

theorem isNegatedName_replicate {name : String} (valid : Name.isValid name) (count : Nat) :
    isNegatedName ((List.replicate count "not ".toList).flatten ++ name.toList) := by
  induction count with
  | zero =>
    rw [List.replicate_zero,List.flatten_nil,List.nil_append]
    unfold isNegatedName
    split
    · next cs spelled =>
      have parts := (@Name.chars_of_isValid name.toList (by simpa using valid)).2
      rw [spelled] at parts
      exact absurd (parts ' ' (by simp)) (by decide)
    · simpa using valid
  | succ count ih =>
    rw [List.replicate_succ,List.flatten_cons,List.append_assoc]
    exact ih

theorem Stable.normalForm (stable : Stable text) (firm : ¬Redundant text) : NormalForm text where
  blank := by
    rw [← stable.tidied]
    exact blank_squeeze
  between := by
    intro before after parts
    have squeezed : squeeze true false text = before ++ ' ' :: after := stable.tidied.trans parts
    obtain ⟨opens,last,next⟩ := between_squeeze squeezed
    refine ⟨?_,next⟩
    cases found : before.getLast? with
    | none => cases opens (List.getLast?_eq_none_iff.mp found)
    | some c => exact ⟨c,rfl,last c found⟩
  keywords := fun _ before _ _ parts spells => keyword_of_words stable.words before parts spells
  groups := by
    intro before count name after valid parts
    exact firm ⟨before,_,after,parts,isNegatedName_replicate valid count⟩

/-- Normalizing ends, in the normal form, and doing it again changes nothing. A round of taking
parentheses off that changes a tidy text leaves fewer of them. -/
theorem normal_form_reached (statement : String) :
    Rounds (tidy (respell statement.toList)) (normalize statement).toList ∧
    (∀ text, unwrapOnce (tidy text) = tidy text ∨
      (unwrapOnce (tidy text)).count '(' < (tidy text).count '(') ∧
    normalize (normalize statement) = normalize statement ∧
    NormalForm (normalize statement).toList := by
  have chars : (normalize statement).toList = normalChars statement.toList :=
    String.toList_ofList
  rw [chars]
  refine ⟨rounds_unwrapAll (tidy_tidy _),fun text => unwrapOnce_eq_or_fewer (tidy_tidy text),?_,
    (stable_normalChars _).normalForm (not_redundant_unwrapAll _)⟩
  rw [normalize,chars,normalChars_normalChars,← chars,String.ofList_toList]

/-- The arrows around `to` and what parentheses leave of `->` are no spellings. -/
example : normalize "<to> -((~(p)))>" = "< -> > - not p >" := by
  decide +kernel

end Statement
end Sentential
