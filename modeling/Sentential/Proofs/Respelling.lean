import Sentential.Proofs.Lexemes

/-! How respelling acts on the pieces of a text. A word is taken whole, a symbol is taken as long as
it gets, and nothing else changes. In a respelled text no word is another spelling of a connective
than its keyword. -/
namespace Sentential

namespace Connective

theorem ofSign_of_mem {k : Connective} : ∀ c ∈ k.signs, ofSign? c = some k := by
  have all : k.signs.all fun c => ofSign? c = some k := by cases k <;> decide
  simpa only [List.all_eq_true,decide_eq_true_eq] using all

theorem mem_signs {k : Connective} {c : Char} (found : ofSign? c = some k) : c ∈ k.signs := by
  unfold ofSign? at found
  have member := List.find?_some found
  simpa using member

/-- Signs are neither word characters nor blanks nor parentheses. -/
theorem sign_apart (k : Connective) :
    ∀ c ∈ k.signs, Text.isWordCharacter c = false ∧ Statement.isPlain c := by
  have all : k.signs.all fun c => !Text.isWordCharacter c && Statement.isPlain c := by
    cases k <;> decide +kernel
  simpa only [List.all_eq_true,Bool.and_eq_true,Bool.not_eq_true'] using all

theorem not_mem_signs_of_apart {k : Connective} {c : Char} (apart : Statement.isPlain c = false) :
    c ∉ k.signs := by
  intro sign
  rw [(k.sign_apart c sign).2] at apart
  cases apart

theorem not_mem_signs_of_letter {k : Connective} {c : Char} (letter : Text.isWordCharacter c) :
    c ∉ k.signs := by
  intro sign
  rw [(k.sign_apart c sign).1] at letter
  cases letter

theorem word_letters (k : Connective) :
    ∀ word ∈ k.words, word.toList ≠ [] ∧ ∀ c ∈ word.toList, Text.isWordCharacter c := by
  have all : k.words.all fun word =>
      !word.toList.isEmpty && word.toList.all Text.isWordCharacter := by
    cases k <;> decide
  simpa only [List.all_eq_true,Bool.and_eq_true,Bool.not_eq_true',List.isEmpty_eq_false_iff]
    using all

theorem ofWord_of_mem {k : Connective} : ∀ word ∈ k.words, ofWord? word.toList = some k := by
  cases k <;> decide

/-- A keyword is no other spelling of any connective. -/
theorem ofWord_keyword {k k' : Connective} (found : ofWord? k.keyword.toList = some k') :
    k.keyword.toList = k'.keyword.toList := by
  cases k <;> cases k' <;> revert found <;> decide

/-- The ways to write a connective: a word, a sign or, where nested uses merge, a run of signs, and
for `->` and `iff` an arrow with a shaft of any length. -/
inductive Spelling : Connective → List Char → Prop where
  | word : word ∈ words k → Spelling k word.toList
  | signs : c ∈ signs k → (∀ c ∈ run, c ∈ signs k) → (run ≠ [] → k.isAssociative) →
      Spelling k (c :: run)
  | arrow : shaft ∈ ['-','='] → 0 < length →
      Spelling .implies (List.replicate length shaft ++ ['>'])
  | doubleArrow : shaft ∈ ['-','='] → 0 < length →
      Spelling .iff ('<' :: List.replicate length shaft ++ ['>'])

theorem Spelling.keyword (k : Connective) : k.Spelling k.keyword.toList := by
  cases k with
  | implies => exact .arrow (List.mem_cons_self ..) Nat.one_pos
  | _ => exact .word (List.mem_cons_self ..)

theorem keyword_mem_words {k : Connective} (worded : k ≠ .implies) : k.keyword ∈ k.words := by
  revert worded
  cases k <;> decide

theorem keyword_plain (k : Connective) :
    k.keyword.toList ≠ [] ∧ ∀ c ∈ k.keyword.toList, Statement.isPlain c := by
  have all : k.keyword.toList ≠ [] ∧ k.keyword.toList.all Statement.isPlain := by
    cases k <;> decide
  exact ⟨all.1,List.all_eq_true.mp all.2⟩

end Connective

namespace Statement

open Text

theorem lexemes_spaced (word : List Char) (k : Connective) (rest : List Char) :
    lexemes word (spaced k ++ rest) =
      Lexeme.finish word ++ .word k.keyword.toList :: lexemes [] rest := by
  have bounded : Bounded (' ' :: rest) := by simp [Bounded,isPlain_space]
  obtain ⟨some,plain⟩ := k.keyword_plain
  rw [spaced,List.append_assoc,List.cons_append,lexemes_space,List.singleton_append,
    lexemes_append bounded,lexemes_word plain some,lexemes_space]
  rfl

/-- A text that does not go on with a word. -/
def EndsWord (text : List Char) : Prop := ∀ c ∈ text.head?, isWordCharacter c = false

theorem Bounded.endsWord {text : List Char} (bounded : Bounded text) : EndsWord text :=
  fun c first => isWordCharacter_of_apart (bounded c first)

theorem endsWord_dropWhile (text : List Char) : EndsWord (text.dropWhile isWordCharacter) := by
  intro c first
  have := List.head?_dropWhile_not isWordCharacter text
  rw [Option.mem_def.mp first] at this
  simpa using this

/-- The spellings of the chosen connectives become their keywords; those of the others stay. -/
def respellOnly (chosen : Connective → Bool) : List Char → List Char
  | [] => []
  | c :: cs =>
    if isWordCharacter c then
      let word := c :: cs.takeWhile isWordCharacter
      (match (Connective.ofWord? word).filter chosen with
        | some k => spaced k
        | none => word) ++ respellOnly chosen (cs.dropWhile isWordCharacter)
    else
      match _found : symbol? (c :: cs) with
      | some (k,rest) =>
        if chosen k then spaced k ++ respellOnly chosen rest else c :: respellOnly chosen cs
      | none => c :: respellOnly chosen cs
termination_by text => text.length
decreasing_by
  · have := length_dropWhile_le isWordCharacter cs
    simp only [List.length_cons]
    omega
  · exact length_symbol _found
  · simp
  · simp

section

variable (chosen : Connective → Bool)

theorem respellOnly_word {word rest : List Char} (nonempty : word ≠ [])
    (letters : ∀ c ∈ word, isWordCharacter c) (ends : EndsWord rest) :
    respellOnly chosen (word ++ rest) =
      (((Connective.ofWord? word).filter chosen).map spaced).getD word ++
        respellOnly chosen rest := by
  obtain ⟨c,tail,rfl⟩ := List.exists_cons_of_ne_nil nonempty
  obtain ⟨first,letters⟩ := List.forall_mem_cons.mp letters
  obtain ⟨taken,dropped⟩ := takeWhile_of_ends letters ends
  rw [List.cons_append,respellOnly]
  simp only [first,if_true,taken,dropped]
  cases (Connective.ofWord? (c :: tail)).filter chosen <;> rfl

/-- A word is taken as long as it gets. -/
theorem respellOnly_run {c : Char} (letter : isWordCharacter c) (cs : List Char) :
    respellOnly chosen (c :: cs) =
      (((Connective.ofWord? (c :: cs.takeWhile isWordCharacter)).filter chosen).map spaced).getD
        (c :: cs.takeWhile isWordCharacter) ++
        respellOnly chosen (cs.dropWhile isWordCharacter) := by
  have letters : ∀ d ∈ c :: cs.takeWhile isWordCharacter, isWordCharacter d :=
    List.forall_mem_cons.mpr ⟨letter,List.all_eq_true.mp List.all_takeWhile⟩
  rw [← respellOnly_word chosen (List.cons_ne_nil _ _) letters (endsWord_dropWhile cs),
    List.cons_append,List.takeWhile_append_dropWhile]

theorem respellOnly_symbol {text rest : List Char} {k : Connective} (first : EndsWord text)
    (found : symbol? text = some (k,rest)) (member : chosen k) :
    respellOnly chosen text = spaced k ++ respellOnly chosen rest := by
  cases text with
  | nil => cases found
  | cons c cs =>
    have other : isWordCharacter c = false := first c rfl
    rw [respellOnly]
    simp only [other,if_false,Bool.false_eq_true]
    split
    · next found' =>
      cases found.symm.trans found'
      rw [if_pos member]
    · next none => cases found.symm.trans none

/-- A character that begins neither a word nor a chosen symbol stands for itself. -/
theorem respellOnly_other {c : Char} {cs : List Char} (other : isWordCharacter c = false)
    (unchosen : ∀ k rest, symbol? (c :: cs) = some (k,rest) → chosen k = false) :
    respellOnly chosen (c :: cs) = c :: respellOnly chosen cs := by
  rw [respellOnly]
  simp only [other,if_false,Bool.false_eq_true]
  split
  · next k rest found => simp [unchosen k rest found]
  · rfl

end

theorem respell_eq (text : List Char) : respell text = respellOnly (fun _ => true) text := by
  fun_induction respell text with
  | case1 => rw [respellOnly]
  | case2 c cs letter word ih =>
    rw [respellOnly_run _ letter,ih]
    cases Connective.ofWord? word <;> rfl
  | case3 c cs other k rest found ih =>
    have first : EndsWord (c :: cs) := by
      rintro _ ⟨⟩
      simpa using other
    rw [respellOnly_symbol _ first found rfl,ih]
  | case4 c cs other none ih =>
    rw [respellOnly_other _ (by simpa using other) (by simp [none]),ih]

theorem respell_word {word rest : List Char} (nonempty : word ≠ [])
    (letters : ∀ c ∈ word, isWordCharacter c) (ends : EndsWord rest) :
    respell (word ++ rest) =
      ((Connective.ofWord? word).map spaced).getD word ++ respell rest := by
  rw [respell_eq,respell_eq,respellOnly_word _ nonempty letters ends]
  cases Connective.ofWord? word <;> rfl

theorem respell_symbol {text rest : List Char} {k : Connective}
    (first : EndsWord text) (found : symbol? text = some (k,rest)) :
    respell text = spaced k ++ respell rest := by
  rw [respell_eq,respell_eq,respellOnly_symbol _ first found rfl]

theorem respell_other {c : Char} {cs : List Char} (other : isWordCharacter c = false)
    (none : symbol? (c :: cs) = none) : respell (c :: cs) = c :: respell cs := by
  rw [respell_eq,respell_eq,respellOnly_other _ other (by simp [none])]

theorem symbol_eq_none {c : Char} (cs : List Char) (noSign : ∀ k : Connective, c ∉ k.signs)
    (noArrow : c ∉ ['<','-','=']) : symbol? (c :: cs) = none := by
  have none : Connective.ofSign? c = none := by
    cases found : Connective.ofSign? c with
    | none => rfl
    | some k => exact absurd (Connective.mem_signs found) (noSign k)
  simp only [List.mem_cons,List.not_mem_nil,or_false,not_or] at noArrow
  simp [symbol?,none,noArrow,afterArrow?]

theorem ne_arrow_of_isPlain {c : Char} (apart : isPlain c = false) : c ∉ ['<','-','='] := by
  intro member
  have plain : ∀ c ∈ ['<','-','='], isPlain c = true := List.all_eq_true.mp (by decide)
  rw [plain c member] at apart
  cases apart

/-- Parentheses and blanks stay as they are. -/
theorem respell_apart {c : Char} (apart : isPlain c = false) (cs : List Char) :
    respell (c :: cs) = c :: respell cs := by
  apply respell_other (isWordCharacter_of_apart apart)
  apply symbol_eq_none cs _ (ne_arrow_of_isPlain apart)
  exact fun k => Connective.not_mem_signs_of_apart apart

theorem respell_space (cs : List Char) : respell (' ' :: cs) = ' ' :: respell cs :=
  respell_apart isPlain_space cs

theorem respell_blanks {gap : List Char} (blank : ∀ c ∈ gap, isBlank c) (rest : List Char) :
    respell (gap ++ rest) = gap ++ respell rest := by
  induction gap with
  | nil => rfl
  | cons c gap ih =>
    obtain ⟨first,blank⟩ := List.forall_mem_cons.mp blank
    rw [List.cons_append,respell_apart (isPlain_of_blank first),ih blank,List.cons_append]

theorem shaft_apart {shaft : Char} (member : shaft ∈ ['-','=']) :
    isWordCharacter shaft = false ∧ Connective.ofSign? shaft = none ∧ shaft ≠ '<' ∧ shaft ≠ '>' := by
  have shafts : shaft = '-' ∨ shaft = '=' := by simpa using member
  rcases shafts with rfl | rfl <;> decide

theorem afterArrow_of_shaft {shaft : Char} {length : Nat} (member : shaft ∈ ['-','='])
    (positive : 0 < length) (rest : List Char) :
    afterArrow? (List.replicate length shaft ++ '>' :: rest) = some rest := by
  obtain ⟨length,rfl⟩ := Nat.exists_eq_succ_of_ne_zero (Nat.ne_of_gt positive)
  have point : shaft ≠ '>' := (shaft_apart member).2.2.2
  have run : (List.replicate length shaft ++ '>' :: rest).dropWhile (· == shaft) = '>' :: rest := by
    rw [List.dropWhile_append_of_pos (by simp)]
    simp [point.symm]
  have shafts : shaft = '-' ∨ shaft = '=' := by simpa using member
  rw [List.replicate_succ,List.cons_append,afterArrow?,if_pos shafts,run]
  rfl

theorem symbol_of_sign {k : Connective} {c : Char} {run rest : List Char} (first : c ∈ k.signs)
    (more : ∀ c ∈ run, c ∈ k.signs) (many : run ≠ [] → k.isAssociative)
    (ends : k.isAssociative → ∀ c ∈ rest.head?, c ∉ k.signs) :
    symbol? (c :: (run ++ rest)) = some (k,rest) := by
  simp only [symbol?,Connective.ofSign_of_mem c first]
  cases merges : k.isAssociative with
  | true =>
    have stops : rest.dropWhile k.signs.contains = rest := by
      cases rest with
      | nil => rfl
      | cons c rest => simp [ends merges c rfl]
    rw [if_pos rfl,List.dropWhile_append_of_pos (by simpa using more),stops]
  | false =>
    cases run with
    | nil => rfl
    | cons => simp [merges] at many

theorem symbol_of_arrow {rest : List Char} {shaft : Char} {length : Nat}
    (member : shaft ∈ ['-','=']) (positive : 0 < length) :
    symbol? (List.replicate length shaft ++ '>' :: rest) = some (.implies,rest) ∧
      symbol? ('<' :: (List.replicate length shaft ++ '>' :: rest)) = some (.iff,rest) := by
  have after := afterArrow_of_shaft member positive rest
  constructor
  · obtain ⟨length,rfl⟩ := Nat.exists_eq_succ_of_ne_zero (Nat.ne_of_gt positive)
    rw [List.replicate_succ,List.cons_append] at after ⊢
    obtain ⟨-,unsigned,open_,-⟩ := shaft_apart member
    simp [symbol?,unsigned,open_,after]
  · have plain : Connective.ofSign? '<' = none := by decide
    simp [symbol?,plain,after]

/-- Any spelling of a connective becomes its keyword, if what follows does not prolong it. -/
theorem respell_spelling {k : Connective} {text rest : List Char} (spelling : k.Spelling text)
    (wordEnds : (∀ c ∈ text, isWordCharacter c) → EndsWord rest)
    (runEnds : k.isAssociative → ∀ c ∈ rest.head?, c ∉ k.signs) :
    respell (text ++ rest) = spaced k ++ respell rest := by
  cases spelling with
  | word member =>
    obtain ⟨some,letters⟩ := k.word_letters _ member
    rw [respell_word some letters (wordEnds letters),Connective.ofWord_of_mem _ member,
      Option.map_some,Option.getD_some]
  | signs first more many =>
    apply respell_symbol
    · rintro _ ⟨⟩
      exact (k.sign_apart _ first).1
    · exact symbol_of_sign first more many runEnds
  | arrow member positive =>
    rw [List.append_assoc,List.singleton_append]
    apply respell_symbol _ (symbol_of_arrow member positive).1
    obtain ⟨length,rfl⟩ := Nat.exists_eq_succ_of_ne_zero (Nat.ne_of_gt positive)
    rintro _ ⟨⟩
    exact (shaft_apart member).1
  | doubleArrow member positive =>
    rw [List.cons_append,List.cons_append,List.append_assoc,List.singleton_append]
    apply respell_symbol _ (symbol_of_arrow member positive).2
    rintro _ ⟨⟩
    decide

/-- A word collected last character first is no other spelling than a keyword. -/
def Settled (word : List Char) : Prop :=
  (∀ c ∈ word, isWordCharacter c) → ∀ k, Connective.ofWord? word = some k →
    word = k.keyword.toList

/-- A word under way in a respelled text: none, one that cannot be a spelling any more, or one that
is complete. -/
def UnderWay (word text : List Char) : Prop :=
  word = [] ∨ (∃ c ∈ word, isWordCharacter c = false) ∨ (EndsWord text ∧ Settled word.reverse)

theorem settled_of_other {word : List Char} (other : ∃ c ∈ word, isWordCharacter c = false) :
    Settled word.reverse := by
  intro letters
  obtain ⟨c,member,none⟩ := other
  rw [letters c (List.mem_reverse.mpr member)] at none
  cases none

theorem settled_finish {word text : List Char} (under_way : UnderWay word text) :
    ∀ found ∈ Lexeme.words (Lexeme.finish word), Settled found := by
  cases word with
  | nil => simp [Lexeme.finish,Lexeme.words]
  | cons c word =>
    intro found member
    obtain rfl : found = (c :: word).reverse := by
      simpa [Lexeme.finish,Lexeme.words,Lexeme.word?] using member
    rcases under_way with none | other | ⟨_,settled⟩
    · cases none
    · exact settled_of_other other
    · exact settled

theorem settled_keyword (k : Connective) : Settled k.keyword.toList :=
  fun _ _ found => Connective.ofWord_keyword found

theorem words_keyword (word rest : List Char) (k : Connective) :
    Lexeme.words (lexemes word (spaced k ++ rest)) =
      Lexeme.words (Lexeme.finish word) ++ k.keyword.toList :: Lexeme.words (lexemes [] rest) := by
  rw [lexemes_spaced,Lexeme.words_append,Lexeme.words_word]

theorem words_mark (c : Char) : Lexeme.words (Lexeme.mark c) = [] := by
  unfold Lexeme.mark
  split
  · rfl
  · split <;> rfl

/-- Every word of a respelled text is settled: a spelling of a connective has become its keyword,
and what stands beside a run of word characters is no word character. -/
theorem settled_respell (word text : List Char) (under_way : UnderWay word text) :
    ∀ found ∈ Lexeme.words (lexemes word (respell text)), Settled found := by
  have keyword {word rest : List Char} {k : Connective}
      (before : ∀ found ∈ Lexeme.words (Lexeme.finish word), Settled found)
      (after : ∀ found ∈ Lexeme.words (lexemes [] rest), Settled found) :
      ∀ found ∈ Lexeme.words (lexemes word (spaced k ++ rest)), Settled found := by
    rw [words_keyword]
    exact List.forall_mem_append.mpr ⟨before,List.forall_mem_cons.mpr ⟨settled_keyword k,after⟩⟩
  fun_induction respell text generalizing word with
  | case1 => exact settled_finish under_way
  | case2 c cs letter run ih =>
    have letters : ∀ c ∈ run, isWordCharacter c :=
      List.forall_mem_cons.mpr ⟨letter,List.all_eq_true.mp List.all_takeWhile⟩
    cases spelled : Connective.ofWord? run with
    | some k => exact keyword (settled_finish under_way) (ih [] (.inl rfl))
    | none =>
      have plain : ∀ c ∈ run, isPlain c :=
        fun c member => isPlain_of_isWordCharacter (letters c member)
      simp only [lexemes_plain_append plain]
      apply ih
      rcases under_way with rfl | ⟨other,member,none⟩ | ⟨ends,-⟩
      · refine .inr (.inr ⟨endsWord_dropWhile cs,?_⟩)
        intro _ k found
        rw [List.append_nil,List.reverse_reverse,spelled] at found
        cases found
      · exact .inr (.inl ⟨other,List.mem_append_right _ member,none⟩)
      · have other : isWordCharacter c = false := ends c rfl
        rw [letter] at other
        cases other
  | case3 c cs other k rest found ih =>
    exact keyword (settled_finish under_way) (ih [] (.inl rfl))
  | case4 c cs other none ih =>
    by_cases plain : isPlain c
    · simp only [lexemes,plain,if_true]
      apply ih
      exact .inr (.inl ⟨c,List.mem_cons_self ..,by simpa using other⟩)
    · simp only [lexemes,plain,if_false,Bool.false_eq_true,Lexeme.words_append,words_mark,
        List.nil_append]
      exact List.forall_mem_append.mpr ⟨settled_finish under_way,ih [] (.inl rfl)⟩

end Statement
end Sentential
