import Sentential.Proofs.Respelling

/-! Respelling connective by connective. Each pass reads text that earlier passes rewrote, yet the
passes together do what one respelling does, in any order in which `iff` comes before `->`: of all
spellings only those of `iff` hold a spelling of another connective. -/
namespace Sentential.Statement

open Text

variable {chosen : Connective → Bool} {k : Connective}

/-- A text is respelled as one that begins with the same character or with a space. -/
theorem head_respellOnly (chosen : Connective → Bool) (c : Char) (cs : List Char) :
    ∃ first rest, respellOnly chosen (c :: cs) = first :: rest ∧ (first = c ∨ first = ' ') := by
  have space (k : Connective) (rest : List Char) :
      ∃ first tail, spaced k ++ rest = first :: tail ∧ (first = c ∨ first = ' ') :=
    ⟨' ',_,rfl,.inr rfl⟩
  rw [respellOnly]
  split
  · dsimp only
    split
    · exact space _ _
    · exact ⟨c,_,rfl,.inl rfl⟩
  · split
    · split
      · exact space _ _
      · exact ⟨c,_,rfl,.inl rfl⟩
    · exact ⟨c,_,rfl,.inl rfl⟩

/-- What ends a word still ends it. -/
theorem endsWord_respellOnly {text : List Char} (ends : EndsWord text) :
    EndsWord (respellOnly chosen text) := by
  cases text with
  | nil => simpa [respellOnly] using ends
  | cons c cs =>
    obtain ⟨first,rest,same,which⟩ := head_respellOnly chosen c cs
    rw [same]
    rintro _ ⟨⟩
    rcases which with rfl | rfl
    · exact ends _ rfl
    · decide

/-- A run of characters that stay is as long after respelling as before. -/
theorem dropWhile_respellOnly {p : Char → Bool} (space : p ' ' = false)
    (stay : ∀ c, p c → ∀ cs, respellOnly chosen (c :: cs) = c :: respellOnly chosen cs)
    (text : List Char) :
    (respellOnly chosen text).dropWhile p = respellOnly chosen (text.dropWhile p) := by
  induction text with
  | nil => simp [respellOnly]
  | cons c cs ih =>
    by_cases member : p c
    · rw [stay c member,List.dropWhile_cons_of_pos member,List.dropWhile_cons_of_pos member,ih]
    · obtain ⟨first,rest,same,which⟩ := head_respellOnly chosen c cs
      have stops : ¬p first := by
        rcases which with rfl | rfl
        · exact member
        · simp [space]
      rw [List.dropWhile_cons_of_neg member,same,List.dropWhile_cons_of_neg stops]

theorem respellOnly_sign (unchosen : chosen k = false) {c : Char} (sign : c ∈ k.signs)
    (cs : List Char) : respellOnly chosen (c :: cs) = c :: respellOnly chosen cs := by
  apply respellOnly_other chosen (k.sign_apart c sign).1
  intro k' rest found
  simp only [symbol?,Connective.ofSign_of_mem c sign,Option.some.injEq,Prod.mk.injEq] at found
  rw [← found.1,unchosen]

theorem respellOnly_shaft (unchosen : chosen .implies = false) {c : Char} (shaft : c ∈ ['-','='])
    (cs : List Char) : respellOnly chosen (c :: cs) = c :: respellOnly chosen cs := by
  obtain ⟨other,unsigned,open_,-⟩ := shaft_apart shaft
  apply respellOnly_other chosen other
  intro k' rest found
  simp only [symbol?,unsigned,open_,if_false,Option.map_eq_some_iff,Prod.mk.injEq] at found
  obtain ⟨_,_,rfl,_⟩ := found
  exact unchosen

theorem respellOnly_point (cs : List Char) :
    respellOnly chosen ('>' :: cs) = '>' :: respellOnly chosen cs := by
  apply respellOnly_other chosen (by decide)
  intro k' rest found
  have unsigned : Connective.ofSign? '>' = none := by decide
  simp [symbol?,unsigned,afterArrow?] at found

theorem afterArrow_of_mem {shaft : Char} (member : shaft ∈ ['-','=']) (cs : List Char) :
    afterArrow? (shaft :: cs) =
      if (cs.dropWhile (· == shaft)).head? = some '>' then some (cs.dropWhile (· == shaft)).tail
      else none := by
  have shafts : shaft = '-' ∨ shaft = '=' := by simpa using member
  rw [afterArrow?,if_pos shafts]
  split
  · next run => simp [run]
  · next none =>
    cases run : cs.dropWhile (· == shaft) with
    | nil => simp
    | cons c rest =>
      have point : c ≠ '>' := by
        rintro rfl
        exact none rest run
      simp [point]

/-- An arrow is left whole while `->` is not respelled. -/
theorem afterArrow_respellOnly (unchosen : chosen .implies = false) (text : List Char) :
    afterArrow? (respellOnly chosen text) = (afterArrow? text).map (respellOnly chosen) := by
  cases text with
  | nil => simp [respellOnly,afterArrow?]
  | cons c cs =>
    by_cases shaft : c ∈ ['-','=']
    · have space : (' ' == c) = false := by
        rw [beq_eq_false_iff_ne]
        rintro rfl
        simp at shaft
      have stay (d : Char) (same : d == c) (cs : List Char) :
          respellOnly chosen (d :: cs) = d :: respellOnly chosen cs := by
        rw [beq_iff_eq.mp same]
        exact respellOnly_shaft unchosen shaft cs
      rw [respellOnly_shaft unchosen shaft,afterArrow_of_mem shaft,afterArrow_of_mem shaft,
        dropWhile_respellOnly space stay]
      cases cs.dropWhile (· == c) with
      | nil => simp [respellOnly]
      | cons d rest =>
        by_cases point : d = '>'
        · simp [point,respellOnly_point]
        · obtain ⟨first,tail,same,which⟩ := head_respellOnly chosen d rest
          have other : first ≠ '>' := by
            rcases which with rfl | rfl
            · exact point
            · decide
          simp [same,other,point]
    · obtain ⟨first,tail,same,which⟩ := head_respellOnly chosen c cs
      have other : first ∉ ['-','='] := by
        rcases which with rfl | rfl
        · exact shaft
        · simp
      simp only [List.mem_cons,List.not_mem_nil,or_false] at shaft other
      simp [same,afterArrow?,shaft,other]

/-- What follows the symbol at the head of a text, if it is one of this connective. -/
def symbolOf? (k : Connective) (text : List Char) : Option (List Char) :=
  (symbol? text).bind fun found => if found.1 = k then some found.2 else none

theorem symbolOf_eq_some {text rest : List Char} :
    symbolOf? k text = some rest ↔ symbol? text = some (k,rest) := by
  cases found : symbol? text with
  | none => simp [symbolOf?,found]
  | some found' =>
    obtain ⟨k',rest'⟩ := found'
    by_cases same : k' = k <;> simp [symbolOf?,found,same]

theorem symbolOf_arrow {k' : Connective} (after : Option (List Char)) :
    ((after.map fun rest => (k',rest)).bind fun found =>
      if found.1 = k then some found.2 else none) = if k' = k then after else none := by
  cases after <;> simp

/-- A symbol of a connective that was not respelled is still there, and there is no new one. -/
theorem symbolOf_respellOnly (unchosen : chosen k = false)
    (arrows : k = .iff → chosen .implies = false) (c : Char) (cs : List Char) :
    symbolOf? k (c :: respellOnly chosen cs) =
      (symbolOf? k (c :: cs)).map (respellOnly chosen) := by
  cases sign : Connective.ofSign? c with
  | some k' =>
    by_cases same : k' = k
    · subst same
      have space : k'.signs.contains ' ' = false := by
        simpa using Connective.not_mem_signs_of_apart (k := k') isPlain_space
      have stay (d : Char) (member : k'.signs.contains d) (cs : List Char) :
          respellOnly chosen (d :: cs) = d :: respellOnly chosen cs :=
        respellOnly_sign unchosen (by simpa using member) cs
      simp only [symbolOf?,symbol?,sign,dropWhile_respellOnly space stay]
      cases k'.isAssociative <;> simp
    · simp [symbolOf?,symbol?,sign,same]
  | none =>
    by_cases opens : c = '<'
    · subst opens
      simp only [symbolOf?,symbol?,sign,if_true,symbolOf_arrow]
      by_cases same : .iff = k
      · rw [if_pos same,if_pos same,afterArrow_respellOnly (arrows same.symm)]
      · rw [if_neg same,if_neg same]
        rfl
    · simp only [symbolOf?,symbol?,sign,opens,if_false,symbolOf_arrow]
      by_cases same : .implies = k
      · subst same
        by_cases shaft : c ∈ ['-','=']
        · rw [if_pos rfl,if_pos rfl,← respellOnly_shaft unchosen shaft,
            afterArrow_respellOnly unchosen]
        · simp only [List.mem_cons,List.not_mem_nil,or_false] at shaft
          simp [afterArrow?,shaft]
      · rw [if_neg same,if_neg same]
        rfl

theorem respellOnly_space (cs : List Char) :
    respellOnly chosen (' ' :: cs) = ' ' :: respellOnly chosen cs := by
  apply respellOnly_other chosen (by decide)
  intro k' rest found
  have none : symbol? (' ' :: cs) = none :=
    symbol_eq_none cs (fun _ => Connective.not_mem_signs_of_apart isPlain_space) (by simp)
  cases none.symm.trans found

/-- A keyword between blanks has no spelling of another connective in it. -/
theorem respellOnly_spaced {k' : Connective} (differs : k' ≠ k) (rest : List Char) :
    respellOnly (· = k) (spaced k' ++ rest) = spaced k' ++ respellOnly (· = k) rest := by
  have keyword (rest : List Char) : respellOnly (· = k) (k'.keyword.toList ++ ' ' :: rest) =
      k'.keyword.toList ++ respellOnly (· = k) (' ' :: rest) := by
    by_cases arrow : k' = .implies
    · subst arrow
      have unchosen : decide (Connective.implies = k) = false := by simpa using differs
      have shaft : respellOnly (· = k) ('-' :: '>' :: ' ' :: rest) =
          '-' :: respellOnly (· = k) ('>' :: ' ' :: rest) :=
        respellOnly_shaft unchosen (by simp) _
      rw [respellOnly_point] at shaft
      exact shaft
    · have member := Connective.keyword_mem_words arrow
      obtain ⟨nonempty,letters⟩ := k'.word_letters _ member
      have ends : EndsWord (' ' :: rest) := by
        rintro _ ⟨⟩
        decide
      rw [respellOnly_word _ nonempty letters ends,Connective.ofWord_of_mem _ member]
      simp [Option.filter,differs]
  rw [spaced,List.append_assoc,List.cons_append,respellOnly_space,List.singleton_append,keyword,
    respellOnly_space]
  simp

/-- A character that stays, and begins no symbol of a further connective, stays again. -/
theorem respellOnly_kept (unchosen : chosen k = false)
    (arrows : k = .iff → chosen .implies = false) {c : Char} {cs : List Char}
    (other : isWordCharacter c = false)
    (kept : ∀ k' rest, symbol? (c :: cs) = some (k',rest) → chosen k' = false ∧ k' ≠ k) :
    respellOnly (· = k) (respellOnly chosen (c :: cs)) =
      c :: respellOnly (· = k) (respellOnly chosen cs) := by
  rw [respellOnly_other _ other fun k' rest found => (kept k' rest found).1]
  apply respellOnly_other _ other
  intro k' rest found
  apply decide_eq_false
  rintro rfl
  have there := symbolOf_eq_some.mpr found
  rw [symbolOf_respellOnly unchosen arrows,Option.map_eq_some_iff] at there
  obtain ⟨before,there,_⟩ := there
  exact (kept k' before (symbolOf_eq_some.mp there)).2 rfl

/-- Respelling some connectives and then another one is respelling all of them at once. -/
theorem respellOnly_respellOnly (unchosen : chosen k = false)
    (arrows : k = .iff → chosen .implies = false) (text : List Char) :
    respellOnly (· = k) (respellOnly chosen text) =
      respellOnly (fun k' => chosen k' || k' = k) text := by
  have earlier {k' : Connective} (member : chosen k') : k' ≠ k := by
    rintro rfl
    rw [unchosen] at member
    cases member
  fun_induction respellOnly (fun k' => chosen k' || k' = k) text with
  | case1 => simp [respellOnly]
  | case2 c cs letter word ih =>
    have letters : ∀ c ∈ word, isWordCharacter c :=
      List.forall_mem_cons.mpr ⟨letter,List.all_eq_true.mp List.all_takeWhile⟩
    have ends : EndsWord (respellOnly chosen (cs.dropWhile isWordCharacter)) :=
      endsWord_respellOnly (endsWord_dropWhile cs)
    have again := respellOnly_word (· = k) (List.cons_ne_nil _ _) letters ends
    rw [respellOnly_run chosen letter,← ih]
    cases found : Connective.ofWord? word with
    | none => simpa [word,found] using again
    | some k' =>
      by_cases member : chosen k'
      · have stays := respellOnly_spaced (earlier member)
        simpa [word,found,member,Option.filter] using stays _
      · by_cases same : k' = k
        · subst same
          simpa [word,found,unchosen,Option.filter] using again
        · simpa [word,found,member,Option.filter,same] using again
  | case3 c cs other k' rest found member ih =>
    have ends : EndsWord (c :: cs) := by
      rintro _ ⟨⟩
      simpa using other
    by_cases early : chosen k'
    · rw [respellOnly_symbol chosen ends found early,respellOnly_spaced (earlier early),ih]
    · obtain rfl : k' = k := by simpa [early] using member
      have there : symbolOf? k' (c :: respellOnly chosen cs) = some (respellOnly chosen rest) := by
        rw [symbolOf_respellOnly unchosen arrows,symbolOf_eq_some.mpr found]
        rfl
      have stays : respellOnly chosen (c :: cs) = c :: respellOnly chosen cs := by
        apply respellOnly_other chosen (ends c rfl)
        intro k'' rest' found'
        cases found.symm.trans found'
        exact unchosen
      have still : EndsWord (c :: respellOnly chosen cs) := ends
      rw [stays,respellOnly_symbol _ still (symbolOf_eq_some.mp there) (by simp),ih]
  | case4 c cs other k' rest found member ih =>
    simp only [Bool.or_eq_true,decide_eq_true_eq,not_or,Bool.not_eq_true] at member
    rw [respellOnly_kept unchosen arrows (by simpa using other),ih]
    intro k'' rest' found'
    cases found.symm.trans found'
    exact member
  | case5 c cs other none ih =>
    rw [respellOnly_kept unchosen arrows (by simpa using other),ih]
    simp [none]

theorem respellOnly_none (text : List Char) : respellOnly (fun _ => false) text = text := by
  fun_induction respellOnly (fun _ => false) text with
  | case1 => rfl
  | case2 c cs letter word ih =>
    rw [ih]
    cases Connective.ofWord? word <;> simp [word,List.takeWhile_append_dropWhile]
  | case3 c cs other k rest found member => cases member
  | case4 c cs other k rest found _ ih => rw [ih]
  | case5 c cs other none ih => rw [ih]

/-- Respelling one connective after the other, in any order that has `iff` before `->`, is
respelling. -/
theorem substitutions_eq_respell {order : List Connective} (distinct : order.Nodup)
    (complete : ∀ k, k ∈ order) (arrows : order.idxOf .iff < order.idxOf .implies)
    (text : List Char) :
    order.foldl (fun text k => respellOnly (· = k) text) text = respell text := by
  have passes (before after : List Connective) (parts : order = before ++ after) :
      after.foldl (fun text k => respellOnly (· = k) text) (respellOnly (· ∈ before) text) =
        respell text := by
    induction after generalizing before with
    | nil =>
      have all : (fun k => decide (k ∈ before)) = fun _ => true := by
        funext k
        have member := complete k
        rw [parts,List.append_nil] at member
        simp [member]
      rw [List.foldl_nil,all,respell_eq]
    | cons k after ih =>
      have unchosen : decide (k ∈ before) = false := by
        rw [parts] at distinct
        have apart := (List.nodup_append.mp distinct).2.2
        exact decide_eq_false fun member => apart k member k (List.mem_cons_self ..) rfl
      have early (same : k = .iff) : decide (.implies ∈ before) = false := by
        subst same
        apply decide_eq_false
        intro member
        rw [parts,List.idxOf_append,List.idxOf_append,if_pos member,
          if_neg (of_decide_eq_false unchosen)] at arrows
        have := List.idxOf_lt_length_of_mem member
        omega
      have both : (fun k' => decide (k' ∈ before) || decide (k' = k)) =
          fun k' => decide (k' ∈ before ++ [k]) := by
        funext k'
        simp
      rw [List.foldl_cons,respellOnly_respellOnly unchosen early,both]
      exact ih (before ++ [k]) (by rw [parts,List.append_assoc,List.singleton_append])
  have start : (fun k => decide (k ∈ ([] : List Connective))) = fun _ => false := by
    funext k
    simp
  have whole := passes [] order rfl
  rwa [start,respellOnly_none] at whole

end Sentential.Statement
