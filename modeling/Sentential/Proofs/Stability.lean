import Sentential.Proofs.Spacing

/-! Normalizing twice. A respelled text only gains blanks when it is respelled again, since no symbol
reaches over a place that was rewritten. Taking parentheses off leaves it so. A round that changes a
text takes a redundant group off it, so there is a last round, and what it leaves is normalized to
itself. -/
namespace Sentential.Statement

open Text

theorem head_respell (c : Char) (cs : List Char) :
    ∃ first rest, respell (c :: cs) = first :: rest ∧ (first = c ∨ first = ' ') := by
  rw [respell_eq]
  exact head_respellOnly _ c cs

/-- A character outside of words stays, or a keyword takes the place of the symbol it begins. -/
theorem respell_stays_or_spaced {c : Char} (other : isWordCharacter c = false) (cs : List Char) :
    respell (c :: cs) = c :: respell cs ∨ ∃ rest, respell (c :: cs) = ' ' :: rest := by
  cases found : symbol? (c :: cs) with
  | none => exact .inl (respell_other other found)
  | some symbol =>
    obtain ⟨k,rest⟩ := symbol
    have first : EndsWord (c :: cs) := by
      rintro _ ⟨⟩
      exact other
    rw [respell_symbol first found]
    exact .inr ⟨_,rfl⟩

/-- A shaft that leads to a point after respelling led to it before. -/
theorem point_of_respell {shaft : Char} (member : shaft ∈ ['-','=']) {text : List Char}
    (found : ((respell text).dropWhile (· == shaft)).head? = some '>') :
    (text.dropWhile (· == shaft)).head? = some '>' := by
  have space : (' ' == shaft) = false := by
    rw [beq_eq_false_iff_ne]
    rintro rfl
    simp at member
  induction text with
  | nil => simp [respell] at found
  | cons c cs ih =>
    by_cases same : c = shaft
    · subst same
      rcases respell_stays_or_spaced (shaft_apart member).1 cs with stays | ⟨rest,spaced⟩
      · simp only [stays,List.dropWhile_cons,beq_self_eq_true,if_true] at found ⊢
        exact ih found
      · simp [spaced,space] at found
    · obtain ⟨first,rest,respelled,rfl | rfl⟩ := head_respell c cs
      · simpa [respelled,same] using found
      · simp [respelled,space] at found

/-- No arrow begins at a character where none began before what follows was respelled. -/
theorem afterArrow_cons_respell {c : Char} {cs : List Char} (none : afterArrow? (c :: cs) = none) :
    afterArrow? (c :: respell cs) = .none := by
  by_cases shaft : c ∈ ['-','=']
  · rw [afterArrow_of_mem shaft] at none ⊢
    split at none
    · cases none
    · next blunt => rw [if_neg fun found => blunt (point_of_respell shaft found)]
  · simp only [List.mem_cons,List.not_mem_nil,or_false] at shaft
    simp [afterArrow?,shaft]

theorem afterArrow_respell {text : List Char} (none : afterArrow? text = none) :
    afterArrow? (respell text) = .none := by
  cases text with
  | nil => simp [respell,afterArrow?]
  | cons c cs =>
    obtain ⟨first,rest,respelled,which⟩ := head_respell c cs
    by_cases shaft : first ∈ ['-','=']
    · have same : first = c := by
        rcases which with same | rfl
        · exact same
        · simp at shaft
      subst same
      rcases respell_stays_or_spaced (shaft_apart shaft).1 cs with stays | ⟨_,spaced⟩
      · rw [stays]
        exact afterArrow_cons_respell none
      · rw [spaced]
        rfl
    · simp only [List.mem_cons,List.not_mem_nil,or_false] at shaft
      simp [respelled,afterArrow?,shaft]

/-- No symbol reaches from a character that stays into text that was rewritten. -/
theorem symbol_respell {c : Char} {cs : List Char} (none : symbol? (c :: cs) = none) :
    symbol? (c :: respell cs) = .none := by
  have unsigned : Connective.ofSign? c = .none := by
    cases sign : Connective.ofSign? c with
    | none => rfl
    | some k => simp [symbol?,sign] at none
  by_cases opens : c = '<'
  · subst opens
    simp only [symbol?,unsigned,if_true,Option.map_eq_none_iff] at none ⊢
    exact afterArrow_respell none
  · simp only [symbol?,unsigned,opens,if_false,Option.map_eq_none_iff] at none ⊢
    exact afterArrow_cons_respell none

theorem respell_spaced (k : Connective) (rest : List Char) :
    respell (spaced k ++ rest) = ' ' :: (spaced k ++ ' ' :: respell rest) := by
  have keyword : respell (k.keyword.toList ++ []) = spaced k ++ respell [] :=
    respell_spelling (.keyword k) (fun _ => nofun) (fun _ => nofun)
  have alone : respell k.keyword.toList = spaced k := by
    simpa [respell] using keyword
  have bounded : Bounded (' ' :: rest) := bounded_cons isPlain_space rest
  rw [spaced,List.append_assoc,List.cons_append,respell_space,List.singleton_append,
    respell_append bounded,alone,respell_space,spaced]

/-- Respelling a respelled text adds blanks only, and only where there are some. -/
theorem squeeze_respell_respell (inside pending : Bool) (text : List Char) :
    squeeze inside pending (respell (respell text)) = squeeze inside pending (respell text) := by
  have space : isBlank ' ' := by decide
  have keyword {k : Connective} {rest : List Char}
      (same : ∀ inside pending, squeeze inside pending (respell rest) =
        squeeze inside pending rest) (inside pending : Bool) :
      squeeze inside pending (respell (spaced k ++ rest)) =
        squeeze inside pending (spaced k ++ rest) := by
    rw [respell_spaced,squeeze_blank space,squeeze_spaced,squeeze_spaced,squeeze_blank space,same]
  fun_induction respell text generalizing inside pending with
  | case1 => simp [respell]
  | case2 c cs letter word ih =>
    have letters : ∀ d ∈ word, isWordCharacter d :=
      List.forall_mem_cons.mpr ⟨letter,List.all_eq_true.mp List.all_takeWhile⟩
    cases unspelled : Connective.ofWord? word with
    | some k => exact keyword ih inside pending
    | none =>
      have ends : EndsWord (respell (cs.dropWhile isWordCharacter)) := by
        rw [respell_eq]
        exact endsWord_respellOnly (endsWord_dropWhile cs)
      have again : respell (word ++ respell (cs.dropWhile isWordCharacter)) =
          word ++ respell (respell (cs.dropWhile isWordCharacter)) := by
        rw [respell_word (List.cons_ne_nil _ _) letters ends,unspelled]
        rfl
      simp only [again]
      exact squeeze_append_congr ih inside pending word
  | case3 c cs other k rest found ih => exact keyword ih inside pending
  | case4 c cs other none ih =>
    rw [respell_other (by simpa using other) (symbol_respell none)]
    exact squeeze_append_congr ih inside pending [c]

/-- A negated name holds no parentheses. -/
theorem bare_of_isNegatedName {inner : List Char} (negated : isNegatedName inner) :
    ∀ c ∈ inner, isParenthesis c = false := by
  fun_induction isNegatedName inner with
  | case1 cs ih =>
    have word : ∀ c ∈ ['n','o','t',' '], isParenthesis c = false := by
      have all : ['n','o','t',' '].all (!isParenthesis ·) := by decide
      simpa only [List.all_eq_true,Bool.not_eq_true'] using all
    exact List.forall_mem_append.mpr ⟨word,ih negated⟩
  | case2 cs =>
    intro c member
    have part := (Name.chars_of_isValid negated).2 c member
    exact isParenthesis_of_isPlain (isPlain_of_isWordCharacter (isWordCharacter_of_isPart part))

/-- Unwrapping puts spaces in the place of some parentheses. -/
theorem unwrap_eq_blankOut (text : List Char) : ∃ choices, unwrap text = blankOut choices text := by
  fun_induction unwrap text with
  | case1 => exact ⟨[],rfl⟩
  | case2 c cs inner rest found ih =>
    obtain ⟨choices,same⟩ := ih
    obtain ⟨group,negated⟩ := redundantGroup_eq_some found
    have opening : isParenthesis '(' := by decide
    have closing : isParenthesis ')' := by decide
    refine ⟨true :: true :: choices,?_⟩
    rw [group,same,blankOut,if_pos opening,List.tail_cons,
      blankOut_append (bare_of_isNegatedName negated),blankOut,if_pos closing]
    rfl
  | case3 c cs none ih =>
    obtain ⟨choices,same⟩ := ih
    cases paren : isParenthesis c with
    | false => exact ⟨choices,by simp [blankOut,paren,same]⟩
    | true => exact ⟨false :: choices,by simp [blankOut,paren,same]⟩

/-- A text that neither tidying nor respelling has to change any more. -/
structure Stable (text : List Char) : Prop where
  tidied : tidy text = text
  respelled : tidy (respell text) = text

theorem stable_respell (text : List Char) : Stable (tidy (respell text)) where
  tidied := tidy_tidy _
  respelled := by
    rw [tidy_respell_tidy]
    exact squeeze_respell_respell true false text

/-- One round of taking parentheses off. -/
def unwrapOnce (text : List Char) : List Char := tidy (unwrap text)

/-- Parentheses bound what respelling looks at, and so do the spaces in their place. -/
theorem Stable.unwrapOnce (stable : Stable text) : Stable (unwrapOnce text) where
  tidied := tidy_tidy _
  respelled := by
    obtain ⟨choices,same⟩ := unwrap_eq_blankOut text
    calc tidy (respell (tidy (unwrap text)))
      _ = tidy (respell (blankOut choices text)) := by rw [tidy_respell_tidy,same]
      _ = tidy (blankOut choices (tidy (respell text))) := by
        rw [respell_blankOut,tidy_blankOut_tidy]
      _ = tidy (unwrap text) := by rw [stable.respelled,same]

theorem Stable.unwrapAll (stable : Stable text) : Stable (unwrapAll text) := by
  fun_induction Statement.unwrapAll text with
  | case1 text next fewer ih => exact ih stable.unwrapOnce
  | case2 => exact stable

/-- Somewhere a group is just a negated name. -/
def Redundant (text : List Char) : Prop :=
  ∃ before inner after, text = before ++ '(' :: (inner ++ ')' :: after) ∧ isNegatedName inner

theorem Redundant.cons (redundant : Redundant text) (c : Char) : Redundant (c :: text) := by
  obtain ⟨before,inner,after,rfl,negated⟩ := redundant
  exact ⟨c :: before,inner,after,rfl,negated⟩

theorem redundantGroup_of_negated {inner : List Char} (negated : isNegatedName inner)
    (after : List Char) : redundantGroup? ('(' :: (inner ++ ')' :: after)) = some (inner,after) := by
  have bare : ∀ c ∈ inner, !isParenthesis c := by simpa using bare_of_isNegatedName negated
  have ends : ∀ c ∈ (')' :: after).head?, (!isParenthesis c) = false := by
    rintro _ ⟨⟩
    decide
  obtain ⟨taken,dropped⟩ := takeWhile_of_ends bare ends
  simp [redundantGroup?,taken,dropped,negated]

theorem count_unwrap_le (text : List Char) : (unwrap text).count '(' ≤ text.count '(' := by
  fun_induction unwrap text with
  | case1 => exact Nat.le_refl _
  | case2 c cs inner rest found ih =>
    obtain ⟨group,-⟩ := redundantGroup_eq_some found
    simp only [group,List.cons_append,List.count_cons,List.count_append]
    simp
    omega
  | case3 c cs none ih =>
    rw [List.count_cons,List.count_cons]
    omega

/-- A redundant group goes. -/
theorem Redundant.count_unwrap_lt (redundant : Redundant text) :
    (unwrap text).count '(' < text.count '(' := by
  fun_induction unwrap text with
  | case1 =>
    obtain ⟨before,inner,after,same,-⟩ := redundant
    simp at same
  | case2 c cs inner rest found ih =>
    obtain ⟨group,-⟩ := redundantGroup_eq_some found
    have := count_unwrap_le rest
    simp only [group,List.cons_append,List.count_cons,List.count_append]
    simp
    omega
  | case3 c cs none ih =>
    obtain ⟨before,inner,after,same,negated⟩ := redundant
    cases before with
    | nil =>
      rw [same,List.nil_append,redundantGroup_of_negated negated] at none
      cases none
    | cons d before =>
      cases same
      have := ih ⟨before,inner,after,rfl,negated⟩
      rw [List.count_cons,List.count_cons]
      omega

theorem unwrap_of_not_redundant (firm : ¬Redundant text) : unwrap text = text := by
  fun_induction unwrap text with
  | case1 => rfl
  | case2 c cs inner rest found ih =>
    obtain ⟨group,negated⟩ := redundantGroup_eq_some found
    exact absurd ⟨[],inner,rest,group,negated⟩ firm
  | case3 c cs none ih => rw [ih fun redundant => firm (redundant.cons c)]

theorem count_unwrapOnce (text : List Char) :
    (unwrapOnce text).count '(' = (unwrap text).count '(' :=
  count_squeeze true false _

/-- A round that changes a text takes parentheses off it. -/
theorem unwrapOnce_eq_or_fewer (tidied : tidy text = text) :
    unwrapOnce text = text ∨ (unwrapOnce text).count '(' < text.count '(' := by
  by_cases redundant : Redundant text
  · rw [count_unwrapOnce]
    exact .inr redundant.count_unwrap_lt
  · rw [unwrapOnce,unwrap_of_not_redundant redundant]
    exact .inl tidied

/-- Rounds up to the first that changes nothing. -/
inductive Rounds : List Char → List Char → Prop where
  | done : unwrapOnce text = text → Rounds text text
  | round : unwrapOnce text ≠ text → Rounds (unwrapOnce text) result → Rounds text result

theorem rounds_unwrapAll (tidied : tidy text = text) : Rounds text (unwrapAll text) := by
  fun_induction unwrapAll text with
  | case1 text next fewer ih =>
    refine .round (fun same => ?_) (ih (tidy_tidy _))
    have : next = text := same
    rw [this] at fewer
    exact Nat.lt_irrefl _ fewer
  | case2 text next firm =>
    rcases unwrapOnce_eq_or_fewer tidied with same | fewer
    · exact .done same
    · exact absurd fewer firm

theorem not_redundant_unwrapAll (text : List Char) : ¬Redundant (unwrapAll text) := by
  fun_induction unwrapAll text with
  | case1 text next fewer ih => exact ih
  | case2 text next firm =>
    intro redundant
    have fewer := redundant.count_unwrap_lt
    rw [← count_unwrapOnce] at fewer
    exact firm fewer

theorem stable_normalChars (text : List Char) : Stable (normalChars text) :=
  (stable_respell text).unwrapAll

theorem normalChars_normalChars (text : List Char) :
    normalChars (normalChars text) = normalChars text := by
  rw [normalChars,(stable_normalChars text).respelled]
  exact unwrapAll_of_unwrap (unwrap_of_not_redundant (not_redundant_unwrapAll _))

end Sentential.Statement
