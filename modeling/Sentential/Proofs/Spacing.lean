import Sentential.Proofs.Composition

/-! Spacing. What tidying takes out of a text may as well be taken out later, after the text was
respelled or after some of its parentheses gave way to spaces. So the steps of normalizing may be
followed on texts that are not tidy, and only the last one is tidied. -/
namespace Sentential.Statement

open Text

/-- Induction on a text by its longest runs of plain characters. -/
@[elab_as_elim]
theorem runs_ind {motive : List Char → Prop} (nil : motive [])
    (apart : ∀ c rest, isPlain c = false → motive rest → motive (c :: rest))
    (run : ∀ word rest, word ≠ [] → (∀ c ∈ word, isPlain c) → Bounded rest → motive rest →
      motive (word ++ rest)) (text : List Char) : motive text := by
  match text with
  | [] => exact nil
  | c :: cs =>
    by_cases plain : isPlain c
    · have bounded : Bounded (cs.dropWhile isPlain) := by
        intro d first
        have stops := List.head?_dropWhile_not isPlain cs
        rw [Option.mem_def.mp first] at stops
        simpa using stops
      have all : ∀ d ∈ c :: cs.takeWhile isPlain, isPlain d :=
        List.forall_mem_cons.mpr ⟨plain,List.all_eq_true.mp List.all_takeWhile⟩
      have whole := run _ _ (List.cons_ne_nil _ _) all bounded
        (runs_ind nil apart run (cs.dropWhile isPlain))
      rwa [List.cons_append,List.takeWhile_append_dropWhile] at whole
    · exact apart c cs (by simpa using plain) (runs_ind nil apart run cs)
termination_by text.length
decreasing_by
  · have := length_dropWhile_le isPlain cs
    simp only [List.length_cons]
    omega
  · simp

theorem squeeze_blank {c : Char} (blank : isBlank c) (inside pending : Bool) (cs : List Char) :
    squeeze inside pending (c :: cs) = squeeze inside true cs := by
  rw [squeeze,if_pos blank]

theorem squeeze_unblank {c : Char} (unblank : isBlank c = false) (inside pending : Bool)
    (cs : List Char) :
    squeeze inside pending (c :: cs) =
      (if pending && !inside && c != ')' then [' '] else []) ++
        c :: squeeze (c == '(') false cs := by
  rw [squeeze,unblank]
  split
  · next absurd => cases absurd
  · split <;> rfl

/-- Where a group was just opened blanks are forgotten anyway. -/
theorem squeeze_inside (pending : Bool) (text : List Char) :
    squeeze true pending text = squeeze true false text := by
  cases text with
  | nil => rfl
  | cons c cs =>
    by_cases blank : isBlank c
    · rw [squeeze_blank blank,squeeze_blank blank]
    · simp [squeeze_unblank (by simpa using blank)]

/-- A space that was left for blanks still counts as one, unless nothing may be left there. -/
theorem squeeze_space_left {inside inside' pending pending' : Bool}
    (fresh : inside = true → inside' = true ∨ pending' = true) (text : List Char) :
    squeeze inside' pending' ((if pending && !inside then [' '] else []) ++ text) =
      squeeze inside' (pending' || pending) text := by
  have space : ∀ c ∈ [' '], isBlank c := List.forall_mem_singleton.mpr (by decide)
  cases inside with
  | false =>
    cases pending with
    | false => simp
    | true => simpa using squeeze_blanks inside' pending' space text
  | true =>
    rcases fresh rfl with rfl | rfl
    · simp [squeeze_inside pending',squeeze_inside (pending' || pending)]
    · simp

/-- Texts that are tidied alike wherever they stand are so behind the same text. -/
theorem squeeze_append_congr {rest rest' : List Char}
    (same : ∀ inside pending, squeeze inside pending rest = squeeze inside pending rest')
    (inside pending : Bool) (text : List Char) :
    squeeze inside pending (text ++ rest) = squeeze inside pending (text ++ rest') := by
  induction text generalizing inside pending with
  | nil => exact same inside pending
  | cons c cs ih =>
    by_cases blank : isBlank c
    · simp only [List.cons_append,squeeze_blank blank,ih]
    · simp only [List.cons_append,squeeze_unblank (by simpa using blank : isBlank c = false),ih]

theorem bounded_nil : Bounded [] := nofun

theorem bounded_cons {c : Char} (apart : isPlain c = false) (cs : List Char) : Bounded (c :: cs) := by
  rintro _ ⟨⟩
  exact apart

theorem bounded_squeeze {text : List Char} (bounded : Bounded text) :
    Bounded (squeeze false false text) := by
  have pending (text : List Char) : Bounded (squeeze false true text) := by
    induction text with
    | nil => exact bounded_nil
    | cons c cs ih =>
      by_cases blank : isBlank c
      · rwa [squeeze_blank blank]
      · by_cases closes : c = ')'
        · rw [closes,squeeze_closing]
          exact bounded_cons isPlain_closing _
        · have spaced : (true && !false && c != ')') = true := by simpa using closes
          rw [squeeze_unblank (by simpa using blank),if_pos spaced]
          exact bounded_cons isPlain_space _
  cases text with
  | nil => exact bounded_nil
  | cons c cs =>
    have apart : isPlain c = false := bounded c rfl
    by_cases blank : isBlank c
    · rw [squeeze_blank blank]
      exact pending cs
    · rw [squeeze_unblank (by simpa using blank)]
      exact bounded_cons apart _

theorem eq_parenthesis_of_apart {c : Char} (apart : isPlain c = false) (unblank : ¬isBlank c) :
    c = '(' ∨ c = ')' := by
  rw [or_iff_not_imp_left]
  simpa [isPlain,isParenthesis,unblank] using apart

/-- Blanks may be squeezed before respelling as well as after it. -/
theorem squeeze_respell_squeeze {inside inside' pending pending' : Bool}
    (fresh : inside = true → inside' = true ∨ pending' = true) (text : List Char) :
    squeeze inside' pending' (respell (squeeze inside pending text)) =
      squeeze inside' (pending' || pending) (respell text) := by
  have spaced (cond : Bool) (text : List Char) :
      respell ((if cond then [' '] else []) ++ text) =
        (if cond then [' '] else []) ++ respell text := by
    cases cond
    · rfl
    · exact respell_space text
  induction text using runs_ind generalizing inside inside' pending pending' with
  | nil => simp [squeeze,respell]
  | apart c rest apart ih =>
    by_cases blank : isBlank c
    · rw [squeeze_blank blank,ih fresh,respell_apart apart,squeeze_blank blank,Bool.or_true]
    · rcases eq_parenthesis_of_apart apart blank with rfl | rfl
      · have after : squeeze true false (respell (squeeze true false rest)) =
            squeeze true false (respell rest) := ih fun _ => .inl rfl
        rw [squeeze_opening,spaced,respell_apart apart,squeeze_space_left fresh,squeeze_opening,
          after,respell_apart apart,squeeze_opening]
      · have after : squeeze false false (respell (squeeze false false rest)) =
            squeeze false false (respell rest) := ih fun none => by cases none
        rw [squeeze_closing,respell_apart apart,squeeze_closing,after,respell_apart apart,
          squeeze_closing]
  | run word rest some plain bounded ih =>
    have behind (inside pending : Bool) :
        squeeze inside pending (respell (squeeze false false rest)) =
          squeeze inside pending (respell rest) := by
      have after := @ih false inside false pending fun none => by cases none
      rwa [Bool.or_false] at after
    rw [squeeze_plain some plain,spaced,squeeze_space_left fresh,
      respell_append (bounded_squeeze bounded),respell_append bounded]
    exact squeeze_append_congr behind _ _ _

/-- Respelling a tidied text comes to the same as tidying only afterwards. -/
theorem tidy_respell_tidy (text : List Char) : tidy (respell (tidy text)) = tidy (respell text) :=
  squeeze_respell_squeeze (fun _ => .inl rfl) text

/-- Leaves one space for each run of blanks. `going` says that the text goes on such a run. -/
def collapse (going : Bool) : List Char → List Char
  | [] => []
  | c :: cs =>
    if isBlank c then
      if going then collapse true cs else ' ' :: collapse true cs
    else c :: collapse false cs

/-- Runs of blanks are squeezed like single spaces. -/
theorem squeeze_collapse {going pending : Bool} (passed : going = true → pending = true)
    (inside : Bool) (text : List Char) :
    squeeze inside pending (collapse going text) = squeeze inside pending text := by
  have space : isBlank ' ' := by decide
  induction text generalizing going inside pending with
  | nil => rfl
  | cons c cs ih =>
    by_cases blank : isBlank c
    · rw [collapse,if_pos blank,squeeze_blank blank]
      cases going with
      | true => rw [if_pos rfl,passed rfl,ih fun _ => rfl]
      | false => rw [if_neg Bool.false_ne_true,squeeze_blank space,ih fun _ => rfl]
    · have unblank : isBlank c = false := by simpa using blank
      rw [collapse,if_neg blank,squeeze_unblank unblank,squeeze_unblank unblank,ih id]

theorem tidy_collapse (text : List Char) : tidy (collapse false text) = tidy text :=
  squeeze_collapse id true text

/-- Nor do runs of blanks matter to respelling. -/
theorem tidy_respell_collapse (text : List Char) :
    tidy (respell (collapse false text)) = tidy (respell text) := by
  rw [← tidy_respell_tidy,tidy_collapse,tidy_respell_tidy]

/-- A text with spaces in the place of some parentheses. The choices are in the order of the
parentheses, and where there is none the parenthesis stays. -/
def blankOut : List Bool → List Char → List Char
  | _, [] => []
  | choices, c :: cs =>
    if isParenthesis c then
      (if choices.headD false then ' ' else c) :: blankOut choices.tail cs
    else c :: blankOut choices cs

theorem blankOut_nil (text : List Char) : blankOut [] text = text := by
  induction text with
  | nil => rfl
  | cons c cs ih => cases paren : isParenthesis c <;> simp [blankOut,ih,paren]

theorem blankOut_append {text : List Char} (bare : ∀ c ∈ text, isParenthesis c = false)
    (choices : List Bool) (rest : List Char) :
    blankOut choices (text ++ rest) = text ++ blankOut choices rest := by
  induction text with
  | nil => rfl
  | cons c cs ih =>
    obtain ⟨first,bare⟩ := List.forall_mem_cons.mp bare
    simp [blankOut,first,ih bare]

/-- At the head either the character stays or a space takes its place. -/
theorem blankOut_cons (choices : List Bool) (c : Char) :
    ∃ head later, (head = c ∨ head = ' ') ∧
      ∀ cs, blankOut choices (c :: cs) = head :: blankOut later cs := by
  cases paren : isParenthesis c with
  | false => exact ⟨c,choices,.inl rfl,fun cs => by simp [blankOut,paren]⟩
  | true =>
    cases chosen : choices.headD false with
    | false => exact ⟨c,choices.tail,.inl rfl,fun cs => by simp_all [blankOut]⟩
    | true => exact ⟨' ',choices.tail,.inr rfl,fun cs => by simp_all [blankOut]⟩

theorem isParenthesis_of_blank {c : Char} (blank : isBlank c) : isParenthesis c = false := by
  simpa [isParenthesis] using ne_parenthesis_of_blank blank

/-- Blanks may be squeezed before parentheses give way as well as after it. -/
theorem squeeze_blankOut_squeeze {inside inside' pending pending' : Bool}
    (fresh : inside = true → inside' = true ∨ pending' = true) (choices : List Bool)
    (text : List Char) :
    squeeze inside' pending' (blankOut choices (squeeze inside pending text)) =
      squeeze inside' (pending' || pending) (blankOut choices text) := by
  have spaced (cond : Bool) (choices : List Bool) (text : List Char) :
      blankOut choices ((if cond then [' '] else []) ++ text) =
        (if cond then [' '] else []) ++ blankOut choices text := by
    apply blankOut_append
    cases cond
    · exact List.forall_mem_nil _
    · exact List.forall_mem_singleton.mpr (by decide)
  have space : isBlank ' ' := by decide
  induction text generalizing choices inside inside' pending pending' with
  | nil => simp [squeeze,blankOut]
  | cons c cs ih =>
    by_cases blank : isBlank c
    · simp only [blankOut,isParenthesis_of_blank blank,Bool.false_eq_true,if_false,
        squeeze_blank blank,ih fresh,Bool.or_true]
    have unblank : isBlank c = false := by simpa using blank
    rw [squeeze_unblank unblank,spaced]
    obtain ⟨head,later,stays | rfl,replaced⟩ := blankOut_cons choices c
    · subst stays
      have after : squeeze (head == '(') false (blankOut later (squeeze (head == '(') false cs)) =
          squeeze (head == '(') false (blankOut later cs) := ih .inl later
      rw [replaced,replaced]
      by_cases closes : head = ')'
      · subst closes
        have none : (pending && !inside && ')' != ')') = false := by simp
        rw [none,if_neg Bool.false_ne_true,List.nil_append,squeeze_closing,squeeze_closing]
        exact congrArg (')' :: ·) after
      · have same : (pending && !inside && head != ')') = (pending && !inside) := by simp [closes]
        rw [same,squeeze_space_left fresh,squeeze_unblank unblank,after,squeeze_unblank unblank]
    · have gap : ∀ d ∈ (if pending && !inside && c != ')' then [' '] else []), isBlank d := by
        split
        · exact List.forall_mem_singleton.mpr space
        · exact List.forall_mem_nil _
      rw [replaced,replaced,squeeze_blanks _ _ gap,squeeze_blank space,squeeze_blank space]
      exact ih (fun _ => .inr rfl) later

theorem tidy_blankOut_tidy (choices : List Bool) (text : List Char) :
    tidy (blankOut choices (tidy text)) = tidy (blankOut choices text) :=
  squeeze_blankOut_squeeze (fun _ => .inl rfl) choices text

theorem tidy_tidy (text : List Char) : tidy (tidy text) = tidy text := by
  simpa only [blankOut_nil] using tidy_blankOut_tidy [] text

theorem isParenthesis_of_isPlain {c : Char} (plain : isPlain c) : isParenthesis c = false := by
  simp only [isPlain,Bool.and_eq_true,Bool.not_eq_true'] at plain
  exact plain.1

theorem suffix_afterArrow {cs rest : List Char} (found : afterArrow? cs = some rest) :
    rest <:+ cs := by
  cases cs with
  | nil => cases found
  | cons c cs =>
    simp only [afterArrow?] at found
    split at found
    · have after := List.dropWhile_suffix (· == c) (l := cs)
      split at found
      · next point =>
        cases found
        rw [point] at after
        exact ((List.suffix_cons _ _).trans after).trans (List.suffix_cons _ _)
      · cases found
    · cases found

theorem suffix_symbol {cs rest : List Char} {k : Connective}
    (found : symbol? cs = some (k,rest)) : rest <:+ cs := by
  cases cs with
  | nil => cases found
  | cons c cs =>
    simp only [symbol?] at found
    split at found
    · cases found
      split
      · exact (List.dropWhile_suffix _).trans (List.suffix_cons _ _)
      · exact List.suffix_cons _ _
    · split at found
      · obtain ⟨after,found,same⟩ := Option.map_eq_some_iff.mp found
        cases same
        exact (suffix_afterArrow found).trans (List.suffix_cons _ _)
      · obtain ⟨after,found,same⟩ := Option.map_eq_some_iff.mp found
        cases same
        exact suffix_afterArrow found

/-- Respelling a run of plain characters puts no parenthesis into it. -/
theorem bare_respell {text : List Char} (bare : ∀ c ∈ text, isParenthesis c = false) :
    ∀ c ∈ respell text, isParenthesis c = false := by
  have keyword (k : Connective) : ∀ c ∈ spaced k, isParenthesis c = false := by
    have all : (spaced k).all (!isParenthesis ·) := by cases k <;> decide
    simpa only [List.all_eq_true,Bool.not_eq_true'] using all
  have behind {text rest : List Char} (bare : ∀ c ∈ text, isParenthesis c = false)
      (suffix : rest <:+ text) : ∀ c ∈ rest, isParenthesis c = false :=
    fun c member => bare c (suffix.subset member)
  fun_induction respell text with
  | case1 => exact bare
  | case2 c cs letter word ih =>
    have letters : ∀ d ∈ word, isParenthesis d = false := by
      intro d member
      apply bare d
      rcases List.mem_cons.mp member with rfl | member
      · exact List.mem_cons_self ..
      · exact List.mem_cons_of_mem _ ((List.takeWhile_prefix _).subset member)
    have after := behind bare
      ((List.dropWhile_suffix isWordCharacter).trans (List.suffix_cons c cs))
    refine List.forall_mem_append.mpr ⟨?_,ih after⟩
    split
    · exact keyword _
    · exact letters
  | case3 c cs other k rest found ih =>
    exact List.forall_mem_append.mpr ⟨keyword k,ih (behind bare (suffix_symbol found))⟩
  | case4 c cs other none ih =>
    obtain ⟨first,bare⟩ := List.forall_mem_cons.mp bare
    exact List.forall_mem_cons.mpr ⟨first,ih bare⟩

/-- Spaces in the place of parentheses do not matter to respelling. -/
theorem respell_blankOut (choices : List Bool) (text : List Char) :
    respell (blankOut choices text) = blankOut choices (respell text) := by
  induction text using runs_ind generalizing choices with
  | nil => simp [respell,blankOut]
  | apart c rest apart ih =>
    obtain ⟨head,later,same,replaced⟩ := blankOut_cons choices c
    have apart' : isPlain head = false := by
      rcases same with rfl | rfl
      · exact apart
      · exact isPlain_space
    rw [replaced,respell_apart apart',ih,respell_apart apart,replaced]
  | run word rest some plain bounded ih =>
    have bare : ∀ c ∈ word, isParenthesis c = false :=
      fun c member => isParenthesis_of_isPlain (plain c member)
    have bounded' : Bounded (blankOut choices rest) := by
      cases rest with
      | nil => exact bounded_nil
      | cons c rest =>
        obtain ⟨head,later,same,replaced⟩ := blankOut_cons choices c
        rw [replaced]
        rcases same with rfl | rfl
        · exact bounded_cons (bounded _ rfl) _
        · exact bounded_cons isPlain_space _
    rw [blankOut_append bare,respell_append bounded',ih,respell_append bounded,
      blankOut_append (bare_respell bare)]

end Sentential.Statement
