import Sentential.Proofs.Spacing

/-! The passes of normalizing, each over the whole text that the pass before has left. First each run of
blanks becomes one space. Then the connectives are respelled, one in each pass. Then blanks are tidied,
also in several passes, and last redundant parentheses are taken off. -/
namespace Sentential.Statement

open Text

/-- Drops the blanks that follow an opening parenthesis. `opened` says that the text follows one, or
blanks behind it. -/
def dropOpened (opened : Bool) : List Char → List Char
  | [] => []
  | c :: cs =>
    if opened && isBlank c then dropOpened true cs
    else c :: dropOpened (c == '(') cs

/-- Drops the blanks before a closing parenthesis. -/
def dropClosing : List Char → List Char
  | [] => []
  | c :: cs =>
    if isBlank c && (trimStart cs).head? == some ')' then dropClosing cs
    else c :: dropClosing cs

theorem dropOpened_unblank {c : Char} (unblank : isBlank c = false) (opened : Bool)
    (cs : List Char) : dropOpened opened (c :: cs) = c :: dropOpened (c == '(') cs := by
  rw [dropOpened,unblank,Bool.and_false,if_neg Bool.false_ne_true]

theorem dropClosing_unblank {c : Char} (unblank : isBlank c = false) (cs : List Char) :
    dropClosing (c :: cs) = c :: dropClosing cs := by
  rw [dropClosing,unblank,Bool.false_and,if_neg Bool.false_ne_true]

theorem trimStart_blank {c : Char} (blank : isBlank c) (cs : List Char) :
    trimStart (c :: cs) = trimStart cs := List.dropWhile_cons_of_pos blank

theorem trimStart_unblank {c : Char} (unblank : isBlank c = false) (cs : List Char) :
    trimStart (c :: cs) = c :: cs := List.dropWhile_cons_of_neg (by simp [unblank])

theorem dropClosing_space {c : Char} (unblank : isBlank c = false) (cs : List Char) :
    dropClosing (' ' :: c :: cs) = (if c != ')' then [' '] else []) ++ dropClosing (c :: cs) := by
  have space : isBlank ' ' := by decide
  rw [dropClosing,trimStart_unblank unblank,space,Bool.true_and,List.head?_cons]
  by_cases closes : c = ')' <;> simp [closes]

/-- At the end of a text blanks are dropped, but none before another character. -/
theorem trimEnd_append_unblank {c : Char} (unblank : isBlank c = false) (before after : List Char) :
    trimEnd (before ++ c :: after) = before ++ c :: trimEnd after := by
  have stays : trimStart (c :: before.reverse) = c :: before.reverse := trimStart_unblank unblank _
  have turned : (before ++ c :: after).reverse = after.reverse ++ c :: before.reverse := by simp
  rw [trimEnd,trimEnd,turned,trimStart,List.dropWhile_append]
  split
  · next all =>
    rw [trimStart] at stays
    rw [stays,trimStart,List.isEmpty_iff.mp all]
    simp
  · rw [trimStart]
    simp

/-- Blanks at the start may be dropped like those behind an opening parenthesis. -/
theorem trimStart_dropOpened (text : List Char) :
    trimStart (dropOpened false text) = dropOpened true text := by
  induction text with
  | nil => rfl
  | cons c cs ih =>
    by_cases blank : isBlank c
    · have other : (c == '(') = false := beq_false_of_ne (ne_parenthesis_of_blank blank).1
      rw [dropOpened,dropOpened,blank,other,← ih]
      exact trimStart_blank blank _
    · have unblank : isBlank c = false := by simpa using blank
      rw [dropOpened_unblank unblank,dropOpened_unblank unblank,trimStart_unblank unblank]

theorem trimStart_dropClosing (text : List Char) :
    trimStart (dropClosing text) = dropClosing (trimStart text) := by
  induction text with
  | nil => rfl
  | cons c cs ih =>
    by_cases blank : isBlank c
    · rw [trimStart_blank blank,dropClosing]
      split
      · exact ih
      · rw [trimStart_blank blank,ih]
    · have unblank : isBlank c = false := by simpa using blank
      rw [dropClosing_unblank unblank,trimStart_unblank unblank,trimStart_unblank unblank,
        dropClosing_unblank unblank]

/-- One look at each character does what the passes do. The space that stands for the blanks before a
character is dropped by the pass behind parentheses, by the one before them or by the last. -/
theorem squeeze_eq_passes (inside pending : Bool) (text : List Char) :
    squeeze inside pending text = trimEnd (dropClosing
      ((if pending && !inside then [' '] else []) ++ dropOpened inside (collapse pending text))) := by
  have space : isBlank ' ' := by decide
  induction text generalizing inside pending with
  | nil => cases inside <;> cases pending <;> decide
  | cons c cs ih =>
    by_cases blank : isBlank c
    · rw [squeeze_blank blank,ih inside true,collapse,if_pos blank]
      cases pending with
      | true => rfl
      | false => cases inside <;> simp [dropOpened,space]
    · have unblank : isBlank c = false := by simpa using blank
      have later : squeeze (c == '(') false cs =
          trimEnd (dropClosing (dropOpened (c == '(') (collapse false cs))) := ih _ false
      rw [squeeze_unblank unblank,later,collapse,if_neg blank,dropOpened_unblank unblank,
        ← trimEnd_append_unblank unblank,← dropClosing_unblank unblank]
      -- a space that waits for the character is dropped only if it closes a group
      cases pending && !inside with
      | false => rfl
      | true =>
        rw [if_pos rfl,List.singleton_append,dropClosing_space unblank,Bool.true_and]

/-- Tidying is collapsing the blanks, dropping those inside of parentheses and trimming. -/
theorem tidy_eq_passes (text : List Char) :
    tidy text = trimEnd (trimStart (dropClosing (dropOpened false (collapse false text)))) := by
  rw [trimStart_dropClosing,trimStart_dropOpened]
  exact squeeze_eq_passes true false text

/-- Normalizing is done pass by pass, with the connectives in any order in which `iff` comes before
`->`. That blanks are collapsed before the first of them is respelled changes nothing, as they are
tidied after the last. -/
theorem normalChars_eq_passes {order : List Connective} (distinct : order.Nodup)
    (complete : ∀ k, k ∈ order) (arrows : order.idxOf .iff < order.idxOf .implies)
    (text : List Char) :
    normalChars text = unwrapAll (tidy
      (order.foldl (fun text k => respellOnly (· = k) text) (collapse false text))) := by
  rw [substitutions_eq_respell distinct complete arrows,tidy_respell_collapse,normalChars]

example (text : List Char) : normalChars text = unwrapAll (tidy
    ([.not,.and,.iff,.implies,.xor,.or].foldl (fun text k => respellOnly (· = k) text)
      (collapse false text))) := by
  apply normalChars_eq_passes (by decide)
  · intro k
    cases k <;> decide
  · decide

end Sentential.Statement
