import Mathlib.Data.List.TakeWhile
import Sentential.Statement.Normal

/-! How the classes of characters lie to each other: blanks, parentheses, parts of names, word
characters and signs. Scanning rests on these classes being apart. -/
namespace Sentential.Text

theorem toNat_of_isAlphanum {c : Char} (alphanumeric : c.isAlphanum) :
    48 ≤ c.toNat ∧ c.toNat ≤ 122 := by
  have value : c.val.toNat = c.toNat := rfl
  have ranges : (decide (65 ≤ c.val ∧ c.val ≤ 90) || (97 ≤ c.val && c.val ≤ 122) ||
      (48 ≤ c.val && c.val ≤ 57)) = true :=
    alphanumeric
  simp [UInt32.le_iff_toNat_le,value] at ranges
  omega

theorem toNat_of_isBlank {c : Char} (blank : isBlank c) : c.toNat ≤ 32 ∨ 133 ≤ c.toNat := by
  simp [isBlank,blanks,CodePoints.contains] at blank
  omega

/-- A run of characters that what follows does not prolong is taken whole. -/
theorem takeWhile_of_ends {p : Char → Bool} {run rest : List Char} (within : ∀ c ∈ run, p c)
    (ends : ∀ c ∈ rest.head?, p c = false) :
    (run ++ rest).takeWhile p = run ∧ (run ++ rest).dropWhile p = rest := by
  rw [List.takeWhile_append_of_pos within,List.dropWhile_append_of_pos within]
  cases rest with
  | nil => simp
  | cons c rest =>
    have other : p c = false := ends c rfl
    simp [other]

/-- A text is what trimming leaves of it and the blanks that trimming takes. -/
theorem exists_trimEnd (text : List Char) :
    ∃ gap, (∀ c ∈ gap, isBlank c) ∧ text = trimEnd text ++ gap := by
  refine ⟨(text.reverse.takeWhile isBlank).reverse,fun c member => ?_,?_⟩
  · exact List.mem_takeWhile_imp (List.mem_reverse.mp member)
  · rw [trimEnd,trimStart,← List.reverse_append,List.takeWhile_append_dropWhile,
      List.reverse_reverse]

/-- Whether no ranges of two sets of code points meet. -/
def CodePoints.areApart (points others : CodePoints) : Bool :=
  points.all fun range => others.all fun other => range.2 < other.1 || other.2 < range.1

theorem CodePoints.contains_of_apart {points others : CodePoints} {c : Char}
    (apart : points.areApart others) (within : points.contains c) : others.contains c = false := by
  rw [← Bool.not_eq_true]
  intro within'
  obtain ⟨range,member,bounds⟩ := List.any_eq_true.mp within
  obtain ⟨other,member',bounds'⟩ := List.any_eq_true.mp within'
  have sides := List.all_eq_true.mp (List.all_eq_true.mp apart range member) other member'
  simp only [Bool.and_eq_true,Bool.or_eq_true,decide_eq_true_eq] at bounds bounds' sides
  omega

theorem blanks_apart_words : blanks.areApart wordBeyondAscii := by
  decide +kernel

theorem isBlank_of_isWordCharacter {c : Char} (word : isWordCharacter c) : isBlank c = false := by
  rw [← Bool.not_eq_true]
  intro blank
  have bounds := toNat_of_isBlank blank
  rw [isWordCharacter] at word
  split at word
  · rcases Bool.or_eq_true_iff.mp word with alphanumeric | underscore
    · have := toNat_of_isAlphanum alphanumeric
      omega
    · obtain rfl := beq_iff_eq.mp underscore
      exact absurd blank (by decide)
  · rw [CodePoints.contains_of_apart blanks_apart_words blank] at word
    cases word

theorem isPart_of_isStart {c : Char} (start : Name.isStart c) : Name.isPart c := by
  rcases Bool.or_eq_true_iff.mp start with letter | underscore
  · simp [Name.isPart,Char.isAlphanum,letter]
  · simp [Name.isPart,underscore]

theorem toNat_of_isPart {c : Char} (part : Name.isPart c) : 48 ≤ c.toNat ∧ c.toNat ≤ 122 := by
  rcases Bool.or_eq_true_iff.mp part with alphanumeric | underscore
  · exact toNat_of_isAlphanum alphanumeric
  · obtain rfl := beq_iff_eq.mp underscore
    decide

theorem isWordCharacter_of_isPart {c : Char} (part : Name.isPart c) : isWordCharacter c := by
  have := toNat_of_isPart part
  have ascii : c.toNat < 0x80 := by omega
  rw [isWordCharacter,if_pos ascii]
  exact part

end Sentential.Text

namespace Sentential

open Text

namespace Name

/-- A valid name begins with a letter or an underscore and goes on with parts of names. -/
theorem toList_of_isValid {name : String} (valid : isValid name) :
    ∃ first letters, name.toList = first :: letters ∧ isStart first ∧ ∀ c ∈ letters, isPart c := by
  rw [isValid] at valid
  split at valid
  · cases valid
  · next first letters spelled =>
    simp only [Bool.and_eq_true,List.all_eq_true] at valid
    exact ⟨first,letters,spelled,valid.1.1,valid.1.2⟩

/-- Valid names are words of the characters that names are made of. -/
theorem chars_of_isValid {name : List Char} (valid : isValid (String.ofList name)) :
    name ≠ [] ∧ ∀ c ∈ name, isPart c := by
  obtain ⟨first,letters,spelled,start,parts⟩ := toList_of_isValid valid
  rw [String.toList_ofList] at spelled
  rw [spelled]
  exact ⟨List.cons_ne_nil _ _,List.forall_mem_cons.mpr ⟨isPart_of_isStart start,parts⟩⟩

theorem isPart_of_mem {name : String} (valid : isValid name) {c : Char} (member : c ∈ name.toList) :
    isPart c := by
  have spelled : isValid (.ofList name.toList) := by simpa using valid
  exact (chars_of_isValid spelled).2 c member

end Name
end Sentential
