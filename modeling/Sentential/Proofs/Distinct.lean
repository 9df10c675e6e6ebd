import Sentential.Proofs.Representatives
import Sentential.Proofs.Variables

/-! Lists without their later repeats. Where lists are put together, it makes no difference whether
repeats are left out before or after. -/
namespace Sentential

section

variable [BEq α] [LawfulBEq α]

/-- Elements are gone through once, and each is kept unless it was kept before. -/
theorem distinct_eq_foldl (xs : List α) : distinct xs = xs.foldl (keepNew (· == ·)) [] := by
  have keyed : ∀ x y : α, (x == y) = true ↔ id x = id y := fun _ _ => beq_iff_eq
  exact distinctBy_eq_foldl keyed xs

theorem distinct_append_singleton [DecidableEq α] (xs : List α) (x : α) :
    distinct (xs ++ [x]) = if x ∈ xs then distinct xs else distinct xs ++ [x] := by
  rw [distinct,distinctBy_append_singleton]
  by_cases member : x ∈ xs
  · have seen : xs.any (· == x) := List.any_eq_true.mpr ⟨x,member,beq_self_eq_true x⟩
    rw [if_pos seen,if_pos member]
    rfl
  · have unseen : ¬xs.any (· == x) := by
      intro seen
      obtain ⟨y,inside,same⟩ := List.any_eq_true.mp seen
      exact member (eq_of_beq same ▸ inside)
    rw [if_neg unseen,if_neg member]
    rfl

/-- The first of some elements that satisfies a predicate is the first of them without repeats. -/
theorem find_distinct (p : α → Bool) (xs : List α) :
    (distinct xs).find? p = xs.find? p := by
  induction xs with
  | nil => rfl
  | cons x xs ih =>
    have unfolded : distinct (x :: xs) = x :: (distinct xs).filter fun y => !x == y := rfl
    rw [unfolded,List.find?_cons,List.find?_cons]
    cases holds : p x with
    | true => rfl
    | false =>
      have others : (fun y => (!x == y) && p y) = p := by
        funext y
        by_cases same : x = y
        · rw [← same,holds,Bool.and_false]
        · simp [same]
      rw [List.find?_filter]
      simpa [others] using ih

theorem distinct_append (xs ys : List α) :
    distinct (xs ++ ys) = ys.foldl (keepNew (· == ·)) (distinct xs) := by
  rw [distinct_eq_foldl,List.foldl_append,← distinct_eq_foldl]

theorem distinct_append_distinct [DecidableEq α] (xs ys : List α) :
    distinct (xs ++ distinct ys) = distinct (xs ++ ys) := by
  induction ys using List.reverseRecOn with
  | nil => rfl
  | append_singleton ys y ih =>
    rw [← List.append_assoc,distinct_append_singleton,distinct_append_singleton]
    by_cases repeated : y ∈ ys
    · rw [if_pos repeated,if_pos (List.mem_append_right xs repeated),ih]
    · have kept : y ∈ xs ++ distinct ys ↔ y ∈ xs ++ ys := by
        rw [List.mem_append,List.mem_append,mem_distinct]
      rw [if_neg repeated,← List.append_assoc,distinct_append_singleton,ih]
      simp only [kept]

/-- Repeats may be left out of the parts of a list first. -/
theorem distinct_flatMap_distinct [DecidableEq α] (f : β → List α) (xs : List β) :
    distinct (xs.flatMap fun x => distinct (f x)) = distinct (xs.flatMap f) := by
  induction xs using List.reverseRecOn with
  | nil => rfl
  | append_singleton xs x ih =>
    rw [List.flatMap_append,List.flatMap_append,List.flatMap_singleton,List.flatMap_singleton,
      distinct_append_distinct,distinct_append,ih,← distinct_append]

end

end Sentential
