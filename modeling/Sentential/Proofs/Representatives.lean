import Sentential.Proofs.Constituents

/-! Constituents stand for all subformulas. Subformulas are gone through with operands before the
formula they are in, and the first of each shape is kept. An operand of what is kept need not be kept
itself, but then another formula of its shape came before it and was. -/
namespace Sentential

open Relation (ReflTransGen)

/-- Keeps an element unless it is the same as one that was kept. -/
def keepNew (same : α → α → Bool) (kept : List α) (x : α) : List α :=
  if kept.any (same · x) then kept else kept ++ [x]

/-- An element stands at this place that none before it is the same as. -/
def FirstAt (same : α → α → Bool) (xs : List α) (place : Nat) : Prop :=
  ∃ x, xs[place]? = some x ∧ ∀ earlier ∈ xs.take place, same earlier x = false

section

variable {same : α → α → Bool} {xs : List α} {x : α} {place : Nat}

theorem FirstAt.lt (first : FirstAt same xs place) : place < xs.length := by
  obtain ⟨x,found,-⟩ := first
  exact (List.getElem?_eq_some_iff.mp found).1

theorem FirstAt.append (first : FirstAt same xs place) (ys : List α) :
    FirstAt same (xs ++ ys) place := by
  have inside := first.lt
  obtain ⟨x,found,fresh⟩ := first
  refine ⟨x,?_,?_⟩
  · rw [List.getElem?_append_left inside,found]
  · rwa [List.take_append_of_le_length (Nat.le_of_lt inside)]

theorem pairwise_distinctBy (same : α → α → Bool) (xs : List α) :
    (distinctBy same xs).Pairwise fun x y => same x y = false := by
  induction xs with
  | nil => exact .nil
  | cons x xs ih =>
    refine .cons ?_ (ih.filter _)
    intro y kept
    simpa using (List.mem_filter.mp kept).2

/-- What is kept stands at first places, in their order. -/
theorem exists_places_distinctBy (same : α → α → Bool) (xs : List α) :
    ∃ places : List Nat, places.Pairwise (· < ·) ∧
      (distinctBy same xs).map some = places.map (xs[·]?) ∧
      ∀ place ∈ places, FirstAt same xs place := by
  induction xs using List.reverseRecOn with
  | nil => exact ⟨[],.nil,rfl,nofun⟩
  | append_singleton xs x ih =>
    obtain ⟨places,ascending,kept,first⟩ := ih
    have found : (distinctBy same xs).map some = places.map ((xs ++ [x])[·]?) := by
      rw [kept]
      apply List.map_congr_left
      intro place member
      exact (List.getElem?_append_left (first place member).lt).symm
    have first' : ∀ place ∈ places, FirstAt same (xs ++ [x]) place :=
      fun place member => (first place member).append [x]
    rw [distinctBy_append_singleton]
    split
    · exact ⟨places,ascending,found,first'⟩
    · next fresh =>
      rw [Bool.not_eq_true,List.any_eq_false] at fresh
      simp only [Bool.not_eq_true] at fresh
      have last : FirstAt same (xs ++ [x]) xs.length :=
        ⟨x,List.getElem?_concat_length,by rwa [List.take_left]⟩
      refine ⟨places ++ [xs.length],?_,?_,?_⟩
      · rw [List.pairwise_append]
        refine ⟨ascending,List.pairwise_singleton ..,?_⟩
        intro place member behind inside
        rw [List.mem_singleton.mp inside]
        exact (first place member).lt
      · rw [List.map_append,List.map_append,found,List.map_singleton,List.map_singleton,
          List.getElem?_concat_length]
      · exact List.forall_mem_append.mpr ⟨first',List.forall_mem_singleton.mpr last⟩

/-- A list is cut at its last element or before it. -/
theorem split_of_append_singleton {before after : List α} {last : α}
    (split : xs ++ [last] = before ++ x :: after) :
    xs = before ∧ last = x ∨ ∃ between, xs = before ++ x :: between := by
  rcases List.eq_nil_or_concat after with rfl | ⟨between,other,rfl⟩
  · obtain ⟨same,ends⟩ := List.append_inj' split rfl
    exact .inl ⟨same,List.singleton_inj.mp ends⟩
  · have moved : xs ++ [last] = (before ++ x :: between) ++ [other] := by
      simpa using split
    exact .inr ⟨between,(List.append_inj' moved rfl).1⟩

/-- Where an element is kept, what was kept before it is what the elements before it leave. -/
theorem exists_split_distinctBy {before after : List α}
    (split : distinctBy same xs = before ++ x :: after) :
    ∃ earlier later, xs = earlier ++ x :: later ∧ before = distinctBy same earlier := by
  induction xs using List.reverseRecOn generalizing after with
  | nil => simp [distinctBy] at split
  | append_singleton xs y ih =>
    rw [distinctBy_append_singleton] at split
    have shorter {after : List α} (split : distinctBy same xs = before ++ x :: after) :
        ∃ earlier later, xs ++ [y] = earlier ++ x :: later ∧ before = distinctBy same earlier := by
      obtain ⟨earlier,later,rfl,left⟩ := ih split
      exact ⟨earlier,later ++ [y],by simp,left⟩
    split at split
    · exact shorter split
    · rcases split_of_append_singleton split with ⟨left,rfl⟩ | ⟨between,left⟩
      · exact ⟨xs,[],rfl,left.symm⟩
      · exact shorter left

section

variable {key : α → β} (keyed : ∀ x y, same x y ↔ key x = key y)
include keyed

/-- An element is the same as one that was kept if and only if it is the same as any before it. -/
theorem keepNew_distinctBy (xs : List α) (x : α) :
    keepNew same (distinctBy same xs) x = distinctBy same (xs ++ [x]) := by
  have seen : (distinctBy same xs).any (same · x) = xs.any (same · x) := by
    rw [Bool.eq_iff_iff,List.any_eq_true,List.any_eq_true]
    constructor
    · rintro ⟨kept,member,stands⟩
      exact ⟨kept,(distinctBy_sublist same xs).subset member,stands⟩
    · rintro ⟨earlier,member,stands⟩
      obtain ⟨kept,listed,alike⟩ := exists_mem_distinctBy keyed member
      exact ⟨kept,listed,(keyed _ _).mpr (alike.trans ((keyed _ _).mp stands))⟩
  rw [keepNew,seen,distinctBy_append_singleton]

theorem distinctBy_eq_foldl (xs : List α) : distinctBy same xs = xs.foldl (keepNew same) [] := by
  induction xs using List.reverseRecOn with
  | nil => rfl
  | append_singleton xs x ih =>
    rw [List.foldl_append,← ih,List.foldl_cons,List.foldl_nil,keepNew_distinctBy keyed]

/-- Of what is kept exactly one is the same as a given element. -/
theorem countP_distinctBy (member : x ∈ xs) : (distinctBy same xs).countP (same x) = 1 := by
  obtain ⟨kept,listed,alike⟩ := exists_mem_distinctBy keyed member
  obtain ⟨before,after,split⟩ := List.append_of_mem listed
  have apart := pairwise_distinctBy same xs
  rw [split,List.pairwise_append,List.pairwise_cons] at apart
  obtain ⟨-,⟨behind,-⟩,ahead⟩ := apart
  have noneBefore : before.countP (same x) = 0 := by
    rw [List.countP_eq_zero]
    intro other inside stands
    have differs := ahead other inside kept (List.mem_cons_self ..)
    rw [← Bool.not_eq_true,keyed] at differs
    exact differs (((keyed _ _).mp stands).symm.trans alike.symm)
  have noneAfter : after.countP (same x) = 0 := by
    rw [List.countP_eq_zero]
    intro other inside stands
    have differs := behind other inside
    rw [← Bool.not_eq_true,keyed] at differs
    exact differs (alike.trans ((keyed _ _).mp stands))
  rw [split,List.countP_append,List.countP_cons_of_pos ((keyed _ _).mpr alike.symm),noneBefore,
    noneAfter]

end

theorem exists_split_flatMap {f : β → List α} {parts : List β} {earlier later : List α}
    (split : parts.flatMap f = earlier ++ x :: later) :
    ∃ part ∈ parts, ∃ before after, f part = before ++ x :: after ∧ before ⊆ earlier := by
  induction parts generalizing earlier with
  | nil => simp at split
  | cons part parts ih =>
    have further {earlier' : List α} (split : parts.flatMap f = earlier' ++ x :: later)
        (within : earlier' ⊆ earlier) : ∃ part' ∈ part :: parts, ∃ before after,
          f part' = before ++ x :: after ∧ before ⊆ earlier := by
      obtain ⟨part',member,before,after,found,inside⟩ := ih split
      exact ⟨part',List.mem_cons_of_mem _ member,before,after,found,List.Subset.trans inside within⟩
    rw [List.flatMap_cons] at split
    rcases List.append_eq_append_iff.mp split with ⟨between,rfl,others⟩ | ⟨more,whole,others⟩
    · exact further others (List.subset_append_right ..)
    · cases more with
      | nil =>
        have behind : parts.flatMap f = [] ++ x :: later := others.symm
        exact further behind (List.nil_subset _)
      | cons y more =>
        obtain ⟨rfl,-⟩ := List.cons_eq_cons.mp others
        exact ⟨part,List.mem_cons_self ..,earlier,more,whole,List.Subset.refl _⟩

end

namespace Formula

/-- The subformulas are what is reached by going from a formula to an operand any number of times. -/
theorem mem_subformulas_iff_reachable {formula within : Formula} :
    within ∈ formula.subformulas ↔
      ReflTransGen (fun whole part => part ∈ whole.operands) formula within := by
  induction formula using operandsInd with
  | step formula ih =>
    rw [mem_subformulas,ReflTransGen.cases_head_iff,eq_comm]
    apply or_congr_right
    apply exists_congr
    intro operand
    exact and_congr_right (ih operand)

/-- The operands of a subformula come before it. -/
theorem operand_mem_of_split {formula entry operand : Formula} {earlier later : List Formula}
    (split : formula.subformulas = earlier ++ entry :: later)
    (operandOf : operand ∈ entry.operands) : operand ∈ earlier := by
  induction formula using operandsInd generalizing earlier later with
  | step formula ih =>
    rw [subformulas_eq] at split
    rcases split_of_append_singleton split with ⟨rfl,rfl⟩ | ⟨between,within⟩
    · exact List.mem_flatMap.mpr ⟨operand,operandOf,mem_subformulas.mpr (.inl rfl)⟩
    · obtain ⟨part,partOf,before,after,found,inside⟩ := exists_split_flatMap within
      exact inside (ih part partOf found)

/-- The constituents are kept one by one as subformulas come whose shape is new. No two of them have
one shape, and of every formula within there is exactly one of its shape. They stand at first places
of their shapes, in the order of places; an operand of one has the shape of one before it; and the
last is the formula itself. -/
theorem constituents_exact (formula : Formula) :
    formula.constituents = formula.subformulas.foldl (keepNew sameShape) [] ∧
    formula.constituents.Pairwise (fun entry later => ¬entry.sameShape later) ∧
    (∀ within, ReflTransGen (fun whole part => part ∈ whole.operands) formula within →
      formula.constituents.countP within.sameShape = 1) ∧
    (∃ places : List Nat, places.Pairwise (· < ·) ∧
      formula.constituents.map some = places.map (formula.subformulas[·]?) ∧
      ∀ place ∈ places, FirstAt sameShape formula.subformulas place) ∧
    (∀ before entry after, formula.constituents = before ++ entry :: after →
      ∀ operand ∈ entry.operands, ∃ earlier ∈ before, operand.sameShape earlier) ∧
    formula.constituents.getLast? = some formula := by
  have keyed (left right : Formula) : left.sameShape right ↔ left.shape = right.shape :=
    sameShape_iff
  refine ⟨distinctBy_eq_foldl keyed _,?_,?_,exists_places_distinctBy ..,?_,?_⟩
  · simp only [Bool.not_eq_true]
    exact pairwise_distinctBy sameShape formula.subformulas
  · intro within reachable
    exact countP_distinctBy keyed (mem_subformulas_iff_reachable.mpr reachable)
  · intro before entry after split operand operandOf
    obtain ⟨earlier,later,whole,rfl⟩ := exists_split_distinctBy split
    obtain ⟨kept,listed,alike⟩ :=
      exists_mem_distinctBy keyed (operand_mem_of_split whole operandOf)
    exact ⟨kept,listed,(keyed _ _).mpr alike.symm⟩
  · rw [constituents_eq,List.getLast?_concat]

end Formula
end Sentential
