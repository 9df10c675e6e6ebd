import Mathlib.Data.List.Perm.Subperm
import Sentential.Formula.Stored
import Sentential.Proofs.Shape

/-! Comparing shapes in memory. The search for partners tries candidates in their places and may go
back on a choice, and nodes at one address are taken to be alike unseen. It answers all the same as
comparing the formulas themselves: the search succeeds exactly when the shapes on one side occur
among those left on the other, whichever candidates were taken before, and at one address there is
one formula. -/
namespace Sentential

open Relation (ReflTransGen)

theorem pair_perm_iff {a b c d : α} : [a,b].Perm [c,d] ↔ a = c ∧ b = d ∨ a = d ∧ b = c := by
  constructor
  · intro perm
    have first : a = c ∨ a = d := by simpa using perm.subset (List.mem_cons_self ..)
    rcases first with rfl | rfl
    · exact .inl ⟨rfl,by simpa using perm⟩
    · have swapped := perm.trans (.swap ..)
      exact .inr ⟨rfl,by simpa using swapped⟩
  · rintro (⟨rfl,rfl⟩ | ⟨rfl,rfl⟩)
    · exact .refl _
    · exact .swap ..

/-- The candidates that have not been taken. -/
def remaining (candidates : List α) (taken : List Bool) : List α :=
  ((candidates.zip taken).filter (!·.2)).map (·.1)

theorem mem_remaining {candidates : List α} {taken : List Bool} {candidate : α} :
    candidate ∈ remaining candidates taken ↔
      ∃ index : Nat, candidates[index]? = some candidate ∧ taken[index]? = some false := by
  have member : candidate ∈ remaining candidates taken ↔
      (candidate,false) ∈ candidates.zip taken := by
    simp [remaining]
  simp only [member,List.mem_iff_getElem?,List.getElem?_zip_eq_some]

/-- Taking a candidate leaves the others. -/
theorem remaining_set {candidates : List α} {taken : List Bool} {candidate : α} {index : Nat}
    (there : candidates[index]? = some candidate) (free : taken[index]? = some false) :
    (remaining candidates taken).Perm
      (candidate :: remaining candidates (taken.set index true)) := by
  induction candidates generalizing taken index with
  | nil => cases there
  | cons first candidates ih =>
    cases taken with
    | nil => cases free
    | cons isTaken taken =>
      cases index with
      | zero =>
        cases there
        cases free
        simp [remaining]
      | succ index =>
        have rest := ih there free
        cases isTaken with
        | true => simpa [remaining] using rest
        | false => simpa [remaining] using (rest.cons first).trans (.swap ..)

theorem remaining_all (candidates : List α) :
    remaining candidates (candidates.map fun _ => false) = candidates := by
  induction candidates with
  | nil => rfl
  | cons candidate candidates ih => simpa [remaining] using ih

/-- The search goes on if a candidate that is left passes the test and the rest is found without
it. -/
theorem matchRemaining_cons {fits : α → Bool} {tests : List (α → Bool)} {candidates : List α}
    {taken : List Bool} :
    matchRemaining (fits :: tests) candidates taken ↔ ∃ (index : Nat) (candidate : α),
      candidates[index]? = some candidate ∧ taken[index]? = some false ∧ fits candidate ∧
        matchRemaining tests candidates (taken.set index true) := by
  rw [matchRemaining,List.any_eq_true]
  constructor
  · rintro ⟨⟨⟨candidate,isTaken⟩,index⟩,listed,found⟩
    obtain ⟨there,free⟩ := List.getElem?_zip_eq_some.mp (List.mk_mem_zipIdx_iff_getElem?.mp listed)
    simp only [Bool.and_eq_true,Bool.not_eq_true'] at found
    obtain ⟨⟨rfl,fit⟩,others⟩ := found
    exact ⟨index,candidate,there,free,fit,others⟩
  · rintro ⟨index,candidate,there,free,fit,others⟩
    refine ⟨((candidate,false),index),?_,by simp [fit,others]⟩
    exact List.mk_mem_zipIdx_iff_getElem?.mpr (List.getElem?_zip_eq_some.mpr ⟨there,free⟩)

section

variable {key : α → β} {tests : List (α → Bool)} {values : List β} {candidates : List α}

/-- The tests ask of a candidate that it has the value that stands in their place. -/
def Tests (key : α → β) (candidates : List α) : List (α → Bool) → List β → Prop :=
  List.Forall₂ fun fits value => ∀ candidate ∈ candidates, fits candidate ↔ value = key candidate

/-- The search is complete: it finds partners for all tests if the values that they ask for are among
those of the remaining candidates, each as often as it is asked for. -/
theorem matchRemaining_iff (asked : Tests key candidates tests values) {taken : List Bool} :
    matchRemaining tests candidates taken ↔
      values.Subperm ((remaining candidates taken).map key) := by
  induction asked generalizing taken with
  | nil => simp [matchRemaining]
  | @cons fits value tests values first _ ih =>
    rw [matchRemaining_cons]
    constructor
    · rintro ⟨index,candidate,there,free,fit,others⟩
      have same := (first candidate (List.mem_of_getElem? there)).mp fit
      have taking := (remaining_set there free).map key
      rw [List.map_cons,← same] at taking
      exact ((List.subperm_cons value).mpr (ih.mp others)).trans taking.symm.subperm
    · intro within
      obtain ⟨candidate,member,same⟩ := List.mem_map.mp (within.subset (List.mem_cons_self ..))
      obtain ⟨index,there,free⟩ := mem_remaining.mp member
      have taking := (remaining_set there free).map key
      rw [List.map_cons,same] at taking
      refine ⟨index,candidate,there,free,?_,?_⟩
      · exact (first candidate (List.mem_of_getElem? there)).mpr same.symm
      · exact ih.mpr ((List.subperm_cons value).mp (within.trans taking.subperm))

theorem matchOperands_iff (asked : Tests key candidates tests values) :
    matchOperands tests candidates ↔ values.Perm (candidates.map key) := by
  rw [matchOperands,Bool.and_eq_true,beq_iff_eq,matchRemaining_iff asked,remaining_all,
    asked.length_eq]
  constructor
  · rintro ⟨many,within⟩
    refine within.perm_of_length_le ?_
    rw [List.length_map,many]
  · intro perm
    exact ⟨perm.length_eq.trans (List.length_map key),perm.subperm⟩

end

namespace Stored

theorem formulaEach_eq_map (operands : List Stored) :
    formulaEach operands = operands.map formula := by
  induction operands with
  | nil => rfl
  | cons operand operands ih => rw [formulaEach,ih,List.map_cons]

/-- All nodes lie in one memory, where each address holds one formula. -/
inductive Lies (heap : Nat → Formula) : Stored → Prop where
  | intro : heap stored.address = stored.formula →
      (∀ operand ∈ stored.node.operands, Lies heap operand) → Lies heap stored

/-- One variable at address 1 may be both operands of a conjunction. -/
example : Lies (fun address => if address = 0 then .junction .and [.var "p",.var "p"] else .var "p")
    ⟨0,.junction .and [⟨1,.var "p"⟩,⟨1,.var "p"⟩]⟩ := by
  have operand : Lies (fun address => if address = 0 then .junction .and [.var "p",.var "p"]
      else .var "p") ⟨1,.var "p"⟩ := ⟨rfl,nofun⟩
  exact ⟨rfl,by simp [Formula.Node.operands,operand]⟩

variable {heap : Nat → Formula}

/-- Pairing operands off compares the shapes of both sides as multisets if the operands on both sides
are compared as they should be. -/
theorem matchOperands_tests_iff {operands others : List Stored}
    (decided : ∀ operand ∈ operands, ∀ other ∈ others,
      operand.sameShape other ↔ operand.formula.shape = other.formula.shape) :
    matchOperands (tests operands) others ↔
      ((operands.map formula).map Formula.shape).Perm ((others.map formula).map Formula.shape) := by
  have asked : Tests (Formula.shape ∘ formula) others (tests operands)
      (operands.map (Formula.shape ∘ formula)) := by
    induction operands with
    | nil => exact .nil
    | cons operand operands ih =>
      obtain ⟨first,decided⟩ := List.forall_mem_cons.mp decided
      exact .cons first (ih decided)
  rw [matchOperands_iff asked,List.map_map,List.map_map]

theorem sameNode_iff {node node' : Formula.Node Stored}
    (decided : ∀ operand ∈ node.operands, ∀ other ∈ node'.operands,
      operand.sameShape other ↔ operand.formula.shape = other.formula.shape) :
    sameNode node node' ↔ (nodeFormula node).shape = (nodeFormula node').shape := by
  have paired := matchOperands_tests_iff decided
  rw [Formula.shape_eq_iff]
  cases node <;> cases node' <;>
    simp only [sameNode,nodeFormula,Formula.outline,Formula.Node.operands,reduceCtorEq,
      Bool.false_eq_true] at decided paired ⊢
  case var.var => simp
  case neg.neg => simpa using decided
  case junction.junction => simp [formulaEach_eq_map,paired]
  case conditional.conditional left right left' right' =>
    have first := decided left (by simp) left' (by simp)
    have second := decided right (by simp) right' (by simp)
    simp [first,second]
  case biconditional.biconditional => simpa [tests,pair_perm_iff] using paired

/-- In one memory the search answers whether the formulas have one shape, unseen nodes included. -/
theorem sameShape_iff {left right : Stored} (ofLeft : Lies heap left) (ofRight : Lies heap right) :
    left.sameShape right ↔ left.formula.shape = right.formula.shape := by
  induction ofLeft generalizing right with
  | @intro left atLeft _ ih =>
    obtain ⟨atRight,within⟩ := ofRight
    have decided := sameNode_iff fun operand member other member' =>
      ih operand member (within other member')
    have shared : left.address = right.address → left.formula.shape = right.formula.shape :=
      fun same => by rw [← atLeft,← atRight,same]
    obtain ⟨address,node⟩ := left
    obtain ⟨address',node'⟩ := right
    rw [sameShape,Bool.or_eq_true,beq_iff_eq,decided]
    exact or_iff_right_of_imp shared

end Stored

namespace Formula

/-- Comparing shapes decides equality up to rearranging, so it is an equivalence. The search for
partners in memory answers the same. What has one shape has as many nodes and the same names at its
leaves, each as often. -/
theorem same_shape_exact :
    (∀ left right : Formula, left.sameShape right ↔ ReflTransGen Rearranges left right) ∧
    Equivalence (fun left right : Formula => left.sameShape right = true) ∧
    (∀ (heap : Nat → Formula) (left right : Stored), left.Lies heap → right.Lies heap →
      left.sameShape right = left.formula.sameShape right.formula) ∧
    ∀ left right : Formula, left.sameShape right →
      left.size = right.size ∧ left.leaves.Perm right.leaves := by
  refine ⟨fun _ _ => sameShape_iff.trans shape_eq_iff_rearranges,?_,?_,?_⟩
  · simp only [sameShape_iff]
    exact ⟨fun _ => rfl,.symm,.trans⟩
  · intro heap left right ofLeft ofRight
    rw [Bool.eq_iff_iff,Stored.sameShape_iff ofLeft ofRight,sameShape_iff]
  · exact fun _ _ same => size_leaves_of_shape_eq (sameShape_iff.mp same)

end Formula
end Sentential
