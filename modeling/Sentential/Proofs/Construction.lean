import Sentential.Proofs.Grammar
import Sentential.Proofs.Valuation

/-! Canonical formulas are those that can be built. The constructors, compiling and reading lead to
nothing else, and neither does taking a formula apart to go on with its operands. Conversely every
canonical formula is rebuilt from its nodes, so each is reached and stays as it is. -/
namespace Sentential.Formula

/-- The formulas that there are: variables of any name, what trees and statements stand for, what
the constructors make of formulas and the operands of formulas. -/
inductive Buildable : Formula → Prop where
  | var : Buildable (.var name)
  | compiled {tree : Statement.Tree} : Buildable tree.formula
  | parsed : Statement.parse statement = .ok formula → Buildable formula
  | operand : Buildable formula → operand ∈ formula.operands → Buildable operand
  | not : Buildable operand → Buildable operand.not
  | and : Buildable left → Buildable right → Buildable (left.and right)
  | or : Buildable left → Buildable right → Buildable (left.or right)
  | xor : Buildable left → Buildable right → Buildable (left.xor right)
  | implies : Buildable left → Buildable right → Buildable (left.implies right)
  | iff : Buildable left → Buildable right → Buildable (left.iff right)

theorem Canonical.operand {formula operand : Formula} (canonical : formula.Canonical)
    (member : operand ∈ formula.operands) : operand.Canonical := by
  cases canonical with
  | var => cases member
  | neg canonical _ =>
    rw [List.mem_singleton.mp member]
    exact canonical
  | junction _ canonical _ => exact canonical operand member
  | conditional left right =>
    have sides := List.forall_mem_cons.mpr ⟨left,List.forall_mem_singleton.mpr right⟩
    exact sides operand member
  | biconditional left right =>
    have sides := List.forall_mem_cons.mpr ⟨left,List.forall_mem_singleton.mpr right⟩
    exact sides operand member

theorem Buildable.canonical {formula : Formula} (buildable : Buildable formula) :
    formula.Canonical := by
  induction buildable with
  | var => exact .var
  | compiled => exact Statement.Tree.canonical_formula _
  | parsed accepted =>
    obtain ⟨tree,-,same⟩ := bind_eq_ok.mp accepted
    cases same
    exact tree.canonical_formula
  | operand _ member ih => exact ih.operand member
  | not _ ih => exact ih.not
  | and _ _ ihLeft ihRight => exact ihLeft.join ihRight .and
  | or _ _ ihLeft ihRight => exact ihLeft.join ihRight .or
  | xor _ _ ihLeft ihRight => exact ihLeft.join ihRight .xor
  | implies _ _ ihLeft ihRight => exact .conditional ihLeft ihRight
  | iff _ _ ihLeft ihRight => exact .biconditional ihLeft ihRight

theorem Buildable.join {left right : Formula} (buildableLeft : Buildable left)
    (buildableRight : Buildable right) (kind : Junction) : Buildable (join kind left right) := by
  cases kind with
  | and => exact .and buildableLeft buildableRight
  | or => exact .or buildableLeft buildableRight
  | xor => exact .xor buildableLeft buildableRight

/-- The junction of two formulas that were both made. -/
def joinBoth (kind : Junction) (left right : Option Formula) : Option Formula := do
  return join kind (← left) (← right)

/-- What the constructors make of a node whose operands are made already. The operands of a junction
are joined from left to right; without any there is nothing to join. -/
def Node.rebuild? : Node (Option Formula) → Option Formula
  | .var name => some (.var name)
  | .neg operand => do return (← operand).not
  | .junction _ [] => none
  | .junction kind (first :: others) => others.foldl (joinBoth kind) first
  | .conditional left right => do return (← left).implies (← right)
  | .biconditional left right => do return (← left).iff (← right)

/-- Joining formulas one by one makes one junction of all that they contribute. -/
theorem foldl_join (kind : Junction) (first second : Formula) (others : List Formula) :
    others.foldl (join kind) (join kind first second) =
      .junction kind ((first :: second :: others).flatMap (spliced kind)) := by
  induction others generalizing first second with
  | nil => simp [join]
  | cons third others ih =>
    rw [List.foldl_cons,ih]
    simp [spliced_join]

theorem foldl_joinBoth (kind : Junction) (first : Formula) (others : List Formula) :
    (others.map some).foldl (joinBoth kind) (some first) = some (others.foldl (join kind) first) := by
  induction others generalizing first with
  | nil => rfl
  | cons second others ih => exact ih (join kind first second)

/-- Every canonical formula is what the constructors make of its nodes. -/
theorem Canonical.rebuild {formula : Formula} (canonical : formula.Canonical) :
    formula.fold Node.rebuild? = some formula := by
  induction canonical with
  | var => rfl
  | neg _ other ih =>
    rw [fold,ih]
    exact congrArg some (not_eq_neg other)
  | @junction kind operands many _ apart ih =>
    have alone : operands.flatMap (Formula.spliced kind) = operands := by
      have single : ∀ operand ∈ operands, operand.spliced kind = [operand] :=
        fun operand member => spliced_of_ne (apart operand member)
      rw [List.flatMap_congr single]
      exact List.flatMap_singleton' operands
    rw [fold,foldEach_eq_map,List.map_congr_left ih]
    cases operands with
    | nil => simp at many
    | cons first others =>
      cases others with
      | nil => simp at many
      | cons second others =>
        show ((second :: others).map some).foldl (joinBoth kind) (some first) = _
        rw [foldl_joinBoth,List.foldl_cons,foldl_join,alone]
  | conditional _ _ ihLeft ihRight =>
    rw [fold,ihLeft,ihRight]
    rfl
  | biconditional _ _ ihLeft ihRight =>
    rw [fold,ihLeft,ihRight]
    rfl

theorem Buildable.foldl_joinBoth {kind : Junction} {first : Option Formula}
    {others : List (Option Formula)} {formula : Formula}
    (buildable : ∀ made ∈ first :: others, ∀ operand ∈ made, Buildable operand)
    (joined : others.foldl (joinBoth kind) first = some formula) : Buildable formula := by
  induction others generalizing first with
  | nil => exact buildable first (List.mem_cons_self ..) formula joined
  | cons second others ih =>
    obtain ⟨ofFirst,ofOthers⟩ := List.forall_mem_cons.mp buildable
    obtain ⟨ofSecond,ofOthers⟩ := List.forall_mem_cons.mp ofOthers
    refine ih (List.forall_mem_cons.mpr ⟨?_,ofOthers⟩) joined
    intro both made
    simp only [joinBoth,Option.mem_def,Option.bind_eq_bind,Option.bind_eq_some_iff,
      Option.pure_def,Option.some.injEq] at made
    obtain ⟨left,madeLeft,right,madeRight,rfl⟩ := made
    exact (ofFirst left madeLeft).join (ofSecond right madeRight) kind

/-- What is rebuilt from the nodes of any formula is buildable. -/
theorem buildable_of_rebuild {formula rebuilt : Formula}
    (made : formula.fold Node.rebuild? = some rebuilt) : Buildable rebuilt := by
  induction formula using ind generalizing rebuilt with
  | var name =>
    cases made
    exact .var
  | neg operand ih =>
    obtain ⟨inner,madeInner,same⟩ := Option.bind_eq_some_iff.mp made
    cases same
    exact (ih madeInner).not
  | junction kind operands ih =>
    rw [fold,foldEach_eq_map] at made
    cases operands with
    | nil => cases made
    | cons first others =>
      have buildable : ∀ made ∈ (first :: others).map (fold Node.rebuild?), ∀ operand ∈ made,
          Buildable operand :=
        List.forall_mem_map.mpr fun operand member _ found => ih operand member found
      rw [List.map_cons] at buildable made
      exact .foldl_joinBoth buildable made
  | conditional left right ihLeft ihRight =>
    obtain ⟨one,madeLeft,made⟩ := Option.bind_eq_some_iff.mp made
    obtain ⟨other,madeRight,same⟩ := Option.bind_eq_some_iff.mp made
    cases same
    exact (ihLeft madeLeft).implies (ihRight madeRight)
  | biconditional left right ihLeft ihRight =>
    obtain ⟨one,madeLeft,made⟩ := Option.bind_eq_some_iff.mp made
    obtain ⟨other,madeRight,same⟩ := Option.bind_eq_some_iff.mp made
    cases same
    exact (ihLeft madeLeft).iff (ihRight madeRight)

/-- The formulas that can be built are the canonical ones, and these are the ones that rebuilding
from their nodes leaves as they are. -/
theorem canonical_exact (formula : Formula) :
    (Buildable formula ↔ formula.Canonical) ∧
      (formula.Canonical ↔ formula.fold Node.rebuild? = some formula) := by
  refine ⟨⟨Buildable.canonical,fun canonical => ?_⟩,⟨Canonical.rebuild,fun same => ?_⟩⟩
  · exact buildable_of_rebuild canonical.rebuild
  · exact (buildable_of_rebuild same).canonical

end Sentential.Formula
