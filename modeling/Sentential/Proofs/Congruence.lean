import Sentential.Proofs.Construction
import Sentential.Proofs.Shape

/-! The constructors on shapes. They are not free: a negation may be unwrapped and a side of a junction
may be spliced in. Which of these happens shows at the root, where formulas of one shape agree, and
the operands spliced in are the same up to order and shape. So the constructors respect shapes. -/
namespace Sentential.Formula

variable {x x' y y' : Formula}

theorem connective_of_shape_eq (same : x.shape = x'.shape) : x.connective? = x'.connective? := by
  have outlines := shape_eq_iff.mp same
  cases x <;> cases x' <;> simp_all [outline,connective?]

theorem Canonical.not_not (canonical : x.Canonical) : x.not.not = x := by
  cases canonical with
  | neg _ other => exact not_eq_neg other
  | var => rfl
  | junction => rfl
  | conditional => rfl
  | biconditional => rfl

theorem shape_not (same : x.shape = x'.shape) : x.not.shape = x'.not.shape := by
  have roots := connective_of_shape_eq same
  by_cases negated : x.connective? = some .not
  · obtain ⟨operand,rfl⟩ := exists_neg_of_connective negated
    obtain ⟨operand',rfl⟩ := exists_neg_of_connective (roots.symm.trans negated)
    exact Outline.neg.inj (shape_eq_iff.mp same)
  · rw [not_eq_neg negated,not_eq_neg (roots ▸ negated)]
    exact shape_neg same

/-- Formulas of one shape contribute the same shapes to a junction, in some order. -/
theorem shapes_spliced (kind : Junction) (same : x.shape = x'.shape) :
    ((x.spliced kind).map shape).Perm ((x'.spliced kind).map shape) := by
  have roots := connective_of_shape_eq same
  by_cases alike : x.connective? = some kind.connective
  · obtain ⟨operands,rfl⟩ := exists_junction_of_connective alike
    obtain ⟨operands',rfl⟩ := exists_junction_of_connective (roots.symm.trans alike)
    rw [spliced_junction,spliced_junction]
    exact Multiset.coe_eq_coe.mp (Outline.junction.inj (shape_eq_iff.mp same)).2
  · rw [spliced_of_ne alike,spliced_of_ne (roots ▸ alike),List.map_singleton,List.map_singleton,
      same]

theorem shape_join (kind : Junction) (ofX : x.shape = x'.shape) (ofY : y.shape = y'.shape) :
    (join kind x y).shape = (join kind x' y').shape := by
  apply shape_junction
  rw [List.map_append,List.map_append]
  exact (shapes_spliced kind ofX).append (shapes_spliced kind ofY)

theorem shape_join_comm (kind : Junction) (x y : Formula) :
    (join kind x y).shape = (join kind y x).shape :=
  (Rearranges.permute List.perm_append_comm).shape_eq

/-- What a binary connective makes of two sides has its shape from theirs. -/
theorem shape_combine {k : Connective} (binary : k ≠ .not) (ofX : x.shape = x'.shape)
    (ofY : y.shape = y'.shape) : (combine k x y).shape = (combine k x' y').shape := by
  cases k with
  | not => exact absurd rfl binary
  | and => exact shape_join .and ofX ofY
  | or => exact shape_join .or ofX ofY
  | xor => exact shape_join .xor ofX ofY
  | implies => exact shape_conditional ofX ofY
  | iff => exact shape_biconditional ofX ofY

theorem shape_combine_comm {k : Connective} (commutative : k.isCommutative) (x y : Formula) :
    (combine k x y).shape = (combine k y x).shape := by
  cases k with
  | not => cases commutative
  | and => exact shape_join_comm .and x y
  | or => exact shape_join_comm .or x y
  | xor => exact shape_join_comm .xor x y
  | implies => cases commutative
  | iff => exact Rearranges.exchange.shape_eq

/-- The constructors act on shapes. Grouping an associative connective one way or the other makes the
same formula, whatever is spliced; exchanging the sides of a commutative one keeps the shape; negating
a formula twice gives it back; and what any constructor makes of formulas has its shape from theirs. -/
theorem constructors_shape :
    (∀ k : Connective, k.isAssociative → ∀ x y z : Formula,
      combine k (combine k x y) z = combine k x (combine k y z)) ∧
    (∀ k : Connective, k.isCommutative → ∀ x y : Formula,
      (combine k x y).sameShape (combine k y x)) ∧
    (∀ x : Formula, Buildable x → x.not.not = x) ∧
    (∀ x x' : Formula, x.sameShape x' → x.not.sameShape x'.not) ∧
    ∀ k : Connective, k ≠ .not → ∀ x x' y y' : Formula, x.sameShape x' → y.sameShape y' →
      (combine k x y).sameShape (combine k x' y') := by
  simp only [sameShape_iff]
  refine ⟨fun _ => combine_assoc,fun _ => shape_combine_comm,?_,fun _ _ => shape_not,
    fun _ binary _ _ _ _ => shape_combine binary⟩
  intro x buildable
  exact buildable.canonical.not_not

/-- Both sides are spliced, and operands of either are found again in another order. -/
theorem constructors_shape_spliced :
    let left := (var "p").and (var "q").not
    let left' := (var "q").not.and (var "p")
    let right := (var "r").and (var "s")
    left.sameShape left' ∧ (left.and right).sameShape (left'.and right) ∧
      left.and right = .junction .and [.var "p",.neg (.var "q"),.var "r",.var "s"] := by
  have same : ((var "p").and (var "q").not).sameShape ((var "q").not.and (var "p")) := by
    decide
  refine ⟨same,?_,rfl⟩
  exact constructors_shape.2.2.2.2 .and (by decide) _ _ _ _ same
    (sameShape_iff.mpr rfl)

end Sentential.Formula
