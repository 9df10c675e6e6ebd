import Sentential.Formula.Fold
import Sentential.Statement.Compile

/-! Canonical formulas, the only ones that the constructors build, and what the constructors do to the
names at the leaves: nothing is lost, repeated or moved. -/
namespace Sentential

theorem Junction.connective_injective {kind kind' : Junction}
    (same : kind.connective = kind'.connective) : kind = kind' := by
  cases kind <;> cases kind' <;> first | rfl | cases same

theorem Junction.connective_ne_not (kind : Junction) : kind.connective ≠ .not := by
  cases kind <;> decide

namespace Formula

/-- No negation is negated. A junction joins two operands or more and none of its own kind. -/
inductive Canonical : Formula → Prop where
  | var : Canonical (.var name)
  | neg : Canonical operand → operand.connective? ≠ some .not → Canonical (.neg operand)
  | junction {operands : List Formula} : 2 ≤ operands.length →
      (∀ operand ∈ operands, Canonical operand) →
      (∀ operand ∈ operands, operand.connective? ≠ some kind.connective) →
      Canonical (.junction kind operands)
  | conditional : Canonical left → Canonical right → Canonical (.conditional left right)
  | biconditional : Canonical left → Canonical right → Canonical (.biconditional left right)

theorem spliced_of_ne {kind : Junction} {formula : Formula}
    (other : formula.connective? ≠ some kind.connective) : formula.spliced kind = [formula] := by
  cases formula with
  | junction kind' operands =>
    have differs : kind' ≠ kind := by
      rintro rfl
      exact other rfl
    simp [spliced,differs]
  | var => rfl
  | neg => rfl
  | conditional => rfl
  | biconditional => rfl

theorem exists_neg_of_connective {formula : Formula} (root : formula.connective? = some .not) :
    ∃ operand, formula = .neg operand := by
  cases formula with
  | neg operand => exact ⟨operand,rfl⟩
  | junction kind => exact absurd (Option.some.inj root) kind.connective_ne_not
  | var => cases root
  | conditional => cases root
  | biconditional => cases root

theorem exists_junction_of_connective {kind : Junction} {formula : Formula}
    (root : formula.connective? = some kind.connective) :
    ∃ operands, formula = .junction kind operands := by
  cases formula with
  | junction kind' operands =>
    obtain rfl := Junction.connective_injective (Option.some.inj root)
    exact ⟨operands,rfl⟩
  | var => cases root
  | neg => cases kind <;> cases root
  | conditional => cases kind <;> cases root
  | biconditional => cases kind <;> cases root

theorem spliced_junction (kind : Junction) (operands : List Formula) :
    (junction kind operands).spliced kind = operands := by
  rw [spliced,if_pos rfl]

/-- Joined formulas make a junction of all that they contribute. -/
theorem spliced_join (kind : Junction) (left right : Formula) :
    (join kind left right).spliced kind = left.spliced kind ++ right.spliced kind := by
  simp [join,spliced]

/-- Grouping makes no difference to what is joined. -/
theorem join_assoc (kind : Junction) (left middle right : Formula) :
    join kind (join kind left middle) right = join kind left (join kind middle right) := by
  calc
    join kind (join kind left middle) right
      = .junction kind (left.spliced kind ++ middle.spliced kind ++ right.spliced kind) := by
        rw [join,spliced_join]
    _ = .junction kind (left.spliced kind ++ (join kind middle right).spliced kind) := by
        rw [spliced_join,List.append_assoc]

theorem combine_assoc {k : Connective} (associative : k.isAssociative)
    (left middle right : Formula) :
    combine k (combine k left middle) right = combine k left (combine k middle right) := by
  cases k with
  | and => exact join_assoc .and left middle right
  | or => exact join_assoc .or left middle right
  | xor => exact join_assoc .xor left middle right
  | not => cases associative
  | implies => cases associative
  | iff => cases associative

theorem combine_connective (kind : Junction) (left right : Formula) :
    combine kind.connective left right = join kind left right := by
  cases kind <;> rfl

theorem not_eq_neg {formula : Formula} (other : formula.connective? ≠ some .not) :
    formula.not = .neg formula := by
  cases formula with
  | neg operand => exact absurd rfl other
  | _ => rfl

/-- What a canonical formula contributes to a junction may be an operand of it. -/
theorem Canonical.spliced {formula : Formula} (canonical : formula.Canonical) (kind : Junction) :
    formula.spliced kind ≠ [] ∧ ∀ operand ∈ formula.spliced kind,
      operand.Canonical ∧ operand.connective? ≠ some kind.connective := by
  by_cases same : formula.connective? = some kind.connective
  · obtain ⟨operands,rfl⟩ := exists_junction_of_connective same
    rw [spliced_junction]
    cases canonical with
    | junction some canonical apart =>
      refine ⟨?_,fun operand member => ⟨canonical operand member,apart operand member⟩⟩
      rintro rfl
      simp at some
  · rw [spliced_of_ne same]
    refine ⟨List.cons_ne_nil _ _,?_⟩
    intro operand member
    obtain rfl := List.mem_singleton.mp member
    exact ⟨canonical,same⟩

theorem Canonical.not {formula : Formula} (canonical : formula.Canonical) :
    formula.not.Canonical := by
  cases canonical with
  | neg canonical _ => exact canonical
  | var => exact .neg .var (by simp [connective?])
  | junction some canonical apart =>
    exact .neg (.junction some canonical apart) (by simp [connective?,Junction.connective_ne_not])
  | conditional left right => exact .neg (.conditional left right) (by simp [connective?])
  | biconditional left right => exact .neg (.biconditional left right) (by simp [connective?])

theorem Canonical.join {left right : Formula} (canonicalLeft : left.Canonical)
    (canonicalRight : right.Canonical) (kind : Junction) : (join kind left right).Canonical := by
  obtain ⟨someLeft,operandsLeft⟩ := canonicalLeft.spliced kind
  obtain ⟨someRight,operandsRight⟩ := canonicalRight.spliced kind
  have all := List.forall_mem_append.mpr ⟨operandsLeft,operandsRight⟩
  refine .junction ?_ (fun operand member => (all operand member).1)
    (fun operand member => (all operand member).2)
  have := List.length_pos_iff.mpr someLeft
  have := List.length_pos_iff.mpr someRight
  rw [List.length_append]
  omega

theorem Canonical.combine {left right : Formula} (canonicalLeft : left.Canonical)
    (canonicalRight : right.Canonical) (k : Connective) : (combine k left right).Canonical := by
  cases k with
  | not => exact canonicalRight.not
  | and => exact canonicalLeft.join canonicalRight .and
  | or => exact canonicalLeft.join canonicalRight .or
  | xor => exact canonicalLeft.join canonicalRight .xor
  | implies => exact .conditional canonicalLeft canonicalRight
  | iff => exact .biconditional canonicalLeft canonicalRight

theorem foldEach_eq_map (step : Node α → α) (formulas : List Formula) :
    foldEach step formulas = formulas.map (fold step) := by
  induction formulas with
  | nil => rfl
  | cons formula formulas ih => rw [foldEach,ih,List.map_cons]

theorem leaves_var (name : String) : (var name).leaves = [name] := rfl

theorem leaves_neg (operand : Formula) : (neg operand).leaves = operand.leaves := by
  simp [leaves,fold,Node.operands]

theorem leaves_junction (kind : Junction) (operands : List Formula) :
    (junction kind operands).leaves = operands.flatMap leaves := by
  simp only [leaves,fold,foldEach_eq_map,Node.operands]
  rfl

theorem leaves_conditional (left right : Formula) :
    (conditional left right).leaves = left.leaves ++ right.leaves := by
  simp [leaves,fold,Node.operands]

theorem leaves_biconditional (left right : Formula) :
    (biconditional left right).leaves = left.leaves ++ right.leaves := by
  simp [leaves,fold,Node.operands]

theorem leaves_not (formula : Formula) : formula.not.leaves = formula.leaves := by
  cases formula <;> simp [Formula.not,leaves_neg]

theorem leaves_spliced (kind : Junction) (formula : Formula) :
    (formula.spliced kind).flatMap leaves = formula.leaves := by
  have single : List.flatMap leaves [formula] = formula.leaves := List.flatMap_singleton ..
  cases formula with
  | junction kind' operands =>
    by_cases same : kind' = kind
    · simp only [spliced,same,if_true,leaves_junction]
    · simpa only [spliced,same,if_false] using single
  | var => exact single
  | neg => exact single
  | conditional => exact single
  | biconditional => exact single

theorem leaves_join (kind : Junction) (left right : Formula) :
    (join kind left right).leaves = left.leaves ++ right.leaves := by
  rw [join,leaves_junction,List.flatMap_append,leaves_spliced,leaves_spliced]

theorem leaves_combine {k : Connective} (binary : k ≠ .not) (left right : Formula) :
    (combine k left right).leaves = left.leaves ++ right.leaves := by
  cases k with
  | not => exact absurd rfl binary
  | and => exact leaves_join .and left right
  | or => exact leaves_join .or left right
  | xor => exact leaves_join .xor left right
  | implies => exact leaves_conditional left right
  | iff => exact leaves_biconditional left right

end Formula

namespace Statement.Tree

theorem canonical_formula (tree : Tree) : tree.formula.Canonical := by
  induction tree with
  | name => exact .var
  | not operand ih => exact ih.not
  | binary k left right ihLeft ihRight => exact ihLeft.combine ihRight k

end Statement.Tree
end Sentential
