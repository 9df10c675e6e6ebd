import Sentential.Formula.Semantics
import Sentential.Statement.Compile

/-! Compiling a statement tree keeps its meaning. The formula of a tree differs from it in structure:
double negations are gone and chains of `and`, `or` and `xor` are single nodes. Its value is still
the one read off the tree, and so is the variable named when a value is missing. -/
namespace Sentential

/-- The truth function of a connective. `not` looks at its right side only. -/
def Connective.value : Connective → Bool → Bool → Bool
  | .and, left, right => left && right
  | .or, left, right => left || right
  | .xor, left, right => left ^^ right
  | .implies, left, right => !left || right
  | .iff, left, right => left == right
  | .not, _, right => !right

namespace Assignment

/-- The value of a variable, false if it has none. -/
def truth (assignment : Assignment) (name : String) : Bool := (assignment.get? name).getD false

/-- The first of some names that has no value. -/
def missing? (assignment : Assignment) (names : List String) : Option String :=
  names.find? fun name => (assignment.get? name).isNone

theorem missing_append (assignment : Assignment) (names others : List String) :
    assignment.missing? (names ++ others) =
      (assignment.missing? names).or (assignment.missing? others) :=
  List.find?_append

theorem get_of_complete {assignment : Assignment} {names : List String}
    (complete : assignment.missing? names = none) :
    ∀ name ∈ names, assignment.get? name = some (assignment.truth name) := by
  intro name member
  have found := List.find?_eq_none.mp complete name member
  rw [truth]
  cases value : assignment.get? name with
  | none => simp [value] at found
  | some value => rfl

end Assignment

namespace Formula

variable {assignment : Assignment}

/-- Evaluates two sides from left to right, both of them, and joins the values. -/
def evalBoth (k : Connective) (left right : Except EvaluationError Bool) :
    Except EvaluationError Bool := do
  let one ← left
  let other ← right
  return k.value one other

theorem evalEach_append (left right : List Formula) :
    evalEach assignment (left ++ right) = (do
      let values ← evalEach assignment left
      let others ← evalEach assignment right
      return values ++ others) := by
  induction left with
  | nil =>
    simp only [List.nil_append,evalEach]
    cases evalEach assignment right <;> rfl
  | cons formula left ih =>
    simp only [List.cons_append,evalEach,ih]
    cases formula.eval assignment
    · rfl
    cases evalEach assignment left
    · rfl
    cases evalEach assignment right <;> rfl

theorem foldl_from (op : Bool → Bool → Bool) [Std.Associative op] (unit : Bool)
    (neutral : ∀ value, op value unit = value) (start : Bool) (values : List Bool) :
    values.foldl op start = op start (values.foldl op unit) := by
  calc
    values.foldl op start = values.foldl op (op start unit) := by rw [neutral]
    _ = op start (values.foldl op unit) := List.foldl_assoc

/-- Junction values are folds of an associative operation from its unit; for `xor` that is parity. -/
theorem value_append (kind : Junction) (values others : List Bool) :
    kind.value (values ++ others) =
      kind.connective.value (kind.value values) (kind.value others) := by
  cases kind with
  | and =>
    simp only [Junction.value,List.foldl_append]
    exact foldl_from (· && ·) true Bool.and_true _ others
  | or =>
    simp only [Junction.value,List.foldl_append]
    exact foldl_from (· || ·) false Bool.or_false _ others
  | xor =>
    simp only [Junction.value,List.foldl_append]
    exact foldl_from (· ^^ ·) false Bool.xor_false _ others

theorem value_singleton (kind : Junction) (value : Bool) : kind.value [value] = value := by
  cases kind <;> cases value <;> rfl

/-- What a formula contributes to a junction has the value of the formula, spliced or not. -/
theorem evalEach_spliced (kind : Junction) (formula : Formula) :
    (do return kind.value (← evalEach assignment (formula.spliced kind))) =
      formula.eval assignment := by
  have single (other : Formula) :
      (do return kind.value (← evalEach assignment [other])) = other.eval assignment := by
    simp only [evalEach]
    cases other.eval assignment with
    | error => rfl
    | ok value => exact congrArg Except.ok (value_singleton kind value)
  cases formula with
  | junction kind' operands =>
    by_cases same : kind' = kind
    · subst same
      simp only [spliced,if_true,eval]
    · simpa only [spliced,if_neg same] using single (.junction kind' operands)
  | var => exact single _
  | neg => exact single _
  | conditional => exact single _
  | biconditional => exact single _

theorem eval_join (kind : Junction) (left right : Formula) :
    (join kind left right).eval assignment =
      evalBoth kind.connective (left.eval assignment) (right.eval assignment) := by
  rw [join,eval,evalEach_append,← evalEach_spliced kind left,← evalEach_spliced kind right]
  cases evalEach assignment (left.spliced kind) with
  | error => rfl
  | ok values =>
    cases evalEach assignment (right.spliced kind) with
    | error => rfl
    | ok others => exact congrArg Except.ok (value_append kind values others)

theorem eval_not (formula : Formula) :
    formula.not.eval assignment = (do return !(← formula.eval assignment)) := by
  cases formula with
  | neg operand =>
    simp only [Formula.not,eval]
    cases operand.eval assignment with
    | error => rfl
    | ok value => exact congrArg Except.ok (Bool.not_not value).symm
  | var => rfl
  | junction => rfl
  | conditional => rfl
  | biconditional => rfl

/-- Every binary connective evaluates both of its sides and joins their values. -/
theorem eval_combine {k : Connective} (binary : k ≠ .not) (left right : Formula) :
    (combine k left right).eval assignment =
      evalBoth k (left.eval assignment) (right.eval assignment) := by
  cases k with
  | not => exact absurd rfl binary
  | and => exact eval_join .and left right
  | or => exact eval_join .or left right
  | xor => exact eval_join .xor left right
  | implies => rfl
  | iff => rfl

end Formula

namespace Statement.Tree

/-- No node joins two sides with `not`. -/
def Proper : Tree → Prop
  | .name _ => True
  | .not operand => operand.Proper
  | .binary k left right => k ≠ .not ∧ left.Proper ∧ right.Proper

/-- The names at the leaves from left to right, once for each occurrence. -/
def names : Tree → List String
  | .name text => [text]
  | .not operand => operand.names
  | .binary _ left right => left.names ++ right.names

/-- The value of a tree where every name has a value. -/
def value (truth : String → Bool) : Tree → Bool
  | .name text => truth text
  | .not operand => !operand.value truth
  | .binary k left right => k.value (left.value truth) (right.value truth)

/-- The value of a tree node by node, without compiling it. Sides are evaluated from left to right,
both of them. -/
def eval (assignment : Assignment) : Tree → Except EvaluationError Bool
  | .name text =>
    match assignment.get? text with
    | some value => .ok value
    | none => .error (.unassigned text)
  | .not operand => do return !(← operand.eval assignment)
  | .binary k left right => Formula.evalBoth k (left.eval assignment) (right.eval assignment)

theorem eval_formula (tree : Tree) (proper : tree.Proper) (assignment : Assignment) :
    tree.formula.eval assignment = tree.eval assignment := by
  induction tree with
  | name text => rfl
  | not operand ih => rw [formula,Formula.eval_not,ih proper,eval]
  | binary k left right ihLeft ihRight =>
    obtain ⟨binary,properLeft,properRight⟩ := proper
    rw [formula,Formula.eval_combine binary,ihLeft properLeft,ihRight properRight,eval]

theorem eval_of_assigned (tree : Tree) (assignment : Assignment) (truth : String → Bool)
    (assigned : ∀ name ∈ tree.names, assignment.get? name = some (truth name)) :
    tree.eval assignment = .ok (tree.value truth) := by
  induction tree with
  | name text => simp only [eval,assigned text (List.mem_singleton_self text),value]
  | not operand ih =>
    rw [eval,ih assigned]
    rfl
  | binary k left right ihLeft ihRight =>
    have ofLeft := ihLeft fun name member => assigned name (List.mem_append_left _ member)
    have ofRight := ihRight fun name member => assigned name (List.mem_append_right _ member)
    rw [eval,ofLeft,ofRight]
    rfl

/-- The error names the first name without a value, since no side is skipped. -/
theorem eval_of_missing (tree : Tree) (assignment : Assignment) {name : String}
    (first : assignment.missing? tree.names = some name) :
    tree.eval assignment = .error (.unassigned name) := by
  induction tree with
  | name text =>
    have missing := List.find?_some first
    obtain rfl := List.mem_singleton.mp (List.mem_of_find?_eq_some first)
    rw [Option.isNone_iff_eq_none] at missing
    simp only [eval,missing]
  | not operand ih =>
    rw [eval,ih first]
    rfl
  | binary k left right ihLeft ihRight =>
    rw [names,Assignment.missing_append,Option.or_eq_some_iff] at first
    rcases first with inLeft | ⟨complete,inRight⟩
    · rw [eval,ihLeft inLeft]
      rfl
    · rw [eval,eval_of_assigned left assignment _ (Assignment.get_of_complete complete),
        ihRight inRight]
      rfl

/-- The formula of a tree evaluates as the tree does under every assignment, complete or not: to the
value of the tree if all its names have values, and otherwise to an error that names the first name
from the left without one. -/
theorem formula_refines_tree (tree : Tree) (proper : tree.Proper) (assignment : Assignment) :
    tree.formula.eval assignment = tree.eval assignment ∧
    ((∀ name ∈ tree.names, (assignment.get? name).isSome) →
      tree.formula.eval assignment = .ok (tree.value assignment.truth)) ∧
    (∀ before name after, tree.names = before ++ name :: after →
      (∀ earlier ∈ before, (assignment.get? earlier).isSome) → assignment.get? name = none →
      tree.formula.eval assignment = .error (.unassigned name)) := by
  rw [eval_formula tree proper assignment]
  refine ⟨rfl,?_,?_⟩
  · intro complete
    apply eval_of_assigned
    apply Assignment.get_of_complete
    apply List.find?_eq_none.mpr
    intro name member
    rw [Option.isNone_iff_eq_none,← ne_eq,← Option.isSome_iff_ne_none]
    exact complete name member
  · intro before name after split assigned missing
    apply eval_of_missing
    rw [Assignment.missing?,List.find?_eq_some_iff_append]
    refine ⟨by simp [missing],before,after,split,?_⟩
    intro earlier member
    simp [assigned earlier member]

/-- `not not p and (q and r)` is compiled to one conjunction of `p`, `q` and `r`. -/
theorem formula_refines_partial :
    let tree := Tree.binary .and (.not (.not (.name "p"))) (.binary .and (.name "q") (.name "r"))
    tree.Proper ∧ tree.formula = .junction .and [.var "p",.var "q",.var "r"] ∧
      tree.formula.eval ⟨[("p",true)]⟩ = .error (.unassigned "q") := by
  have proper : (Tree.binary .and (.not (.not (.name "p")))
      (.binary .and (.name "q") (.name "r"))).Proper := by
    simp [Proper]
  refine ⟨proper,rfl,?_⟩
  exact (formula_refines_tree _ proper ⟨[("p",true)]⟩).2.2 ["p"] "q" ["r"] rfl (by decide) (by decide)

end Statement.Tree
end Sentential
