import Sentential.Proofs.Outcome
import Sentential.Proofs.Queries

/-! Reports on comparisons. When they are wanted there is one for each pair of statements that is
compared, in the order of the pairs. Its last line tells whether the two are equivalent and whether their
formulas have one shape, and it is right about the statements as they were given. -/
namespace Sentential

/-- What is at a place of a list is related to what has that place with it. -/
theorem forall₂_zipIdx {R : α → β → Prop} {xs : List α} {ys : List β}
    (related : List.Forall₂ R xs ys) :
    List.Forall₂ (fun x y => R x y.1 ∧ xs[y.2]? = some x) xs ys.zipIdx := by
  obtain ⟨length,each⟩ := List.forall₂_iff_get.mp related
  refine List.forall₂_iff_get.mpr ⟨by rw [length,List.length_zipIdx],fun i inside inside' => ?_⟩
  have found : i < ys.length := length ▸ inside
  simpa [inside] using each i inside found

/-- Related lists are compared at related pairs. -/
theorem Argument.rel_pairs {R : α → β → Prop} {xs : List α} {ys : List β}
    (related : List.Forall₂ R xs ys) (comparison : Comparison) :
    List.Forall₂ (fun pair pair' => R pair.1 pair'.1 ∧ R pair.2 pair'.2)
      (pairs comparison xs) (pairs comparison ys) := by
  induction related with
  | nil => cases comparison <;> exact .nil
  | @cons x y xs ys first others ih =>
    have with_first : List.Forall₂ (fun pair pair' => R pair.1 pair'.1 ∧ R pair.2 pair'.2)
        (xs.map (x,·)) (ys.map (y,·)) := by
      rw [List.forall₂_map_left_iff,List.forall₂_map_right_iff]
      exact others.imp fun _ _ related => ⟨first,related⟩
    cases comparison with
    | direct => exact with_first
    | pairwise => exact List.rel_append with_first ih

namespace CommandLine

open Statement (Mentioned)

/-- The statements are read as formulas of one shape. -/
def SameShape (left right : String) : Prop :=
  ∃ formula other, Statement.parse left = .ok formula ∧ Statement.parse right = .ok other ∧
    formula.shape = other.shape

/-- Two statements as they are shown, without the blanks around them. -/
def shownPair (left right : String) : String :=
  Text.quote (Text.trim left) ++ " and " ++ Text.quote (Text.trim right)

/-- What a line says about two statements, and that it is right. -/
inductive JudgesPair (left right : String) : String → Prop where
  | sameShape : LogicallyEquivalent [left,right] → SameShape left right →
      JudgesPair left right ("✓ " ++ shownPair left right ++ " are equivalent (same shape)")
  | equivalent : LogicallyEquivalent [left,right] → ¬SameShape left right →
      JudgesPair left right ("✓ " ++ shownPair left right ++ " are equivalent")
  | different : ¬LogicallyEquivalent [left,right] → ¬SameShape left right →
      JudgesPair left right ("✗ " ++ shownPair left right ++ " are not equivalent")

section

variable {left right : String} {formula other : Formula}

theorem sameShape_iff (read : Statement.parse left = .ok formula)
    (read' : Statement.parse right = .ok other) :
    SameShape left right ↔ formula.sameShape other := by
  rw [Formula.sameShape_iff]
  simp [SameShape,read,read']

theorem logicallyEquivalent_iff (read : Statement.parse left = .ok formula)
    (read' : Statement.parse right = .ok other) :
    LogicallyEquivalent [left,right] ↔ formula.equivalent other := by
  have assigns (assignment : Assignment) : Assigns assignment [left,right] ↔
      assignment.Covers formula.vars ∧ assignment.Covers other.vars := by
    have mentioned (name : String) : Mentioned [left,right] name ↔
        name ∈ formula.vars ++ other.vars := by
      simp [Mentioned,read,read']
    simp only [Assigns,mentioned]
    exact List.forall_mem_append
  rw [Formula.equivalent_iff_eval]
  refine forall_congr' fun assignment => ?_
  simp [assigns,HasValue,read,read']

theorem SameShape.logicallyEquivalent (same : SameShape left right) :
    LogicallyEquivalent [left,right] := by
  obtain ⟨formula,other,read,read',shape⟩ := same
  exact (logicallyEquivalent_iff read read').mpr (Formula.equivalent_of_shape_eq shape)

end

theorem verdict_true (text : String) : verdict true text = "✓ " ++ text := by
  have start : String.singleton (PlainText.mark true) ++ " " = "✓ " := by decide
  rw [verdict,start]

theorem verdict_false (text : String) : verdict false text = "✗ " ++ text := by
  have start : String.singleton (PlainText.mark false) ++ " " = "✗ " := by decide
  rw [verdict,start]

/-- A test is right about two statements, and so is the line on it. -/
structure TestsPair (statements : List String) (left right : String) (test : EquivalenceTest) :
    Prop where
  equivalent_iff : test.equivalent ↔ LogicallyEquivalent [left,right]
  sameShape_iff : test.sameShape ↔ SameShape left right
  judged : JudgesPair left right (testLine (statements.map Text.trim) test)

section

variable {statements : List String} {left right : String}

/-- The line on a comparison tells what its test has found. -/
theorem judgesPair_testLine {test : EquivalenceTest}
    (equivalent : test.equivalent ↔ LogicallyEquivalent [left,right])
    (sameShape : test.sameShape ↔ SameShape left right)
    (first : statements[test.left]? = some left) (second : statements[test.right]? = some right) :
    JudgesPair left right (testLine (statements.map Text.trim) test) := by
  have shown : testLine (statements.map Text.trim) test = verdict test.equivalent
      (shownPair left right ++
        (if test.equivalent then " are equivalent" else " are not equivalent") ++
        (if test.sameShape then " (same shape)" else "")) := by
    simp [testLine,shownPair,first,second]
  rw [shown]
  cases found : test.equivalent with
  | true =>
    have agree := equivalent.mp found
    cases shape : test.sameShape with
    | true =>
      have line := JudgesPair.sameShape agree (sameShape.mp shape)
      simpa [verdict_true,String.append_assoc] using line
    | false =>
      have line := JudgesPair.equivalent agree (by simp [← sameShape,shape])
      simpa [verdict_true,String.append_assoc] using line
  | false =>
    have differ : ¬LogicallyEquivalent [left,right] := by simp [← equivalent,found]
    cases shape : test.sameShape with
    | true => exact absurd (sameShape.mp shape).logicallyEquivalent differ
    | false =>
      have line := JudgesPair.different differ (by simp [← sameShape,shape])
      simpa [verdict_false,String.append_assoc] using line

theorem testsPair_outcome {argument : Argument} {placed placed' : Proposition × Nat}
    (stated : Reads left placed.1 ∧ statements[placed.2]? = some left)
    (stated' : Reads right placed'.1 ∧ statements[placed'.2]? = some right) :
    TestsPair statements left right (argument.outcome (placed,placed')) := by
  have equivalent := (logicallyEquivalent_iff stated.1 stated'.1).symm
  have sameShape := (sameShape_iff stated.1 stated'.1).symm
  exact ⟨equivalent,sameShape,judgesPair_testLine equivalent sameShape stated.2 stated'.2⟩

/-- A run that reports its comparisons prints the marked table, if there are none for biconditionals,
then the reports, a blank line and the verdict. There is a report for each pair that is compared, and it
is right about the two statements. -/
theorem reports_exact {given : Given} {argument : Argument}
    (made : given.argument statements none = .ok argument) (detailed : given.detailed) :
    (Request.checkEquivalence statements given).outcome =
        ⟨0,markedText given argument ++
          (String.join ((given.tests argument).map
            (reportText (given.has .verbose) (statements.map Text.trim))) ++ line "") ++
          line (equivalenceVerdict (EquivalenceTest.allEquivalent (given.tests argument))),""⟩ ∧
      List.Forall₂ (fun pair => TestsPair statements pair.1 pair.2)
        (Argument.pairs given.comparison statements) (given.tests argument) := by
  constructor
  · have printed : Printing.Prints (Request.answer (.checkEquivalence statements given)) _ () :=
      (prints_judgeEquivalence made).bind (Printing.prints_print _)
    rw [reportsText,if_pos detailed] at printed
    exact outcome_of_prints printed
  · have read : List.Forall₂ Reads statements argument.statements := by
      simpa using (states_of_argument made).reads
    rw [Given.tests,List.forall₂_map_right_iff]
    exact (Argument.rel_pairs (forall₂_zipIdx read) given.comparison).imp
      fun _ _ stated => testsPair_outcome stated.1 stated.2

end

example : (run ["check-equivalence","p","~~p"," p & p","-v"]).output =
    "\n" ++
    "p | p ↔ p\n" ++
    "--+------\n" ++
    "0 | 1\n" ++
    "1 | 1\n" ++
    "✓ \"p\" and \"~~p\" are equivalent (same shape)\n" ++
    "\n" ++
    "p | p ↔ p ∧ p\n" ++
    "--+----------\n" ++
    "0 | 1\n" ++
    "1 | 1\n" ++
    "✓ \"p\" and \"p & p\" are equivalent\n" ++
    "\n" ++
    "✓ The statements are logically equivalent!\n" := by
  decide +kernel

end CommandLine
end Sentential
