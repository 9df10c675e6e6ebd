import Sentential.Formula.Fold

/-! Formulas as they lie in memory, where each node has an address and one node may serve in several
places. Nodes at one address are not looked into when shapes are compared, and the operands of a
junction are paired off by a search that goes back on a choice when the rest cannot be paired. -/
namespace Sentential

/-- Searches for a different candidate for each test, one that passes it and has not been taken. A
candidate is free again when the tests that follow fail without it. -/
def matchRemaining : List (α → Bool) → List α → List Bool → Bool
  | [], _, _ => true
  | fits :: tests, candidates, taken =>
    (candidates.zip taken).zipIdx.any fun ((candidate, isTaken), index) =>
      !isTaken && fits candidate && matchRemaining tests candidates (taken.set index true)

/-- Whether tests and candidates can be paired off so that each candidate passes its test. -/
def matchOperands (tests : List (α → Bool)) (candidates : List α) : Bool :=
  tests.length == candidates.length &&
    matchRemaining tests candidates (candidates.map fun _ => false)

/-- A node in memory. Its operands are in memory as well, elsewhere. -/
structure Stored where
  address : Nat
  node : Formula.Node Stored

namespace Stored

mutual

/-- The formula at a node, wherever its parts lie. -/
def formula : Stored → Formula
  | ⟨_, node⟩ => nodeFormula node

def nodeFormula : Formula.Node Stored → Formula
  | .var name => .var name
  | .neg operand => .neg operand.formula
  | .junction kind operands => .junction kind (formulaEach operands)
  | .conditional left right => .conditional left.formula right.formula
  | .biconditional left right => .biconditional left.formula right.formula

def formulaEach : List Stored → List Formula
  | [] => []
  | operand :: operands => operand.formula :: formulaEach operands

end

mutual

/-- Nodes at one address have one shape without further ado. -/
def sameShape : Stored → Stored → Bool
  | ⟨address, node⟩, ⟨address', node'⟩ => address == address' || sameNode node node'

def sameNode : Formula.Node Stored → Formula.Node Stored → Bool
  | .var name, .var name' => name == name'
  | .neg operand, .neg operand' => operand.sameShape operand'
  | .junction kind operands, .junction kind' operands' =>
    kind == kind' && matchOperands (tests operands) operands'
  | .conditional left right, .conditional left' right' =>
    left.sameShape left' && right.sameShape right'
  | .biconditional left right, .biconditional left' right' =>
    matchOperands [left.sameShape, right.sameShape] [left', right']
  | _, _ => false

/-- For each operand the test whether another node has its shape. -/
def tests : List Stored → List (Stored → Bool)
  | [] => []
  | operand :: operands => operand.sameShape :: tests operands

end

end Stored
end Sentential
