import Sentential.Formula.Basic
import Sentential.Statement.Normal
import Sentential.Statement.Tree

/-! From a statement to its formula. -/
namespace Sentential.Statement

def Tree.formula : Tree → Formula
  | .name text => .var text
  | .not operand => operand.formula.not
  | .binary k left right => .combine k left.formula right.formula

/-- The tree of a statement in any notation. -/
def tree (statement : String) : Except Error Tree := do
  readGroup true (← bracketed (normalize statement))

/-- The formula of a statement in any notation, or the first fault in it. -/
def parse (statement : String) : Except Error Formula := do
  return (← tree statement).formula

end Sentential.Statement
