import Sentential.Connective

/-! Variable names of statements: an ASCII letter or underscore, then letters, digits and
underscores, and no keyword of a connective. -/
namespace Sentential.Name

def isStart (c : Char) : Bool := c.isAlpha || c == '_'

def isPart (c : Char) : Bool := c.isAlphanum || c == '_'

def isValid (name : String) : Bool :=
  match name.toList with
  | [] => false
  | first :: rest => isStart first && rest.all isPart && !Connective.isKeyword name

end Sentential.Name
