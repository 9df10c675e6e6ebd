import Sentential.Text.Quoted

/-! Why a statement is rejected. A rejected statement is rejected as a whole, with the first fault
found and the text that shows it. -/
namespace Sentential.Statement

/-- What is wrong with a sequence of items. -/
inductive Problem where
  | operatorAsOperand
  | missingOperand
  | missingOperator
  | malformedNegation
  | emptyGroup
  deriving DecidableEq, Repr

inductive Error where
  /-- A word is neither a connective nor a valid name. -/
  | badName (name : String)
  /-- Parentheses do not pair up in `statement`; the position counts bytes. -/
  | unmatched (statement : String) (position : Option Nat)
  | malformed (fragment : String) (problem : Problem)
  /-- Nothing but blanks and parentheses around nothing. -/
  | empty
  deriving DecidableEq, Repr

def Problem.message : Problem → String
  | .operatorAsOperand => "expected an expression, found an operator"
  | .missingOperand => "operator is missing an operand"
  | .missingOperator => "expected an operator between expressions"
  | .malformedNegation => "'not' must be followed by an expression"
  | .emptyGroup => "empty parentheses"

def nameRules : String :=
  "Rules:\n" ++
  "1. Contains only alpha-numeric characters and underscores.\n" ++
  "2. Must not start with a number.\n" ++
  "3. Must not be an operator keyword.\n" ++
  "4. Case-sensitive."

open Text (quote)

def Error.message : Error → String
  | .badName name => "Bad name: " ++ quote name ++ ".\n" ++ nameRules
  | .unmatched statement (some position) =>
    "Syntax error: Unmatched parentheses at position " ++ toString position ++
      ". Expression: " ++ quote statement
  | .unmatched statement none =>
    "Syntax error: Unmatched parentheses. Expression: " ++ quote statement
  | .malformed fragment problem => "Syntax error: " ++ problem.message ++ " in " ++ quote fragment
  | .empty => "Error: Null statement."

end Sentential.Statement
