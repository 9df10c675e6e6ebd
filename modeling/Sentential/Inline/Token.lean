/-! Tokens of a formula written inline in program text: identifiers, literals and punctuation,
with everything between two brackets in a token of its own. -/
namespace Sentential.Inline

inductive Delimiter where
  | parenthesis
  | bracket
  | brace
  deriving DecidableEq, Repr

inductive Token where
  | identifier (name : String)
  /-- A string literal, by its value. -/
  | text (value : String)
  /-- Any other literal. None stands for a formula, so nothing more is kept of it. -/
  | literal
  /-- A punctuation character, `joint` if another one follows at once. -/
  | mark (char : Char) (joint : Bool)
  | group (delimiter : Delimiter) (tokens : List Token)
  deriving Repr

end Sentential.Inline
