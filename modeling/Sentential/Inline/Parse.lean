import Sentential.Formula.Basic
import Sentential.Inline.Lexer

/-! Formulas written inline in program text, with operators in the place of keywords. An operand is
an identifier, a string literal or a formula in parentheses; identifiers and string literals alike
name variables. -/
namespace Sentential.Inline

inductive Error where
  /-- The text does not split into tokens. -/
  | lexical
  /-- Where an operand belongs there is something else, or with `atEnd` nothing. -/
  | noOperand (atEnd : Bool)
  /-- Something follows a whole formula, in parentheses or after everything else. -/
  | leftOver (inGroup : Bool)
  deriving DecidableEq, Repr

def Error.message : Error → String
  | .lexical => "cannot parse string into token stream"
  | .noOperand atEnd =>
    (if atEnd then "unexpected end of input, " else "") ++
      "expected an `Expr` identifier, a string literal or `(`"
  | .leftOver inGroup => if inGroup then "unexpected token, expected `)`" else "unexpected token"

/-- The words of the program text that name no variable. -/
def reserved : List String := [
  "_", "abstract", "as", "async", "await", "become", "box", "break", "const", "continue", "crate",
  "do", "dyn", "else", "enum", "extern", "false", "final", "fn", "for", "if", "impl", "in", "let",
  "loop", "macro", "match", "mod", "move", "mut", "override", "priv", "pub", "ref", "return",
  "Self", "self", "static", "struct", "super", "trait", "true", "try", "type", "typeof", "unsafe",
  "unsized", "use", "virtual", "where", "while", "yield"]

/-- A sequence of operands with connectives between them, before precedence is applied. -/
structure Chain where
  first : Formula
  others : List (Connective × Formula)

/-- The operands up to the first occurrence of a connective, and the sequences after it and between
later occurrences. -/
def segments (k : Connective) (first : Formula) : List (Connective × Formula) → Chain × List Chain
  | [] => (⟨first, []⟩, [])
  | (k', operand) :: others =>
    let (segment, more) := segments k operand others
    if k' = k then (⟨first, []⟩, segment :: more)
    else (⟨first, (k', segment.first) :: segment.others⟩, more)

/-- Joins formulas with a connective, grouping to the right. -/
def joinRight (k : Connective) (first : Formula) : List Formula → Formula
  | [] => first
  | second :: others => .combine k first (joinRight k second others)

/-- Joins formulas with a connective. Arrows group to the right, the others to the left. -/
def joinAll (k : Connective) (first : Formula) (others : List Formula) : Formula :=
  if k.isAssociative then others.foldl (Formula.combine k) first else joinRight k first others

/-- The formula of a sequence whose connectives are among those given, the loosest first. -/
def Chain.resolve : List Connective → Chain → Formula
  | [], chain => chain.first
  | k :: ks, chain =>
    let (segment, more) := segments k chain.first chain.others
    joinAll k (resolve ks segment) (more.map (resolve ks))

def Chain.formula (chain : Chain) : Formula := chain.resolve Connective.binary

/-- What was read up to a token that continues no formula. -/
structure Reading where
  chain : Chain
  /-- Tokens are left after the sequence. -/
  unread : Bool
  /-- Tokens are left after a formula in one of its groups. -/
  strayInGroup : Bool

/-- A reading with one more operand and a connective in front. -/
def Reading.precede (reading : Reading) (operand : Formula) (k : Connective) : Reading :=
  { reading with chain := ⟨operand, (k, reading.chain.first) :: reading.chain.others⟩ }

/-- The connective of a punctuation character by itself. -/
def connectiveOfMark? : Char → Option Connective
  | '&' | '*' => some .and
  | '|' | '+' => some .or
  | '^' => some .xor
  | _ => none

def isNegation : Token → Bool
  | .mark c _ => c == '!' || c == '~'
  | _ => false

mutual

/-- The formula of an operand, and whether a group in it has tokens left over. -/
def Token.operand : Token → Except Error (Formula × Bool)
  | .identifier name =>
    if reserved.contains name then .error (.noOperand false) else .ok (.var name, false)
  | .text value => .ok (.var value, false)
  | .group .parenthesis tokens => do
    let reading ← readOperand tokens
    return (reading.chain.formula, reading.unread || reading.strayInGroup)
  | _ => .error (.noOperand false)
termination_by structural token => token

/-- Reads a sequence from an operand on. A negation applies to the first operand only. -/
def readOperand : List Token → Except Error Reading
  | [] => .error (.noOperand true)
  | token :: tokens =>
    if isNegation token then do
      let reading ← readOperand tokens
      return { reading with chain.first := reading.chain.first.not }
    else do
      let (operand, stray) ← token.operand
      let reading ← readOperator operand tokens
      return { reading with strayInGroup := stray || reading.strayInGroup }
termination_by structural tokens => tokens

/-- Reads a sequence on from the operator after its first operand. The two characters of `->` and
of `<-` stand together, while the `>` that makes a `<->` may stand apart. -/
def readOperator (operand : Formula) : List Token → Except Error Reading
  | .mark '<' true :: .mark '-' _ :: .mark '>' _ :: tokens => do
    return (← readOperand tokens).precede operand .iff
  | .mark '-' true :: .mark '>' _ :: tokens => do
    return (← readOperand tokens).precede operand .implies
  | .mark c _ :: tokens =>
    match connectiveOfMark? c with
    | some k => do return (← readOperand tokens).precede operand k
    | none => .ok ⟨⟨operand, []⟩, true, false⟩
  | [] => .ok ⟨⟨operand, []⟩, false, false⟩
  | _ => .ok ⟨⟨operand, []⟩, true, false⟩
termination_by structural tokens => tokens

end

/-- The formula of an inline text. A missing operand anywhere comes before tokens left over, and
those in a group before those at the end. -/
def parse (text : String) : Except Error Formula :=
  match tokens? text with
  | none => .error .lexical
  | some tokens => do
    let reading ← readOperand tokens
    if reading.strayInGroup then .error (.leftOver true)
    else if reading.unread then .error (.leftOver false)
    else .ok reading.chain.formula

end Sentential.Inline
