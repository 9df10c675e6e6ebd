import Sentential.Formula.Constituents
import Sentential.Notice
import Sentential.Statement.Compile
import Sentential.Table.Config
import Sentential.Table.PlainText

/-! A single statement with the table that it has under a configuration. -/
namespace Sentential

structure Proposition where
  /-- The statement as written. -/
  statement : String
  formula : Formula
  /-- The variables in the order of their columns. -/
  vars : List String
  config : Config

namespace Proposition

/-- Pairs a statement with its formula, unless that has too many variables. -/
def assemble (statement : String) (formula : Formula) (config : Config) :
    Except LogicError Proposition :=
  let vars := config.order.arrange formula.vars
  match config.allow vars.length with
  | .ok () => .ok ⟨statement, formula, vars, config⟩
  | .error error => .error (.config error)

def parse (statement : String) (config : Config) : Except LogicError Proposition :=
  match Statement.parse statement with
  | .ok formula => assemble statement formula config
  | .error error => .error (.statement error)

/-- The proposition that a formula states, with its text as the statement. -/
def ofFormula (formula : Formula) (config : Config) : Except LogicError Proposition :=
  assemble formula.text formula config

/-- Says `not` of the whole statement. Its variables are the same in the same order. -/
def negate (proposition : Proposition) : Proposition :=
  { proposition with
    statement := "not (" ++ proposition.statement ++ ")"
    formula := proposition.formula.not }

/-- The notices given when a proposition is made. -/
def notices (proposition : Proposition) : List Notice := Notice.ofWidth proposition.vars.length

/-- A proposition is always displayed with signs. -/
def text (proposition : Proposition) : String := proposition.formula.text

def constituents (proposition : Proposition) : List Formula := proposition.formula.constituents

/-- The formulas that have columns after those of the variables. A variable by itself has none. -/
def columns (proposition : Proposition) : List Formula :=
  if proposition.config.showConstituents then
    proposition.constituents.filter (!·.isVariable)
  else if proposition.formula.isVariable then []
  else [proposition.formula]

/-- The place of the column with the value of the statement. -/
def resultColumn (proposition : Proposition) : Nat :=
  match proposition.formula.name? with
  | some name => (proposition.vars.idxOf? name).getD 0
  | none => proposition.vars.length + proposition.columns.length - 1

def table (proposition : Proposition) : Except LogicError TruthTable :=
  match TruthTable.build proposition.vars proposition.columns proposition.config.reversed with
  | .ok table => .ok table
  | .error error => .error (.evaluation error)

/-- The value of the statement on every row. -/
def values (proposition : Proposition) : Except LogicError (List Bool) := do
  return (← proposition.table).column proposition.resultColumn

def isTautology (proposition : Proposition) : Except LogicError Bool := do
  return (← proposition.table).isConstant true proposition.resultColumn

def isContradiction (proposition : Proposition) : Except LogicError Bool := do
  return (← proposition.table).isConstant false proposition.resultColumn

def isSatisfiable (proposition : Proposition) : Except LogicError Bool := do
  return !(← proposition.isContradiction)

def rendered (proposition : Proposition) : Except LogicError (List Column) := do
  return (← proposition.table).render proposition.config.labels?

def plainText (proposition : Proposition) : Except LogicError String := do
  return PlainText.render (← proposition.rendered) none

end Proposition
end Sentential
