import Sentential.Proposition

/-! Propositions as they are kept from one question to the next. The constituents are listed when the
proposition is made, and the table is filled when it is first asked for. Neither is worked out again
afterwards, so a step that changes the formula has to see to both. -/
namespace Sentential

structure Proposition.Kept extends Proposition where
  constituents : List Formula
  /-- The table, once it was asked for. -/
  table? : Option TruthTable

namespace Proposition.Kept

def assemble (statement : String) (formula : Formula) (constituents : List Formula)
    (config : Config) : Except LogicError Kept :=
  match Proposition.assemble statement formula config with
  | .ok proposition => .ok ⟨proposition, constituents, none⟩
  | .error error => .error error

def parse (statement : String) (config : Config) : Except LogicError Kept :=
  match Statement.parse statement with
  | .ok formula => assemble statement formula formula.constituents config
  | .error error => .error (.statement error)

def ofFormula (formula : Formula) (config : Config) : Except LogicError Kept :=
  assemble formula.text formula formula.constituents config

/-- Says `not` of the whole statement. The table of the statement is not one of its negation. -/
def negate (kept : Kept) : Kept :=
  ⟨kept.toProposition.negate, kept.formula.not.constituents, none⟩

/-- That two propositions are equivalent, as it is tested: with a table of the whole only. -/
def biconditional (config : Config) (left right : Kept) : Except LogicError Kept :=
  ofFormula (left.formula.iff right.formula) { config with showConstituents := false }

/-- The formulas that have columns, chosen from the constituents that were listed. -/
def columns (kept : Kept) : List Formula :=
  if kept.config.showConstituents then kept.constituents.filter (!·.isVariable)
  else if kept.formula.isVariable then []
  else [kept.formula]

def resultColumn (kept : Kept) : Nat :=
  match kept.formula.name? with
  | some name => (kept.vars.idxOf? name).getD 0
  | none => kept.vars.length + kept.columns.length - 1

/-- Asks for the table. It is filled unless it was asked for before, and kept. -/
def table (kept : Kept) : Except LogicError (TruthTable × Kept) :=
  match kept.table? with
  | some table => .ok (table, kept)
  | none =>
    match TruthTable.build kept.vars kept.columns kept.config.reversed with
    | .ok table => .ok (table, { kept with table? := some table })
    | .error error => .error (.evaluation error)

/-- The value of the statement on every row. -/
def values (kept : Kept) : Except LogicError (List Bool) := do
  return (← kept.table).1.column kept.resultColumn

end Proposition.Kept
end Sentential
