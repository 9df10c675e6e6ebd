/-! Assignments of truth values to variables. They keep the order in which variables were first
given a value, the order in which a countermodel is shown. -/
namespace Sentential

/-- How a truth value is written where no other labels are chosen. -/
def truthDigit (value : Bool) : String := if value then "1" else "0"

structure Assignment where
  entries : List (String × Bool)
  deriving DecidableEq, Repr

namespace Assignment

def empty : Assignment := ⟨[]⟩

/-- The entries with one more, or with the value of an existing one replaced in its place. -/
def put (name : String) (value : Bool) : List (String × Bool) → List (String × Bool)
  | [] => [(name, value)]
  | entry :: entries =>
    if entry.1 = name then (name, value) :: entries else entry :: put name value entries

def insert (assignment : Assignment) (name : String) (value : Bool) : Assignment :=
  ⟨put name value assignment.entries⟩

/-- Inserts pairs one after the other, so that a later value of a name replaces an earlier one. -/
def ofList (pairs : List (String × Bool)) : Assignment :=
  pairs.foldl (fun assignment pair => assignment.insert pair.1 pair.2) empty

/-- Gives each variable the value at its place, as far as both lists go. -/
def ofRow (vars : List String) (row : List Bool) : Assignment := ofList (vars.zip row)

def get? (assignment : Assignment) (name : String) : Option Bool := assignment.entries.lookup name

def size (assignment : Assignment) : Nat := assignment.entries.length

def text (assignment : Assignment) : String :=
  ", ".intercalate (assignment.entries.map fun entry => entry.1 ++ "=" ++ truthDigit entry.2)

end Assignment
end Sentential
