import Sentential.Name
import Sentential.Statement.Bracketing

/-! The structure of a statement: one connective at each node, names checked.

A group with a binary connective is split at the first occurrence of the loosest one in it, so that
chains of one connective group to the right. Without one it is a negation or a single item. -/
namespace Sentential.Statement

inductive Tree where
  | name (text : String)
  | not (operand : Tree)
  | binary (connective : Connective) (left right : Tree)
  deriving DecidableEq, Repr

def Item.connective? : Item → Option Connective
  | .token text => Connective.ofKeyword? text
  | .group _ => none

mutual

/-- The number of tokens and groups of an item. -/
def Item.weight : Item → Nat
  | .token _ => 1
  | .group items => Item.weightAll items + 1

def Item.weightAll : List Item → Nat
  | [] => 0
  | item :: items => item.weight + Item.weightAll items

end

/-- The items before and after the first occurrence of a connective. -/
def splitAt? (k : Connective) : List Item → Option (List Item × List Item)
  | [] => none
  | item :: items =>
    if item.connective? = some k then some ([], items)
    else (splitAt? k items).map fun (left, right) => (item :: left, right)

/-- The split at the first of the given connectives that occurs. -/
def splitAtFirst? : List Connective → List Item → Option (Connective × List Item × List Item)
  | [], _ => none
  | k :: ks, items =>
    match splitAt? k items with
    | some (left, right) => some (k, left, right)
    | none => splitAtFirst? ks items

theorem Item.weight_pos (item : Item) : 0 < item.weight := by
  cases item <;> simp [Item.weight]

theorem weightAll_splitAt {k : Connective} {items left right : List Item}
    (h : splitAt? k items = some (left, right)) :
    Item.weightAll left + Item.weightAll right < Item.weightAll items := by
  induction items generalizing left right with
  | nil => simp [splitAt?] at h
  | cons item items ih =>
    have := item.weight_pos
    simp only [splitAt?] at h
    split at h
    · cases h
      simp only [Item.weightAll]
      omega
    · simp only [Option.map_eq_some_iff, Prod.mk.injEq] at h
      obtain ⟨⟨before, after⟩, found, rfl, rfl⟩ := h
      have := ih found
      simp only [Item.weightAll]
      omega

theorem weightAll_splitAtFirst {ks : List Connective} {k : Connective}
    {items left right : List Item} (h : splitAtFirst? ks items = some (k, left, right)) :
    Item.weightAll left + Item.weightAll right < Item.weightAll items := by
  induction ks with
  | nil => simp [splitAtFirst?] at h
  | cons k' ks ih =>
    simp only [splitAtFirst?] at h
    split at h
    · next found =>
      cases h
      exact weightAll_splitAt found
    · exact ih h

/-- A token by itself is a name. -/
def readToken (text : String) : Except Error Tree :=
  if Connective.isKeyword text then .error (.malformed text .operatorAsOperand)
  else if Name.isValid text then .ok (.name text)
  else .error (.badName text)

/-- Reads the items of one group. `top` says that nothing is around them but parentheses, which
tells an empty statement from an empty group. -/
def readGroup (top : Bool) (items : List Item) : Except Error Tree :=
  match items with
  | [] => .error (if top then .empty else .malformed "()" .emptyGroup)
  | [.token text] => readToken text
  | [.group inner] => readGroup top inner
  | first :: second :: rest =>
    match _split : splitAtFirst? Connective.binary (first :: second :: rest) with
    | some (k, left, right) =>
      if left.isEmpty || right.isEmpty then
        .error (.malformed (Item.renderAll (first :: second :: rest)) .missingOperand)
      else do
        let leftTree ← readGroup false left
        let rightTree ← readGroup false right
        return .binary k leftTree rightTree
    | none =>
      if first.connective? = some .not then
        if (second :: rest).all (·.connective? = some .not) then
          .error (.malformed (Item.renderAll (first :: second :: rest)) .malformedNegation)
        else do
          return .not (← readGroup false (second :: rest))
      else .error (.malformed (Item.renderAll (first :: second :: rest)) .missingOperator)
termination_by Item.weightAll items
decreasing_by
  · simp [Item.weightAll, Item.weight]
  · have := weightAll_splitAtFirst _split
    omega
  · have := weightAll_splitAtFirst _split
    omega
  · have := first.weight_pos
    simp only [Item.weightAll]
    omega

/-- Reads an item as a whole statement. -/
def Item.tree (item : Item) : Except Error Tree := readGroup true [item]

end Sentential.Statement
