import Mathlib.Data.List.Forall2
import Sentential.Proofs.Grammar
import Sentential.Proofs.Lexemes
import Sentential.Statement.Compile

/-! Taking the parentheses off negated names does not change how a statement is read, whether it is
accepted or not. A group that is just a negated name has no binary connective, so a sequence with
the group is split where the sequence without it is, and between the splits the group and the loose
words are refused for the same reason. -/
namespace Sentential.Statement

/-- The kind of an error and of its problem, without the text that shows it. -/
inductive Fault where
  | badName
  | unmatched
  | malformed (problem : Problem)
  | empty
  deriving DecidableEq, Repr

def Error.fault : Error → Fault
  | .badName _ => .badName
  | .unmatched _ _ => .unmatched
  | .malformed _ problem => .malformed problem
  | .empty => .empty

/-- The tree that is read, or the kind of fault. -/
def verdict (read : Except Error Tree) : Except Fault Tree := read.mapError Error.fault

theorem verdict_bind (read : Except Error Tree) (next : Tree → Except Error Tree) :
    verdict (read >>= next) = verdict read >>= fun tree => verdict (next tree) := by
  cases read <;> rfl

/-- The items of a valid name after any number of `not`s. -/
inductive Negated : List Item → Prop where
  | name : Name.isValid text → Negated [.token text]
  | not : Negated items → Negated (.token Connective.not.keyword :: items)

/-- Some groups that are negated names are opened, at any depth, and all else is kept. -/
inductive Opens : List Item → List Item → Prop where
  | nil : Opens [] []
  | token : Opens items items' → Opens (.token text :: items) (.token text :: items')
  | group {inner inner' : List Item} : Opens inner inner' → Opens items items' →
      Opens (.group inner :: items) (.group inner' :: items')
  | drop {inner : List Item} : Negated inner → Opens items items' →
      Opens (.group inner :: items) (inner ++ items')

variable {inner : List Item}

theorem Negated.ne_nil (negated : Negated inner) : inner ≠ [] := by
  cases negated <;> simp

theorem Negated.splitAt {k : Connective} (binary : k ≠ .not) (negated : Negated inner)
    (items : List Item) :
    splitAt? k (inner ++ items) =
      (splitAt? k items).map fun (left,right) => (inner ++ left,right) := by
  induction negated with
  | @name text valid =>
    have other : (Item.token text).connective? ≠ some k := fun found =>
      Name.not_keyword valid k (Connective.ofKeyword_eq_some.mp found)
    simp only [List.cons_append,List.nil_append,splitAt?,if_neg other]
  | not _ ih =>
    have other : (Item.token Connective.not.keyword).connective? ≠ some k := by
      simpa [Item.connective?] using binary.symm
    rw [List.cons_append,splitAt?,if_neg other,ih,Option.map_map]
    rfl

/-- Not all items of a negated name are `not`. -/
theorem Negated.all_not (negated : Negated inner) :
    inner.all (·.connective? = some .not) = false := by
  induction negated with
  | @name text valid =>
    have other : (Item.token text).connective? ≠ some .not := fun found =>
      Name.not_keyword valid .not (Connective.ofKeyword_eq_some.mp found)
    simp [other]
  | not _ ih => rw [List.all_cons,ih,Bool.and_false]

namespace Opens

theorem append {left left' right right' : List Item} (opensLeft : Opens left left')
    (opensRight : Opens right right') : Opens (left ++ right) (left' ++ right') := by
  induction opensLeft with
  | nil => exact opensRight
  | token _ ih => exact token ih
  | group inner _ _ ih => exact group inner ih
  | drop negated _ ih =>
    rw [List.append_assoc]
    exact drop negated ih

theorem single (negated : Negated inner) : Opens [.group inner] inner := by
  simpa using drop negated nil

theorem length_le (opens : Opens items items') : items.length ≤ items'.length := by
  induction opens with
  | nil => exact Nat.le_refl _
  | token _ ih => exact Nat.succ_le_succ ih
  | group _ _ _ ih => exact Nat.succ_le_succ ih
  | drop negated _ ih =>
    have := List.length_pos_iff.mpr negated.ne_nil
    rw [List.length_cons,List.length_append]
    omega

theorem isEmpty_eq (opens : Opens items items') : items.isEmpty = items'.isEmpty := by
  cases opens with
  | drop negated => simp [negated.ne_nil]
  | _ => rfl

theorem ne_nil (opens : Opens (item :: items) items') : items' ≠ [] := by
  have same := opens.isEmpty_eq
  simpa using same.symm

theorem all_not (opens : Opens items items') :
    items.all (·.connective? = some .not) = items'.all (·.connective? = some .not) := by
  induction opens with
  | nil => rfl
  | token _ ih => rw [List.all_cons,List.all_cons,ih]
  | group => rfl
  | drop negated =>
    rw [List.all_append,negated.all_not,Bool.false_and]
    rfl

/-- Two splits, if there are any, with groups opened on either side. -/
abbrev OnSides : Option (List Item × List Item) → Option (List Item × List Item) → Prop :=
  Option.Rel fun sides sides' => Opens sides.1 sides'.1 ∧ Opens sides.2 sides'.2

theorem OnSides.prepend {sides sides' : Option (List Item × List Item)}
    (related : OnSides sides sides') {before before' : List Item} (opens : Opens before before') :
    OnSides (sides.map fun (left,right) => (before ++ left,right))
      (sides'.map fun (left,right) => (before' ++ left,right)) := by
  cases related with
  | none => exact .none
  | some related => exact .some ⟨opens.append related.1,related.2⟩

/-- A binary connective is found in the same place, with the same groups opened on either side. -/
theorem splitAt {k : Connective} (binary : k ≠ .not) (opens : Opens items items') :
    OnSides (splitAt? k items) (splitAt? k items') := by
  induction opens with
  | nil => exact .none
  | token opens ih =>
    simp only [splitAt?]
    split
    · exact .some ⟨nil,opens⟩
    · exact ih.prepend (token nil)
  | group inner _ _ ih => exact ih.prepend (group inner nil)
  | drop negated _ ih =>
    rw [negated.splitAt binary]
    exact ih.prepend (single negated)

theorem splitAtFirst {ks : List Connective} (binary : .not ∉ ks) (opens : Opens items items') :
    match splitAtFirst? ks items with
    | some (k,left,right) => ∃ left' right', splitAtFirst? ks items' = some (k,left',right') ∧
        Opens left left' ∧ Opens right right'
    | none => splitAtFirst? ks items' = none := by
  induction ks with
  | nil => rfl
  | cons k ks ih =>
    rw [List.mem_cons,not_or] at binary
    have here := opens.splitAt (Ne.symm binary.1)
    simp only [splitAtFirst?]
    generalize splitAt? k items = found at here ⊢
    generalize splitAt? k items' = found' at here ⊢
    cases here with
    | none => exact ih binary.2
    | some related => exact ⟨_,_,rfl,related⟩

/-- The loosest connective stays the loosest. -/
theorem split {k : Connective} {left right : List Item} (opens : Opens items items')
    (split : splitAtFirst? Connective.binary items = some (k,left,right)) :
    ∃ left' right', splitAtFirst? Connective.binary items' = some (k,left',right') ∧
      Opens left left' ∧ Opens right right' := by
  have binary : .not ∉ Connective.binary := by decide
  have here := opens.splitAtFirst binary
  rwa [split] at here

theorem unsplit (opens : Opens items items')
    (unsplit : splitAtFirst? Connective.binary items = none) :
    splitAtFirst? Connective.binary items' = none := by
  have binary : .not ∉ Connective.binary := by decide
  have here := opens.splitAtFirst binary
  rwa [unsplit] at here

end Opens

theorem unsplit_tail {ks : List Connective} {item : Item} {items : List Item}
    (unsplit : splitAtFirst? ks (item :: items) = none) : splitAtFirst? ks items = none := by
  rw [splitAtFirst_eq_none] at unsplit ⊢
  exact fun k member found => unsplit k member (List.mem_cons_of_mem _ found)

/-- Words between which a connective is missing are refused for that, behind any number of
`not`s. -/
theorem Negated.verdict_readGroup {top : Bool} (negated : Negated inner) {items : List Item}
    (more : items ≠ []) (unsplit : splitAtFirst? Connective.binary (inner ++ items) = none) :
    verdict (readGroup top (inner ++ items)) = .error (.malformed .missingOperator) := by
  induction negated generalizing top with
  | @name text valid =>
    have other : (Item.token text).connective? ≠ some .not := fun found =>
      Name.not_keyword valid .not (Connective.ofKeyword_eq_some.mp found)
    rw [List.singleton_append] at unsplit ⊢
    rw [readGroup_unsplit more unsplit,if_neg other]
    rfl
  | @not inner negated ih =>
    have operand : (inner ++ items).all (·.connective? = some .not) = false := by
      rw [List.all_append,negated.all_not,Bool.false_and]
    rw [List.cons_append] at unsplit ⊢
    rw [readGroup_unsplit (List.append_ne_nil_of_left_ne_nil negated.ne_nil _) unsplit,
      if_pos (Item.connective_eq_some.mpr rfl),operand]
    simp only [Bool.false_eq_true,if_false,verdict_bind,ih (unsplit_tail unsplit)]
    rfl

/-- Opening groups that are negated names changes neither the tree that is read nor the kind of
fault. -/
theorem Opens.verdict_eq {top : Bool} (opens : Opens items items') :
    verdict (readGroup top items) = verdict (readGroup top items') := by
  fun_induction readGroup top items generalizing items' with
  | case1 =>
    cases opens
    rw [readGroup]
  | case2 top text =>
    cases opens with
    | token opens =>
      cases opens
      rw [readGroup]
  | case3 top inner ih =>
    cases opens with
    | group inner opens =>
      cases opens
      rw [ih inner,readGroup]
    | drop negated opens =>
      cases opens
      rw [List.append_nil]
  | case4 top first second rest k left right split none =>
    obtain ⟨left',right',split',opensLeft,opensRight⟩ := opens.split split
    have many : 2 ≤ items'.length := Nat.le_trans (Nat.le_add_left ..) opens.length_le
    rw [opensLeft.isEmpty_eq,opensRight.isEmpty_eq] at none
    rw [readGroup_split many split',if_pos none]
    rfl
  | case5 top first second rest k left right split some ihLeft ihRight =>
    obtain ⟨left',right',split',opensLeft,opensRight⟩ := opens.split split
    have many : 2 ≤ items'.length := Nat.le_trans (Nat.le_add_left ..) opens.length_le
    rw [opensLeft.isEmpty_eq,opensRight.isEmpty_eq] at some
    rw [readGroup_split many split',if_neg some]
    simp only [verdict_bind,ihLeft opensLeft,ihRight opensRight]
  | case6 top first second rest unsplit negation all =>
    have unsplit' := opens.unsplit unsplit
    obtain rfl := Item.connective_eq_some.mp negation
    cases opens with
    | token opens =>
      rw [opens.all_not] at all
      rw [readGroup_unsplit opens.ne_nil unsplit',if_pos negation,if_pos all]
      rfl
  | case7 top first second rest unsplit negation some ih =>
    have unsplit' := opens.unsplit unsplit
    obtain rfl := Item.connective_eq_some.mp negation
    cases opens with
    | token opens =>
      rw [opens.all_not] at some
      rw [readGroup_unsplit opens.ne_nil unsplit',if_pos negation,if_neg some]
      simp only [verdict_bind,ih opens]
  | case8 top first second rest unsplit other =>
    have unsplit' := opens.unsplit unsplit
    cases opens with
    | token opens =>
      rw [readGroup_unsplit opens.ne_nil unsplit',if_neg other]
      rfl
    | group inner opens =>
      have no_keyword (items : List Item) : (Item.group items).connective? ≠ some .not := by
        simp [Item.connective?]
      rw [readGroup_unsplit opens.ne_nil unsplit',if_neg (no_keyword _)]
      rfl
    | drop negated opens =>
      rw [negated.verdict_readGroup opens.ne_nil unsplit']
      rfl

/-- The lexemes of a negated name are those of its items. -/
theorem Lexeme.Negated.items {inner : List Lexeme} (negated : Lexeme.Negated inner) :
    ∃ items, Statement.Negated items ∧ inner = Item.lexemesEach items := by
  obtain ⟨count,name,valid,rfl⟩ := negated
  induction count with
  | zero => exact ⟨[.token (String.ofList name)],.name valid,by simp⟩
  | succ count ih =>
    obtain ⟨items,negated,same⟩ := ih
    refine ⟨.token Connective.not.keyword :: items,negated.not,?_⟩
    rw [List.replicate_succ,List.cons_append,same]
    rfl

/-- Lexemes are read as items exactly if they are after unwrapping, and some groups of the items are
then opened. Unfinished groups are kept last item first. -/
theorem Unwraps.opens (unwraps : Unwraps ls ls') {outer outer' : List (List Item)}
    {items items' : List Item}
    (around : List.Forall₂ (fun items items' => Opens items.reverse items'.reverse) outer outer')
    (opens : Opens items.reverse items'.reverse) :
    Option.Rel Opens (readLexemes outer items ls) (readLexemes outer' items' ls') := by
  induction unwraps generalizing outer outer' items items' with
  | nil =>
    cases around with
    | nil => exact .some opens
    | cons => exact .none
  | @keep ls ls' l _ ih =>
    have behind {item item' : Item} (item_opens : Opens [item] [item'])
        {items items' : List Item} (opens : Opens items.reverse items'.reverse) :
        Opens (item :: items).reverse (item' :: items').reverse := by
      simpa using opens.append item_opens
    cases l with
    | opening => exact ih (.cons opens around) .nil
    | word text => exact ih around (behind (.token .nil) opens)
    | closing =>
      cases around with
      | nil => exact .none
      | cons before around => exact ih around (behind (.group opens .nil) before)
  | @drop ls ls' inner negated _ ih =>
    obtain ⟨inner,ofName,rfl⟩ := negated.items
    have whole : Lexeme.opening :: Item.lexemesEach inner ++ .closing :: ls =
        (Item.group inner).lexemes ++ ls := by
      simp
    rw [whole,readLexemes_item,readLexemes_items]
    apply ih around
    simpa using opens.append (.single ofName)

/-- The tree read off lexemes, or the kind of fault. -/
def readWhole (ls : List Lexeme) : Except Fault Tree :=
  match readLexemes [] [] ls with
  | some items => verdict (readGroup true items)
  | none => .error .unmatched

theorem Unwraps.readWhole_eq (unwraps : Unwraps ls ls') : readWhole ls = readWhole ls' := by
  have related : Option.Rel Opens (readLexemes [] [] ls) (readLexemes [] [] ls') :=
    unwraps.opens .nil .nil
  simp only [readWhole]
  generalize readLexemes [] [] ls = found at related ⊢
  generalize readLexemes [] [] ls' = found' at related ⊢
  cases related with
  | none => rfl
  | some opens => exact opens.verdict_eq

theorem Unwraps.run_readWhole (run : Relation.ReflTransGen Unwraps ls ls') :
    readWhole ls = readWhole ls' := by
  induction run with
  | refl => rfl
  | tail _ step ih => exact ih.trans step.readWhole_eq

/-- The tree of a text that is taken as it stands. -/
def structured (text : String) : Except Error Tree := do readGroup true (← bracketed text)

theorem verdict_structured (text : List Char) :
    verdict (structured (String.ofList text)) = readWhole (lexemes [] text) := by
  have read (result : List Item) : Item.read [] [] [] text = .ok result ↔
      readLexemes [] [] (lexemes [] text) = some result := read_eq_ok
  rw [structured,bracketed,readWhole,String.toList_ofList]
  cases found : Item.read [] [] [] text with
  | ok items =>
    rw [(read items).mp found]
    rfl
  | error fault =>
    cases none : readLexemes [] [] (lexemes [] text) with
    | none => rfl
    | some items => cases found.symm.trans ((read items).mpr none)

/-- The verdict on a statement is already found on its respelled text. -/
theorem verdict_tree (statement : String) :
    verdict (tree statement) = readWhole (lexemes [] (respell statement.toList)) := by
  rw [Unwraps.run_readWhole (unwraps_normalChars statement.toList),← verdict_structured]
  rfl

/-- Taking off redundant parentheses keeps the reading of every text: the tidied text is read as the
same tree as the normal one, or both are refused with the same kind of error and problem. -/
theorem unwrapping_keeps_reading (statement : String) :
    (∃ tree, structured (String.ofList (tidy (respell statement.toList))) = .ok tree ∧
      structured (normalize statement) = .ok tree) ∨
    ∃ error error', structured (String.ofList (tidy (respell statement.toList))) = .error error ∧
      structured (normalize statement) = .error error' ∧ error.fault = error'.fault := by
  have same : verdict (structured (String.ofList (tidy (respell statement.toList)))) =
      verdict (structured (normalize statement)) := by
    rw [verdict_structured,lexemes_tidy,← verdict_tree]
    rfl
  cases before : structured (String.ofList (tidy (respell statement.toList))) with
  | ok tree =>
    cases after : structured (normalize statement) with
    | ok tree' =>
      rw [before,after] at same
      exact .inl ⟨tree,rfl,congrArg Except.ok (Except.ok.inj same).symm⟩
    | error error' =>
      rw [before,after] at same
      cases same
  | error error =>
    cases after : structured (normalize statement) with
    | ok tree' =>
      rw [before,after] at same
      cases same
    | error error' =>
      rw [before,after] at same
      exact .inr ⟨error,error',rfl,rfl,Except.error.inj same⟩

end Sentential.Statement
