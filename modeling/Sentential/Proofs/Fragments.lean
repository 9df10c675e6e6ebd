import Sentential.Proofs.Rereading

/-! What a refusal shows of a statement. Reading goes down into groups and along splits until some items
cannot be read, and it is the text of those that is shown. However deep they were found, nothing around
them has a part in the fault: as a statement of their own they are refused with the same error. Only an
empty group is by itself an empty statement, so all that is said of it is that there is one. -/
namespace Sentential.Statement

/-- The items of one group of a tree: those at the top, or those of a group that is an item itself. -/
inductive GroupWithin (items : List Item) : List Item → Prop where
  | top : GroupWithin items items
  | inner {around group : List Item} : GroupWithin items around → .group group ∈ around →
      GroupWithin items group

/-- Items that stand side by side in one group of a tree. -/
def RunWithin (items run : List Item) : Prop := ∃ group, GroupWithin items group ∧ run <:+: group

section

variable {items part run inner : List Item}

theorem runWithin_self : RunWithin items items := ⟨items,.top,List.infix_rfl⟩

/-- A group of a part of the items is that part or a group of the items. -/
theorem GroupWithin.of_infix {group : List Item} (within : GroupWithin part group)
    (side : part <:+: items) : group = part ∨ GroupWithin items group := by
  induction within with
  | top => exact .inl rfl
  | inner _ member ih =>
    rcases ih with rfl | outside
    · exact .inr (.inner .top (side.subset member))
    · exact .inr (.inner outside member)

theorem RunWithin.of_infix (within : RunWithin part run) (side : part <:+: items) :
    RunWithin items run := by
  obtain ⟨group,found,inGroup⟩ := within
  rcases found.of_infix side with rfl | outside
  · exact ⟨items,.top,inGroup.trans side⟩
  · exact ⟨group,outside,inGroup⟩

theorem GroupWithin.of_group {group : List Item} (within : GroupWithin inner group)
    (member : .group inner ∈ items) : GroupWithin items group := by
  induction within with
  | top => exact .inner .top member
  | inner _ deeper ih => exact .inner ih deeper

theorem RunWithin.of_group (within : RunWithin inner run) (member : .group inner ∈ items) :
    RunWithin items run := by
  obtain ⟨group,found,inGroup⟩ := within
  exact ⟨group,found.of_group member,inGroup⟩

theorem GroupWithin.writable {group : List Item} (within : GroupWithin items group)
    (writable : ∀ item ∈ items, item.Writable) : ∀ item ∈ group, item.Writable := by
  induction within with
  | top => exact writable
  | inner _ member ih =>
    cases ih _ member with
    | group each => exact each

theorem RunWithin.writable (within : RunWithin items run)
    (writable : ∀ item ∈ items, item.Writable) : ∀ item ∈ run, item.Writable := by
  obtain ⟨group,found,inGroup⟩ := within
  intro item member
  exact found.writable writable item (inGroup.subset member)

end

/-- The error shows these items. All but an empty group are refused with it wherever they stand. -/
inductive Shows : List Item → Error → Prop where
  | name {run : List Item} {name : String} : name = Item.renderAll run →
      (∀ top, readGroup top run = .error (.badName name)) → Shows run (.badName name)
  | fragment {run : List Item} {fragment : String} {problem : Problem} :
      fragment = Item.renderAll run → problem ≠ .emptyGroup →
      (∀ top, readGroup top run = .error (.malformed fragment problem)) →
      Shows run (.malformed fragment problem)
  | emptyGroup : Shows [.group []] (.malformed "()" .emptyGroup)

theorem shows_token {text : String} {error : Error} (refused : readToken text = .error error) :
    Shows [.token text] error := by
  have read (top : Bool) : readGroup top [.token text] = .error error := by rw [readGroup,refused]
  have written : text = Item.renderAll [.token text] := by
    simp [Item.renderAll,Item.charsEach,Item.chars]
  unfold readToken at refused
  split at refused
  · cases refused
    exact .fragment written (by decide) read
  · split at refused
    · cases refused
    · cases refused
      exact .name written read

theorem infix_of_split {ks : List Connective} {k : Connective} {items left right : List Item}
    (split : splitAtFirst? ks items = some (k,left,right)) : left <:+: items ∧ right <:+: items := by
  obtain ⟨_,_,_,_,found⟩ := splitAtFirst_eq_some split
  obtain ⟨rfl,-⟩ := splitAt_eq_some.mp found
  constructor
  · exact (List.prefix_append ..).isInfix
  · exact ((List.suffix_cons ..).trans (List.suffix_append ..)).isInfix

/-- Whatever items a group is refused for, they stand side by side in it or in a group within it. The
parts of a split and the operand of a negation are some of the items and never none. -/
theorem exists_shown {top : Bool} {items : List Item} {error : Error}
    (some : top = false → items ≠ []) (refused : readGroup top items = .error error) :
    error = .empty ∨ ∃ run, RunWithin items run ∧ Shows run error := by
  have around {part items : List Item} {error : Error} (side : part <:+: items)
      (shown : error = .empty ∨ ∃ run, RunWithin part run ∧ Shows run error) :
      error = .empty ∨ ∃ run, RunWithin items run ∧ Shows run error := by
    rcases shown with none | ⟨run,within,shows⟩
    · exact .inl none
    · exact .inr ⟨run,within.of_infix side,shows⟩
  fun_induction readGroup top items with
  | case1 top =>
    cases top with
    | true =>
      cases refused
      exact .inl rfl
    | false => exact absurd rfl (some rfl)
  | case2 top text => exact .inr ⟨[.token text],runWithin_self,shows_token refused⟩
  | case3 top inner ih =>
    have member : Item.group inner ∈ [Item.group inner] := List.mem_singleton_self _
    by_cases bare : top = false ∧ inner = []
    · obtain ⟨rfl,rfl⟩ := bare
      rw [readGroup] at refused
      cases refused
      exact .inr ⟨_,runWithin_self,.emptyGroup⟩
    · have someInner : top = false → inner ≠ [] := fun within none => bare ⟨within,none⟩
      rcases ih someInner refused with none | ⟨run,within,shows⟩
      · exact .inl none
      · exact .inr ⟨run,within.of_group member,shows⟩
  | case4 top first second rest k left right split none =>
    have many : 2 ≤ (first :: second :: rest).length := Nat.le_add_left ..
    cases refused
    refine .inr ⟨_,runWithin_self,.fragment rfl (by decide) ?_⟩
    intro top
    rw [readGroup_split many split,if_pos none]
  | case5 top first second rest k left right split both ihLeft ihRight =>
    obtain ⟨leftSide,rightSide⟩ := infix_of_split split
    have some : left ≠ [] ∧ right ≠ [] := by simpa [List.isEmpty_iff] using both
    rcases bind_eq_error.mp refused with ofLeft | ⟨leftTree,-,refused⟩
    · exact around leftSide (ihLeft (fun _ => some.1) ofLeft)
    · rcases bind_eq_error.mp refused with ofRight | ⟨rightTree,-,made⟩
      · exact around rightSide (ihRight (fun _ => some.2) ofRight)
      · cases made
  | case6 top first second rest unsplit negation all =>
    cases refused
    refine .inr ⟨_,runWithin_self,.fragment rfl (by decide) ?_⟩
    intro top
    rw [readGroup_unsplit (List.cons_ne_nil _ _) unsplit,if_pos negation,if_pos all]
  | case7 top first second rest unsplit negation some ih =>
    rcases bind_eq_error.mp refused with ofOperand | ⟨operand,-,made⟩
    · exact around (List.suffix_cons ..).isInfix (ih (fun _ => List.cons_ne_nil _ _) ofOperand)
    · cases made
  | case8 top first second rest unsplit other =>
    cases refused
    refine .inr ⟨_,runWithin_self,.fragment rfl (by decide) ?_⟩
    intro top
    rw [readGroup_unsplit (List.cons_ne_nil _ _) unsplit,if_neg other]

/-- The text is that of items side by side in the tree, and a statement that is just this text is refused
with the same error. -/
structure Reproduces (items : List Item) (fragment : String) (error : Error) : Prop where
  within : ∃ run, RunWithin items run ∧ fragment = Item.renderAll run
  refused : structured fragment = .error error

/-- What an error says of the items that are refused with it. -/
inductive Explains (items : List Item) : Error → Prop where
  | name {name : String} : Reproduces items name (.badName name) → Explains items (.badName name)
  | fragment {fragment : String} {problem : Problem} : problem ≠ .emptyGroup →
      Reproduces items fragment (.malformed fragment problem) →
      Explains items (.malformed fragment problem)
  /-- There is an empty group somewhere, but also something else than parentheses around nothing. -/
  | emptyGroup {group : List Item} : GroupWithin items group → .group [] ∈ group →
      (∀ depth, items ≠ hollow depth) → Explains items (.malformed "()" .emptyGroup)
  | empty {depth : Nat} : items = hollow depth → Explains items .empty

/-- Items of a text come back from the text that an error shows, so they are refused with it again. -/
theorem reproduces {items run : List Item} {fragment : String} {error : Error}
    (writable : ∀ item ∈ items, item.Writable) (within : RunWithin items run)
    (written : fragment = Item.renderAll run) (refused : readGroup true run = .error error) :
    Reproduces items fragment error := by
  refine ⟨⟨run,within,written⟩,?_⟩
  rw [written,structured,bracketed_renderAll (within.writable writable)]
  exact refused

/-- A statement whose parentheses are in order is refused for items that stand side by side in one of its
groups, and their text, which the error shows, is by itself refused with the same error. If it is refused
for an empty group there is one in it, and if as empty there is nothing in it. -/
theorem refusal_explained {text : String} {items : List Item} {error : Error}
    (read : bracketed text = .ok items) (refused : (Item.group items).tree = .error error) :
    Explains items error := by
  rw [Item.tree,readGroup] at refused
  have writable := writable_of_bracketed read
  have anyway : true = false → items ≠ [] := by
    intro within
    cases within
  rcases exists_shown anyway refused with rfl | ⟨run,within,shows⟩
  · obtain ⟨-,depth,same⟩ := (fault_readGroup refused).2 rfl
    exact .empty same
  · cases shows with
    | name written alone => exact .name (reproduces writable within written (alone true))
    | fragment written other alone =>
      exact .fragment other (reproduces writable within written (alone true))
    | emptyGroup =>
      obtain ⟨group,found,inGroup⟩ := within
      refine .emptyGroup found (inGroup.subset (List.mem_singleton_self _)) ?_
      rintro depth rfl
      rw [readGroup_hollow] at refused
      cases refused

/-- The operator is missing two groups down, where the error finds it. -/
theorem refusal_explained_nested :
    let inner := [Item.token "c",.token "d"]
    let items := [Item.token "a",.token "->",.group [.token "b",.token "and",.group inner]]
    bracketed "a -> (b and (c d))" = .ok items ∧
      (Item.group items).tree = .error (.malformed "c d" .missingOperator) ∧
      Explains items (.malformed "c d" .missingOperator) := by
  have read : bracketed "a -> (b and (c d))" = .ok [.token "a",.token "->",
      .group [.token "b",.token "and",.group [.token "c",.token "d"]]] := by
    rfl
  have refused : (Item.group [.token "a",.token "->",
      .group [.token "b",.token "and",.group [.token "c",.token "d"]]]).tree =
        .error (.malformed "c d" .missingOperator) := by
    decide +kernel
  exact ⟨read,refused,refusal_explained read refused⟩

end Sentential.Statement
