import Sentential.Proofs.Compilation
import Sentential.Statement.Tree

/-! The grammar of statements, and that reading a group follows it.

Reading splits a group at the first occurrence of its loosest connective and never asks which rule
applies. The grammar is layered by precedence and knows nothing of first occurrences. -/
namespace Sentential

theorem bind_eq_ok {read : Except ε α} {next : α → Except ε β} {result : β} :
    (read >>= next) = .ok result ↔ ∃ part, read = .ok part ∧ next part = .ok result := by
  cases read with
  | error => simp [bind,Except.bind]
  | ok part => simp [bind,Except.bind]

theorem bind_eq_error {read : Except ε α} {next : α → Except ε β} {error : ε} :
    (read >>= next) = .error error ↔
      read = .error error ∨ ∃ part, read = .ok part ∧ next part = .error error := by
  cases read with
  | error => simp [bind,Except.bind]
  | ok part => simp [bind,Except.bind]

theorem Connective.ofKeyword_eq_some {word : String} {k : Connective} :
    ofKeyword? word = some k ↔ word = k.keyword := by
  constructor
  · intro found
    unfold ofKeyword? at found
    have same := List.find?_some found
    exact (beq_iff_eq.mp same).symm
  · rintro rfl
    cases k <;> decide

@[simp] theorem Connective.ofKeyword_keyword (k : Connective) : ofKeyword? k.keyword = some k :=
  ofKeyword_eq_some.mpr rfl

@[simp] theorem Connective.isKeyword_keyword (k : Connective) : isKeyword k.keyword = true := by
  simp [isKeyword]

theorem Connective.keyword_injective {k k' : Connective} (same : k.keyword = k'.keyword) :
    k = k' := by
  simpa using congrArg ofKeyword? same

theorem Name.isKeyword_of_isValid {name : String} (valid : Name.isValid name) :
    Connective.isKeyword name = false := by
  unfold isValid at valid
  split at valid
  · cases valid
  · simp only [Bool.and_eq_true,Bool.not_eq_true'] at valid
    exact valid.2

theorem Name.not_keyword {name : String} (valid : Name.isValid name) (k : Connective) :
    name ≠ k.keyword := by
  rintro rfl
  have plain := isKeyword_of_isValid valid
  simp at plain

namespace Statement

/-- `Derives ks items tree` derives items with the binary connectives `ks`, the loosest first. Each
connective takes one tighter layer on its left and its own layer on its right. The layer without
connectives holds negations, names and groups; a group starts again from all connectives and leaves
no trace in the tree. -/
inductive Derives : List Connective → List Item → Tree → Prop where
  | tighter {tree : Tree} : Derives ks items tree → Derives (k :: ks) items tree
  | joined : Derives ks left leftTree → Derives (k :: ks) right rightTree →
      Derives (k :: ks) (left ++ .token k.keyword :: right) (.binary k leftTree rightTree)
  | negated {tree : Tree} : Derives [] items tree →
      Derives [] (.token Connective.not.keyword :: items) (.not tree)
  | named : Name.isValid text → Derives [] [.token text] (.name text)
  | grouped {tree : Tree} : Derives Connective.binary items tree → Derives [] [.group items] tree

theorem ne_not_of_layers {looser ks : List Connective} {k : Connective}
    (layers : looser ++ k :: ks = Connective.binary) : k ≠ .not := by
  rintro rfl
  have member : Connective.not ∈ Connective.binary := by simp [← layers]
  simp [Connective.binary] at member

/-- No item is the keyword of one of these connectives. Groups may hold them. -/
def Lacks (ks : List Connective) (items : List Item) : Prop :=
  ∀ k ∈ ks, .token k.keyword ∉ items

theorem Lacks.append {ks : List Connective} {left right : List Item}
    (lacks : Lacks ks (left ++ right)) : Lacks ks left ∧ Lacks ks right :=
  ⟨fun k member found => lacks k member (List.mem_append_left _ found),
    fun k member found => lacks k member (List.mem_append_right _ found)⟩

theorem Item.connective_eq_some {item : Item} {k : Connective} :
    item.connective? = some k ↔ item = .token k.keyword := by
  cases item with
  | token text => simp [connective?,Connective.ofKeyword_eq_some]
  | group items => simp [connective?]

theorem splitAt_eq_none {k : Connective} {items : List Item} :
    splitAt? k items = none ↔ .token k.keyword ∉ items := by
  induction items with
  | nil => simp [splitAt?]
  | cons item items ih =>
    by_cases found : item.connective? = some k
    · simp [splitAt?,Item.connective_eq_some.mp found,Item.connective?]
    · have differs : Item.token k.keyword ≠ item := fun same =>
        found (Item.connective_eq_some.mpr same.symm)
      simp [splitAt?,found,ih,differs]

/-- A split is at the first occurrence. -/
theorem splitAt_eq_some {k : Connective} {items left right : List Item} :
    splitAt? k items = some (left,right) ↔
      items = left ++ .token k.keyword :: right ∧ .token k.keyword ∉ left := by
  induction items generalizing left with
  | nil => simp [splitAt?]
  | cons item items ih =>
    by_cases found : item.connective? = some k
    · obtain rfl := Item.connective_eq_some.mp found
      cases left with
      | nil => simp [splitAt?,found,eq_comm]
      | cons first left =>
        simp only [splitAt?,found,if_true,List.cons_append,List.cons.injEq,List.mem_cons,not_or]
        constructor
        · intro same
          simp at same
        · rintro ⟨⟨rfl,-⟩,apart,-⟩
          exact absurd rfl apart
    · have differs : Item.token k.keyword ≠ item := fun same =>
        found (Item.connective_eq_some.mpr same.symm)
      cases left with
      | nil => simp [splitAt?,found,differs.symm]
      | cons first left =>
        simp only [splitAt?,found,if_false,Option.map_eq_some_iff,Prod.exists,Prod.mk.injEq,
          List.cons.injEq,List.cons_append,List.mem_cons,not_or]
        constructor
        · rintro ⟨before,after,split,⟨rfl,rfl⟩,rfl⟩
          obtain ⟨same,lacks⟩ := ih.mp split
          exact ⟨⟨rfl,same⟩,differs,lacks⟩
        · rintro ⟨⟨rfl,same⟩,-,lacks⟩
          exact ⟨left,right,ih.mpr ⟨same,lacks⟩,⟨rfl,rfl⟩,rfl⟩

theorem splitAtFirst_eq_none {ks : List Connective} {items : List Item} :
    splitAtFirst? ks items = none ↔ Lacks ks items := by
  induction ks with
  | nil => simp [splitAtFirst?,Lacks]
  | cons k ks ih =>
    rw [Lacks,List.forall_mem_cons,← Lacks,← ih,← splitAt_eq_none]
    cases split : splitAt? k items <;> simp [splitAtFirst?,split]

/-- The items are split at a connective looser than every other one among them. -/
theorem splitAtFirst_eq_some {ks : List Connective} {k : Connective}
    {items left right : List Item} (split : splitAtFirst? ks items = some (k,left,right)) :
    ∃ looser tighter, ks = looser ++ k :: tighter ∧ Lacks looser items ∧
      splitAt? k items = some (left,right) := by
  induction ks with
  | nil => simp [splitAtFirst?] at split
  | cons k' ks ih =>
    simp only [splitAtFirst?] at split
    split at split
    · next found =>
      cases split
      exact ⟨[],ks,rfl,by simp [Lacks],found⟩
    · next missing =>
      obtain ⟨looser,tighter,rfl,lacks,found⟩ := ih split
      refine ⟨k' :: looser,tighter,rfl,?_,found⟩
      exact List.forall_mem_cons.mpr ⟨splitAt_eq_none.mp missing,lacks⟩

theorem splitAtFirst_of_lacks {looser tighter : List Connective} {k : Connective}
    {items left right : List Item} (lacks : Lacks looser items)
    (split : splitAt? k items = some (left,right)) :
    splitAtFirst? (looser ++ k :: tighter) items = some (k,left,right) := by
  induction looser with
  | nil => simp [splitAtFirst?,split]
  | cons k' looser ih =>
    obtain ⟨missing,lacks⟩ := List.forall_mem_cons.mp lacks
    simp only [List.cons_append,splitAtFirst?,splitAt_eq_none.mpr missing]
    exact ih lacks

/-- Where a binary connective splits several items, both sides are read as groups of their own. -/
theorem readGroup_split {top : Bool} {k : Connective} {items left right : List Item}
    (many : 2 ≤ items.length)
    (split : splitAtFirst? Connective.binary items = some (k,left,right)) :
    readGroup top items =
      if left.isEmpty || right.isEmpty then
        .error (.malformed (Item.renderAll items) .missingOperand)
      else do
        let leftTree ← readGroup false left
        let rightTree ← readGroup false right
        return .binary k leftTree rightTree := by
  match items with
  | [] => simp at many
  | [_] => simp at many
  | first :: second :: rest =>
    rw [readGroup]
    split
    · next found =>
      cases split.symm.trans found
      rfl
    · next missing => cases split.symm.trans missing

/-- Several items without a binary connective are a negation or lack one. -/
theorem readGroup_unsplit {top : Bool} {first : Item} {items : List Item} (more : items ≠ [])
    (unsplit : splitAtFirst? Connective.binary (first :: items) = none) :
    readGroup top (first :: items) =
      if first.connective? = some .not then
        if items.all (·.connective? = some .not) then
          .error (.malformed (Item.renderAll (first :: items)) .malformedNegation)
        else do return .not (← readGroup false items)
      else .error (.malformed (Item.renderAll (first :: items)) .missingOperator) := by
  obtain ⟨second,rest,rfl⟩ := List.exists_cons_of_ne_nil more
  rw [readGroup]
  split
  · next found => cases unsplit.symm.trans found
  · rfl

theorem readGroup_joined {top : Bool} {k : Connective} {items left right : List Item}
    (split : splitAtFirst? Connective.binary items = some (k,left,right))
    (someLeft : left ≠ []) (someRight : right ≠ []) :
    readGroup top items = (do
      let leftTree ← readGroup false left
      let rightTree ← readGroup false right
      return .binary k leftTree rightTree) := by
  obtain ⟨_,_,_,_,found⟩ := splitAtFirst_eq_some split
  have many : 2 ≤ items.length := by
    have parts := congrArg List.length (splitAt_eq_some.mp found).1
    have := List.length_pos_iff.mpr someLeft
    rw [List.length_append,List.length_cons] at parts
    omega
  rw [readGroup_split many split]
  simp [someLeft,someRight]

/-- With no binary connective, `not` is read off the front of a group. -/
theorem readGroup_negated {top : Bool} {items : List Item} (lacks : Lacks Connective.binary items)
    (operand : ∃ item ∈ items, item.connective? ≠ some .not) :
    readGroup top (.token Connective.not.keyword :: items) =
      (do return .not (← readGroup false items)) := by
  obtain ⟨item,member,differs⟩ := operand
  have missing : splitAtFirst? Connective.binary (.token Connective.not.keyword :: items) = none := by
    apply splitAtFirst_eq_none.mpr
    intro k binary found
    rcases List.mem_cons.mp found with same | found
    · have := Connective.keyword_injective (Item.token.inj same)
      subst this
      simp [Connective.binary] at binary
    · exact lacks k binary found
  have some : ¬items.all (·.connective? = some .not) := by
    intro all
    exact differs (of_decide_eq_true (List.all_eq_true.mp all item member))
  rw [readGroup_unsplit (List.ne_nil_of_mem member) missing,
    if_pos (Item.connective_eq_some.mpr rfl),if_neg some]

namespace Derives

theorem ne_nil (derived : Derives ks items result) : items ≠ [] := by
  induction derived with
  | tighter _ ih => exact ih
  | joined => simp
  | negated => simp
  | named => simp
  | grouped => simp

/-- A layer derives no items with a looser connective among them. -/
theorem lacks (derived : Derives ks items result) (looser : List Connective)
    (layers : looser ++ ks = Connective.binary) : Lacks looser items := by
  have not_binary (k : Connective) (member : k ∈ Connective.binary) : k ≠ .not := by
    rintro rfl
    simp [Connective.binary] at member
  induction derived generalizing looser with
  | @tighter ks items k tree _ ih =>
    have inner := ih (looser ++ [k]) (by simpa using layers)
    exact fun k' member => inner k' (List.mem_append_left _ member)
  | @joined ks left leftTree k right rightTree _ _ ihLeft ihRight =>
    have inLeft := ihLeft (looser ++ [k]) (by simpa using layers)
    have inRight := ihRight looser layers
    have distinct : (looser ++ k :: ks).Nodup := by rw [layers]; decide
    intro k' member found
    rcases List.mem_append.mp found with found | found
    · exact inLeft k' (List.mem_append_left _ member) found
    rcases List.mem_cons.mp found with same | found
    · obtain rfl := Connective.keyword_injective (Item.token.inj same)
      exact (List.nodup_append.mp distinct).2.2 k' member k' (List.mem_cons_self ..) rfl
    · exact inRight k' member found
  | negated _ ih =>
    intro k member found
    rcases List.mem_cons.mp found with same | found
    · refine not_binary k ?_ (Connective.keyword_injective (Item.token.inj same))
      rw [← layers]
      exact List.mem_append_left _ member
    · exact ih looser layers k member found
  | named valid =>
    intro k member found
    have same := Item.token.inj (List.mem_singleton.mp found)
    exact Name.not_keyword valid k same.symm
  | grouped =>
    intro k member found
    cases List.mem_singleton.mp found

/-- A derivation of the tightest layer ends in a name or a group. -/
theorem operand (derived : Derives [] items result) :
    ∃ item ∈ items, item.connective? ≠ some .not := by
  generalize layer : ([] : List Connective) = ks at derived
  induction derived with
  | tighter => cases layer
  | joined => cases layer
  | negated _ ih =>
    obtain ⟨item,member,differs⟩ := ih layer
    exact ⟨item,List.mem_cons_of_mem _ member,differs⟩
  | @named text valid =>
    refine ⟨.token text,List.mem_singleton_self _,?_⟩
    intro same
    exact Name.not_keyword valid .not (Connective.ofKeyword_eq_some.mp same)
  | @grouped items =>
    exact ⟨.group items,List.mem_singleton_self _,by simp [Item.connective?]⟩

/-- What a layer derives is read as derived, at the top or within a group. -/
theorem readGroup_eq_ok (derived : Derives ks items result) (looser : List Connective)
    (layers : looser ++ ks = Connective.binary) (top : Bool) :
    readGroup top items = .ok result := by
  induction derived generalizing looser top with
  | @tighter ks items k tree _ ih => exact ih (looser ++ [k]) (by simpa using layers) top
  | @joined ks left leftTree k right rightTree derivedLeft derivedRight ihLeft ihRight =>
    have tighter : looser ++ [k] ++ ks = Connective.binary := by simpa using layers
    have lacksLeft := derivedLeft.lacks _ tighter k (by simp)
    have split : splitAtFirst? (looser ++ k :: ks) (left ++ .token k.keyword :: right) =
        some (k,left,right) :=
      splitAtFirst_of_lacks ((joined derivedLeft derivedRight).lacks looser layers)
        (splitAt_eq_some.mpr ⟨rfl,lacksLeft⟩)
    rw [layers] at split
    rw [readGroup_joined split derivedLeft.ne_nil derivedRight.ne_nil,ihLeft _ tighter,
      ihRight looser layers]
    rfl
  | negated derived ih =>
    rw [readGroup_negated (derived.lacks _ (List.append_nil _)) derived.operand,
      ih looser layers]
    rfl
  | named valid =>
    rw [readGroup,readToken]
    simp [Name.isKeyword_of_isValid valid,valid]
  | grouped _ ih =>
    rw [readGroup]
    exact ih [] rfl top

/-- A looser layer derives what a tighter one does. -/
theorem loosen (derived : Derives ks items result) (looser : List Connective) :
    Derives (looser ++ ks) items result := by
  induction looser with
  | nil => exact derived
  | cons k looser ih => exact tighter ih

/-- In parentheses everything is derived in any layer. -/
theorem group (derived : Derives Connective.binary items result) (ks : List Connective) :
    Derives ks [.group items] result := by
  simpa using derived.grouped.loosen ks

/-- Where a connective does not occur its layer adds nothing. -/
theorem tighten (looser : List Connective) (derived : Derives (looser ++ ks) items result)
    (lacks : Lacks looser items) : Derives ks items result := by
  induction looser with
  | nil => exact derived
  | cons k looser ih =>
    obtain ⟨missing,lacks⟩ := List.forall_mem_cons.mp lacks
    cases derived with
    | tighter derived => exact ih derived lacks
    | joined => exact absurd (by simp) missing

/-- Names are valid and `not` joins no sides, whatever the layer. -/
theorem proper (derived : Derives ks items result) (looser : List Connective)
    (layers : looser ++ ks = Connective.binary) :
    result.Proper ∧ ∀ name ∈ result.names, Name.isValid name := by
  induction derived generalizing looser with
  | @tighter ks items k tree _ ih => exact ih (looser ++ [k]) (by simpa using layers)
  | @joined ks left leftTree k right rightTree _ _ ihLeft ihRight =>
    obtain ⟨properLeft,validLeft⟩ := ihLeft (looser ++ [k]) (by simpa using layers)
    obtain ⟨properRight,validRight⟩ := ihRight looser layers
    refine ⟨⟨ne_not_of_layers layers,properLeft,properRight⟩,?_⟩
    intro name member
    rcases List.mem_append.mp member with inLeft | inRight
    · exact validLeft name inLeft
    · exact validRight name inRight
  | negated _ ih => exact ih looser layers
  | named valid =>
    refine ⟨trivial,?_⟩
    intro name member
    rwa [List.mem_singleton.mp member]
  | grouped _ ih => exact ih [] rfl

end Derives

theorem readToken_eq_ok {text : String} {result : Tree} :
    readToken text = .ok result ↔ Name.isValid text ∧ result = .name text := by
  unfold readToken
  split
  · next keyword =>
    constructor
    · intro read
      cases read
    · rintro ⟨valid,-⟩
      rw [Name.isKeyword_of_isValid valid] at keyword
      cases keyword
  · split
    · next valid => simp [valid,eq_comm]
    · next invalid => simp [invalid]

/-- What is read is derived. The two sides of a split lack the connectives looser than the one
between them, which puts them in its layers. -/
theorem derives_of_readGroup {top : Bool} {items : List Item} {result : Tree}
    (read : readGroup top items = .ok result) : Derives Connective.binary items result := by
  fun_induction readGroup top items generalizing result with
  | case1 => cases read
  | case2 top text =>
    obtain ⟨valid,rfl⟩ := readToken_eq_ok.mp read
    exact (Derives.named valid).loosen Connective.binary
  | case3 top inner ih => exact (Derives.grouped (ih read)).loosen Connective.binary
  | case4 => cases read
  | case5 top first second rest k left right split some ihLeft ihRight =>
    obtain ⟨looser,tighter,layers,lacks,found⟩ := splitAtFirst_eq_some split
    obtain ⟨parts,first_split⟩ := splitAt_eq_some.mp found
    rw [parts] at lacks
    obtain ⟨leftTree,readLeft,read⟩ := bind_eq_ok.mp read
    obtain ⟨rightTree,readRight,same⟩ := bind_eq_ok.mp read
    cases same
    have derivedLeft : Derives tighter left leftTree := by
      apply Derives.tighten (looser ++ [k])
      · simpa [← layers] using ihLeft readLeft
      · intro k' member
        rcases List.mem_append.mp member with member | member
        · exact lacks.append.1 k' member
        · rwa [List.mem_singleton.mp member]
    have derivedRight : Derives (k :: tighter) right rightTree := by
      apply Derives.tighten looser
      · simpa [← layers] using ihRight readRight
      · exact fun k' member found => lacks.append.2 k' member (List.mem_cons_of_mem _ found)
    rw [parts,layers]
    exact (Derives.joined derivedLeft derivedRight).loosen looser
  | case6 => cases read
  | case7 top first second rest split negation some ih =>
    obtain ⟨operand,readRest,same⟩ := bind_eq_ok.mp read
    cases same
    have lacks := splitAtFirst_eq_none.mp split
    have derived : Derives [] (second :: rest) operand := by
      apply Derives.tighten Connective.binary
      · simpa using ih readRest
      · exact fun k member found => lacks k member (List.mem_cons_of_mem _ found)
    rw [Item.connective_eq_some.mp negation]
    exact derived.negated.loosen Connective.binary
  | case8 => cases read

theorem readGroup_eq_ok_iff {top : Bool} {items : List Item} {result : Tree} :
    readGroup top items = .ok result ↔ Derives Connective.binary items result :=
  ⟨derives_of_readGroup,fun derived => derived.readGroup_eq_ok [] rfl top⟩

/-- A group is read as a tree exactly if the grammar derives the tree from its items. The grammar
derives at most one tree, in which `not` joins no sides and all names are valid; a group from which
it derives none is an error. -/
theorem group_tree_exact (items : List Item) :
    (∀ result, (Item.group items).tree = .ok result ↔ Derives Connective.binary items result) ∧
    (∀ result other, Derives Connective.binary items result →
      Derives Connective.binary items other → result = other) ∧
    (∀ result, Derives Connective.binary items result →
      result.Proper ∧ ∀ name ∈ result.names, Name.isValid name) ∧
    ((∀ result, ¬Derives Connective.binary items result) →
      ∃ error, (Item.group items).tree = .error error) := by
  have exact_tree (result : Tree) :
      (Item.group items).tree = .ok result ↔ Derives Connective.binary items result := by
    rw [Item.tree,readGroup]
    exact readGroup_eq_ok_iff
  refine ⟨exact_tree,?_,?_,?_⟩
  · intro result other derived derived'
    have same := ((exact_tree result).mpr derived).symm.trans ((exact_tree other).mpr derived')
    exact Except.ok.inj same
  · exact fun result derived => derived.proper [] rfl
  · intro none
    cases read : (Item.group items).tree with
    | error error => exact ⟨error,rfl⟩
    | ok result => exact absurd ((exact_tree result).mp read) (none result)

end Statement
end Sentential
