import Sentential.Formula.Render
import Sentential.Proofs.Reading

/-! The items that a formula is rendered as, the same in either style. The grammar derives from them
a tree of the formula, and what every step of rendering keeps, as a `Layout`, relates the items of a
formula to its text. -/
namespace Sentential

open Statement

namespace Statement

/-- Whether a binary connective stands among the items. Those in groups do not count. -/
def Item.joins (items : List Item) : Bool := items.any fun item => item.connective?.any (· != .not)

def Item.enclose (needed : Bool) (items : List Item) : List Item :=
  if needed then [.group items] else items

/-- The binary connectives from the one with this precedence on to the tightest. -/
def layer (precedence : Nat) : List Connective := Connective.binary.drop (precedence - 1)

theorem layer_precedence {k : Connective} (binary : k ≠ .not) :
    layer k.precedence = k :: layer (k.precedence + 1) := by
  cases k with
  | not => exact absurd rfl binary
  | _ => rfl

/-- What a tighter layer derives is derived in any layer looser than it. -/
theorem Derives.layer_le {precedence tighter : Nat} (le : precedence ≤ tighter)
    (derived : Derives (layer tighter) items result) : Derives (layer precedence) items result := by
  have split : layer precedence = (layer precedence).take (tighter - 1 - (precedence - 1)) ++
      layer tighter := by
    have rest : layer tighter = (layer precedence).drop (tighter - 1 - (precedence - 1)) := by
      rw [layer,layer,List.drop_drop]
      congr 1
      omega
    rw [rest,List.take_append_drop]
  rw [split]
  exact derived.loosen _

theorem Derives.enclose {precedence strength : Nat} {needed : Bool}
    (derived : Derives (layer strength) items result)
    (tight : needed = false → precedence ≤ strength) :
    Derives (layer precedence) (Item.enclose needed items) result := by
  cases needed with
  | false => exact derived.layer_le (tight rfl)
  | true =>
    have whole : Derives Connective.binary items result := by
      simpa [layer] using derived.layer_le (Nat.zero_le _)
    exact whole.group (layer precedence)

end Statement

namespace Formula

mutual

/-- The items of a formula, with groups where its text has parentheses. -/
def items : Formula → List Item
  | .var name => [.token name]
  | .neg operand =>
    .token Connective.not.keyword :: Item.enclose (!operand.isVariable) operand.items
  | .junction kind operands =>
    [.token kind.connective.keyword].intercalate (itemsEach kind.connective.precedence operands)
  | .conditional left right =>
    Item.enclose (left.strength ≤ Connective.implies.precedence) left.items ++
      .token Connective.implies.keyword ::
      Item.enclose (right.strength < Connective.implies.precedence) right.items
  | .biconditional left right =>
    Item.enclose (left.strength ≤ Connective.iff.precedence) left.items ++
      .token Connective.iff.keyword ::
      Item.enclose (right.strength < Connective.iff.precedence) right.items

def itemsEach (precedence : Nat) : List Formula → List (List Item)
  | [] => []
  | operand :: operands =>
    Item.enclose (operand.strength < precedence) operand.items :: itemsEach precedence operands

end

/-- Only one connective has a given precedence. -/
theorem strength_ne {formula : Formula} {k : Connective} (other : formula.connective? ≠ some k) :
    formula.strength ≠ k.precedence := by
  unfold strength
  cases root : formula.connective? with
  | none => cases k <;> decide
  | some k' =>
    have differs : k' ≠ k := by
      rintro rfl
      exact other root
    revert differs
    cases k <;> cases k' <;> decide

theorem precedence_lt {k : Connective} (binary : k ≠ .not) :
    k.precedence < Connective.not.precedence := by
  revert binary
  cases k <;> decide

theorem ne_nil_of_many {operands : List Formula} (many : 2 ≤ operands.length) :
    operands ≠ [] := by
  rintro rfl
  simp at many

theorem mem_leaves_junction {kind : Junction} {operand : Formula} {operands : List Formula}
    (member : operand ∈ operands) {name : String} (leaf : name ∈ operand.leaves) :
    name ∈ (junction kind operands).leaves := by
  rw [leaves_junction]
  exact List.mem_flatMap.mpr ⟨operand,member,leaf⟩

theorem strength_lt {formula : Formula} (other : formula.connective? ≠ some .not)
    (compound : !formula.isVariable) : formula.strength < Connective.not.precedence := by
  cases formula with
  | var => cases compound
  | neg => exact absurd rfl other
  | junction kind => exact precedence_lt kind.connective_ne_not
  | conditional => exact precedence_lt (k := .implies) (by decide)
  | biconditional => exact precedence_lt (k := .iff) (by decide)

/-- A formula is derived from its items in the layer of its root. -/
def Derivable (formula : Formula) : Prop :=
  ∃ result : Tree, Derives (layer formula.strength) formula.items result ∧ result.formula = formula

theorem Derivable.enclose {formula : Formula} (derivable : formula.Derivable) (precedence : Nat)
    (needed : Bool) (tight : needed = false → precedence ≤ formula.strength) :
    ∃ result : Tree, Derives (layer precedence) (Item.enclose needed formula.items) result ∧
      result.formula = formula := by
  obtain ⟨result,derived,same⟩ := derivable
  exact ⟨result,derived.enclose tight,same⟩

/-- A left side binds tighter than the connective, a right side at least as tight. -/
theorem derives_sides {k : Connective} (binary : k ≠ .not) {left right : Formula}
    (derivableLeft : left.Derivable) (derivableRight : right.Derivable) :
    ∃ leftTree rightTree : Tree, Derives (layer k.precedence)
      (Item.enclose (left.strength ≤ k.precedence) left.items ++
        .token k.keyword :: Item.enclose (right.strength < k.precedence) right.items)
      (.binary k leftTree rightTree) ∧ leftTree.formula = left ∧ rightTree.formula = right := by
  obtain ⟨leftTree,derivedLeft,sameLeft⟩ :=
    derivableLeft.enclose (k.precedence + 1) (left.strength ≤ k.precedence) fun tight =>
      Nat.lt_of_not_le (of_decide_eq_false tight)
  obtain ⟨rightTree,derivedRight,sameRight⟩ :=
    derivableRight.enclose k.precedence (right.strength < k.precedence) fun tight =>
      Nat.le_of_not_lt (of_decide_eq_false tight)
  rw [layer_precedence binary] at derivedRight ⊢
  exact ⟨leftTree,rightTree,.joined derivedLeft derivedRight,sameLeft,sameRight⟩

/-- The operands of a junction are in tighter layers and are joined from the right. -/
theorem derives_joined {kind : Junction} {operands : List Formula} (nonempty : operands ≠ [])
    (derivable : ∀ operand ∈ operands, operand.Derivable)
    (apart : ∀ operand ∈ operands, operand.connective? ≠ some kind.connective) :
    ∃ result : Tree, Derives (layer kind.connective.precedence)
      ([.token kind.connective.keyword].intercalate
        (itemsEach kind.connective.precedence operands)) result ∧
      result.formula.spliced kind = operands ∧
      (2 ≤ operands.length → result.formula = .junction kind operands) := by
  induction operands with
  | nil => exact absurd rfl nonempty
  | cons operand operands ih =>
    obtain ⟨first,derivable⟩ := List.forall_mem_cons.mp derivable
    obtain ⟨other,apart⟩ := List.forall_mem_cons.mp apart
    have tight (bare : decide (operand.strength < kind.connective.precedence) = false) :
        kind.connective.precedence + 1 ≤ operand.strength := by
      have differs := strength_ne other
      have := of_decide_eq_false bare
      omega
    obtain ⟨result,derived,same⟩ := first.enclose _ _ tight
    have alone : result.formula.spliced kind = [operand] := by rw [same,spliced_of_ne other]
    rw [layer_precedence kind.connective_ne_not]
    cases operands with
    | nil =>
      refine ⟨result,?_,alone,fun many => ?_⟩
      · simpa [itemsEach] using derived.tighter
      · simp at many
    | cons next operands =>
      obtain ⟨rest,derivedRest,splicedRest,_⟩ := ih (List.cons_ne_nil _ _) derivable apart
      rw [layer_precedence kind.connective_ne_not] at derivedRest
      refine ⟨.binary kind.connective result rest,?_,?_,fun _ => ?_⟩
      · simpa [itemsEach] using Derives.joined derived derivedRest
      · rw [Tree.formula,combine_connective,spliced_join,alone,splicedRest,List.singleton_append]
      · rw [Tree.formula,combine_connective,join,alone,splicedRest,List.singleton_append]

/-- Every canonical formula with valid names is derived from its items. -/
theorem Canonical.derivable {formula : Formula} (canonical : formula.Canonical)
    (valid : ∀ name ∈ formula.leaves, Name.isValid name) : formula.Derivable := by
  induction canonical with
  | @var name =>
    have derived : Derives [] [.token name] (.name name) :=
      .named (valid name (by simp [leaves_var]))
    exact ⟨.name name,derived,rfl⟩
  | @neg operand _ other ih =>
    rw [leaves_neg] at valid
    have tight (bare : (!operand.isVariable) = false) :
        Connective.not.precedence ≤ operand.strength := by
      cases operand with
      | var => exact Nat.le_succ _
      | _ => cases bare
    obtain ⟨result,derived,same⟩ := (ih valid).enclose _ _ tight
    refine ⟨.not result,derived.negated,?_⟩
    rw [Tree.formula,same,not_eq_neg other]
  | @junction kind operands many canonical apart ih =>
    have derivable : ∀ operand ∈ operands, operand.Derivable := by
      intro operand member
      exact ih operand member fun name leaf => valid name (mem_leaves_junction member leaf)
    obtain ⟨result,derived,_,whole⟩ := derives_joined (ne_nil_of_many many) derivable apart
    exact ⟨result,derived,whole many⟩
  | conditional _ _ ihLeft ihRight =>
    obtain ⟨validLeft,validRight⟩ := List.forall_mem_append.mp (leaves_conditional .. ▸ valid)
    obtain ⟨left,right,derived,rfl,rfl⟩ :=
      derives_sides (k := .implies) (by decide) (ihLeft validLeft) (ihRight validRight)
    exact ⟨.binary .implies left right,derived,rfl⟩
  | biconditional _ _ ihLeft ihRight =>
    obtain ⟨validLeft,validRight⟩ := List.forall_mem_append.mp (leaves_biconditional .. ▸ valid)
    obtain ⟨left,right,derived,rfl,rfl⟩ :=
      derives_sides (k := .iff) (by decide) (ihLeft validLeft) (ihRight validRight)
    exact ⟨.binary .iff left right,derived,rfl⟩

/-- A formula with a binary connective at its root has it among its items. -/
theorem Canonical.joins {formula : Formula} (canonical : formula.Canonical)
    (binary : formula.strength < Connective.not.precedence) : Item.joins formula.items := by
  have between (k : Connective) (binary : k ≠ .not) (left right : List Item) :
      Item.joins (left ++ .token k.keyword :: right) := by
    simp [Item.joins,Item.connective?,binary]
  cases canonical with
  | var => exact absurd binary (Nat.not_lt_of_le (Nat.le_succ _))
  | neg => exact absurd binary (Nat.lt_irrefl _)
  | @junction kind operands many =>
    rcases operands with _ | ⟨first,_ | ⟨second,rest⟩⟩
    · simp at many
    · simp at many
    · simpa [items,itemsEach] using between _ kind.connective_ne_not _ _
  | conditional => exact between .implies (by decide) _ _
  | biconditional => exact between .iff (by decide) _ _

/-- A relation between items and texts that is kept by every step of rendering in a style. Only
items with a binary connective are put into a group. -/
structure Layout (style : Style) (R : List Item → List Char → Prop) : Prop where
  name : ∀ name, Name.Speakable name → R [.token name] name.toList
  group : ∀ items text, Item.joins items → R items text →
    R [.group items] ('(' :: text ++ [')'])
  negation : ∀ items text, R items text →
    R (.token Connective.not.keyword :: items) (style.negation ++ text)
  sides : ∀ k left right leftText rightText, k ≠ .not → R left leftText → R right rightText →
    R (left ++ .token k.keyword :: right) (leftText ++ style.between k ++ rightText)

section

variable {style : Style} {R : List Item → List Char → Prop}

theorem Layout.enclose (layout : Layout style R) {formula : Formula}
    (canonical : formula.Canonical) (related : R formula.items (formula.chars style))
    {needed : Bool} (binary : needed → formula.strength < Connective.not.precedence) :
    R (Item.enclose needed formula.items) (Formula.enclose needed (formula.chars style)) := by
  cases needed with
  | false => exact related
  | true => exact layout.group _ _ (canonical.joins (binary rfl)) related

theorem Layout.pair (layout : Layout style R) {k : Connective} (binary : k ≠ .not)
    {left right : Formula} (canonicalLeft : left.Canonical) (canonicalRight : right.Canonical)
    (relatedLeft : R left.items (left.chars style))
    (relatedRight : R right.items (right.chars style)) :
    R (Item.enclose (left.strength ≤ k.precedence) left.items ++
        .token k.keyword :: Item.enclose (right.strength < k.precedence) right.items)
      (Formula.enclose (left.strength ≤ k.precedence) (left.chars style) ++ style.between k ++
        Formula.enclose (right.strength < k.precedence) (right.chars style)) := by
  have loose := precedence_lt binary
  refine layout.sides _ _ _ _ _ binary ?_ ?_
  · refine layout.enclose canonicalLeft relatedLeft fun needed => ?_
    exact Nat.lt_of_le_of_lt (of_decide_eq_true needed) loose
  · refine layout.enclose canonicalRight relatedRight fun needed => ?_
    exact Nat.lt_trans (of_decide_eq_true needed) loose

theorem Layout.operands (layout : Layout style R) (kind : Junction) {operands : List Formula}
    (nonempty : operands ≠ []) (canonical : ∀ operand ∈ operands, operand.Canonical)
    (related : ∀ operand ∈ operands, R operand.items (operand.chars style)) :
    R ([.token kind.connective.keyword].intercalate
        (itemsEach kind.connective.precedence operands))
      ((style.between kind.connective).intercalate
        (charsEach style kind.connective.precedence operands)) := by
  induction operands with
  | nil => exact absurd rfl nonempty
  | cons operand operands ih =>
    obtain ⟨firstCanonical,canonical⟩ := List.forall_mem_cons.mp canonical
    obtain ⟨first,related⟩ := List.forall_mem_cons.mp related
    have enclosed := layout.enclose firstCanonical first fun needed =>
      Nat.lt_trans (of_decide_eq_true needed) (precedence_lt kind.connective_ne_not)
    cases operands with
    | nil => simpa [itemsEach,charsEach] using enclosed
    | cons next operands =>
      have rest := ih (List.cons_ne_nil _ _) canonical related
      have joined := layout.sides _ _ _ _ _ kind.connective_ne_not enclosed rest
      simpa [itemsEach,charsEach] using joined

/-- The relation holds between the items and the text of every formula that can be written. -/
theorem Layout.formula (layout : Layout style R) {formula : Formula}
    (canonical : formula.Canonical) (speakable : ∀ name ∈ formula.leaves, Name.Speakable name) :
    R formula.items (formula.chars style) := by
  induction canonical with
  | @var name => exact layout.name name (speakable name (by simp [leaves_var]))
  | neg canonical other ih =>
    rw [leaves_neg] at speakable
    exact layout.negation _ _ (layout.enclose canonical (ih speakable) (strength_lt other))
  | @junction kind operands many canonical _ ih =>
    refine layout.operands kind (ne_nil_of_many many) canonical ?_
    intro operand member
    exact ih operand member fun name leaf => speakable name (mem_leaves_junction member leaf)
  | conditional canonicalLeft canonicalRight ihLeft ihRight =>
    obtain ⟨left,right⟩ := List.forall_mem_append.mp (leaves_conditional .. ▸ speakable)
    exact layout.pair (by decide) canonicalLeft canonicalRight (ihLeft left) (ihRight right)
  | biconditional canonicalLeft canonicalRight ihLeft ihRight =>
    obtain ⟨left,right⟩ := List.forall_mem_append.mp (leaves_biconditional .. ▸ speakable)
    exact layout.pair (by decide) canonicalLeft canonicalRight (ihLeft left) (ihRight right)

end

end Formula
end Sentential
