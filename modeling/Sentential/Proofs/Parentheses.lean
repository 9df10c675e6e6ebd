import Sentential.Proofs.RoundTrip
import Sentential.Proofs.Spacing

/-! No text says a formula with fewer parentheses than its renderings do. A derivation of a formula
costs at least the groups of its items: what stands bare in a layer binds as tight as the layer does,
and a side that is spliced in gives up no group that it was not given. Respelling, spacing and
unwrapping add no parenthesis, so the count of the items is a bound on the text. -/
namespace Sentential

namespace Statement

open Text

/-- The number of groups among items, at every depth. -/
def Item.groups (items : List Item) : Nat := (Item.lexemesEach items).count .opening

@[simp] theorem Item.groups_append (items others : List Item) :
    groups (items ++ others) = groups items + groups others := by
  simp [groups]

@[simp] theorem Item.groups_nil : groups [] = 0 := rfl

@[simp] theorem Item.groups_token (text : String) (items : List Item) :
    groups (.token text :: items) = groups items := by
  simp [groups]

@[simp] theorem Item.groups_group (inner items : List Item) :
    groups (.group inner :: items) = groups inner + 1 + groups items := by
  simp [groups]
  omega

@[simp] theorem Item.groups_enclose (needed : Bool) (items : List Item) :
    groups (enclose needed items) = groups items + needed.toNat := by
  cases needed <;> simp [enclose]

theorem count_finish (word : List Char) : (Lexeme.finish word).count .opening = 0 := by
  cases word <;> simp [Lexeme.finish]

/-- An opening parenthesis is never part of a word. -/
theorem count_lexemes (word text : List Char) :
    (lexemes word text).count .opening = text.count '(' := by
  induction text generalizing word with
  | nil => simp [lexemes,count_finish]
  | cons c text ih =>
    by_cases opens : c = '('
    · simp [opens,count_finish,ih]
    · rw [List.count_cons_of_ne opens,lexemes]
      split
      · exact ih (c :: word)
      · have unmarked : (Lexeme.mark c).count .opening = 0 := by
          rw [Lexeme.mark,if_neg opens]
          split <;> rfl
        rw [List.count_append,List.count_append,count_finish,unmarked,ih]
        omega

theorem count_respell (text : List Char) : (respell text).count '(' = text.count '(' := by
  have none {text : List Char} (bare : ∀ c ∈ text, isParenthesis c = false) :
      text.count '(' = 0 := by
    rw [List.count_eq_zero]
    intro member
    exact absurd (bare '(' member) (by decide)
  induction text using runs_ind with
  | nil => simp [respell]
  | apart c rest apart ih => rw [respell_apart apart,List.count_cons,List.count_cons,ih]
  | run word rest _ plain bounded ih =>
    have bare : ∀ c ∈ word, isParenthesis c = false :=
      fun c member => isParenthesis_of_isPlain (plain c member)
    rw [respell_append bounded,List.count_append,List.count_append,ih,none bare,
      none (bare_respell bare)]

end Statement

namespace Formula

open Statement

/-- The groups of a formula where what binds this loose or looser is put into a group. -/
def groupsAt (loose : Nat) (formula : Formula) : Nat :=
  Item.groups formula.items + (decide (formula.strength ≤ loose)).toNat

def groupsEach (loose : Nat) : List Formula → Nat
  | [] => 0
  | formula :: formulas => formula.groupsAt loose + groupsEach loose formulas

theorem groupsEach_append (loose : Nat) (formulas others : List Formula) :
    groupsEach loose (formulas ++ others) =
      groupsEach loose formulas + groupsEach loose others := by
  induction formulas with
  | nil => simp [groupsEach]
  | cons formula formulas ih =>
    rw [List.cons_append,groupsEach,groupsEach,ih]
    omega

theorem groupsAt_mono {loose looser : Nat} (le : looser ≤ loose) (formula : Formula) :
    formula.groupsAt looser ≤ formula.groupsAt loose := by
  have toNat_mono : (decide (formula.strength ≤ looser)).toNat ≤
      (decide (formula.strength ≤ loose)).toNat := by
    by_cases tight : formula.strength ≤ looser
    · have tight' : formula.strength ≤ loose := by omega
      simp [tight,tight']
    · simp [tight]
  exact Nat.add_le_add_left toNat_mono _

/-- Where a formula binds tighter it may stand bare. -/
theorem groupsAt_bare {loose : Nat} {formula : Formula} (tight : loose < formula.strength) :
    formula.groupsAt loose = Item.groups formula.items := by
  have bare : ¬formula.strength ≤ loose := by omega
  simp [groupsAt,bare]

theorem groups_neg (operand : Formula) :
    Item.groups (neg operand).items = Item.groups operand.items + (!operand.isVariable).toNat := by
  simp [items]

/-- A side of a connective costs what it costs in the layer that the connective asks for. -/
theorem groups_sides (k : Connective) (left right : Formula) :
    Item.groups (Item.enclose (left.strength ≤ k.precedence) left.items ++
        .token k.keyword :: Item.enclose (right.strength < k.precedence) right.items) =
      left.groupsAt k.precedence + right.groupsAt (k.precedence - 1) := by
  have positive : 0 < k.precedence := by cases k <;> decide
  have below : right.strength ≤ k.precedence - 1 ↔ right.strength < k.precedence := by omega
  simp only [Item.groups_append,Item.groups_token,Item.groups_enclose,groupsAt,below]

theorem groups_junction (kind : Junction) (operands : List Formula) :
    Item.groups (junction kind operands).items =
      groupsEach (kind.connective.precedence - 1) operands := by
  have positive : 0 < kind.connective.precedence := by cases kind <;> decide
  rw [items]
  induction operands with
  | nil => rfl
  | cons operand operands ih =>
    have below : operand.strength ≤ kind.connective.precedence - 1 ↔
        operand.strength < kind.connective.precedence := by
      omega
    cases operands with
    | nil => simp [itemsEach,groupsEach,groupsAt,below]
    | cons next operands =>
      rw [groupsEach,← ih]
      simp [itemsEach,groupsAt,below]

/-- What a formula contributes to a junction costs no more than the formula as a side of it. -/
theorem groupsEach_spliced (kind : Junction) (formula : Formula) :
    groupsEach (kind.connective.precedence - 1) (formula.spliced kind) ≤
      formula.groupsAt (kind.connective.precedence - 1) := by
  by_cases alike : formula.connective? = some kind.connective
  · obtain ⟨operands,rfl⟩ := exists_junction_of_connective alike
    rw [spliced_junction,← groups_junction]
    exact Nat.le_add_right _ _
  · rw [spliced_of_ne alike,groupsEach,groupsEach]
    omega

theorem strength_combine {k : Connective} (binary : k ≠ .not) (left right : Formula) :
    (combine k left right).strength = k.precedence := by
  cases k with
  | not => exact absurd rfl binary
  | _ => rfl

/-- What is made of two sides costs no more than the sides do. -/
theorem groups_combine {k : Connective} (binary : k ≠ .not) (left right : Formula) :
    Item.groups (combine k left right).items ≤
      left.groupsAt k.precedence + right.groupsAt (k.precedence - 1) := by
  have joined (kind : Junction) : Item.groups (join kind left right).items ≤
      left.groupsAt kind.connective.precedence +
        right.groupsAt (kind.connective.precedence - 1) := by
    have ofLeft := groupsEach_spliced kind left
    have ofRight := groupsEach_spliced kind right
    have wider := groupsAt_mono (Nat.sub_le kind.connective.precedence 1) left
    rw [join,groups_junction,groupsEach_append]
    omega
  cases k with
  | not => exact absurd rfl binary
  | and => exact joined .and
  | or => exact joined .or
  | xor => exact joined .xor
  | implies => exact Nat.le_of_eq (groups_sides .implies left right)
  | iff => exact Nat.le_of_eq (groups_sides .iff left right)

/-- What is negated stands in a group unless it is a name or a negation, which is unwrapped. -/
theorem groupsAt_not {loose : Nat} (loose_eq : loose + 1 = Connective.not.precedence)
    (formula : Formula) : formula.not.groupsAt loose ≤ formula.groupsAt loose := by
  by_cases negated : formula.connective? = some .not
  · obtain ⟨operand,rfl⟩ := exists_neg_of_connective negated
    have unwrapped : (neg operand).not = operand := rfl
    have bare : loose < (neg operand).strength := Nat.lt_of_succ_le (Nat.le_of_eq loose_eq)
    have tight : (decide (operand.strength ≤ loose)).toNat ≤ (!operand.isVariable).toNat := by
      cases operand with
      | var name =>
        have above : ¬(var name).strength ≤ loose := Nat.not_le_of_lt (Nat.lt_succ_of_lt bare)
        simp [above]
      | _ => exact Bool.toNat_le _
    rw [unwrapped,groupsAt_bare bare,groups_neg]
    exact Nat.add_le_add_left tight _
  · have bare : loose < (neg formula).strength := Nat.lt_of_succ_le (Nat.le_of_eq loose_eq)
    rw [not_eq_neg negated,groupsAt_bare bare,groups_neg]
    cases compound : !formula.isVariable with
    | false => exact Nat.le_add_right _ _
    | true =>
      have looser := strength_lt negated compound
      have within : formula.strength ≤ loose := by omega
      simp [groupsAt,within]

end Formula

namespace Statement

theorem precedence_of_layers {looser ks : List Connective} {k : Connective}
    (layers : looser ++ k :: ks = Connective.binary) : k.precedence = looser.length + 1 := by
  have found : Connective.binary[looser.length]? = some k := by
    rw [← layers,List.getElem?_append_right (Nat.le_refl _),Nat.sub_self]
    rfl
  rcases place : looser.length with _ | _ | _ | _ | _ | place
  all_goals rw [place] at found
  all_goals cases found
  all_goals rfl

/-- Items cost at least as many groups as the formula that is derived from them, in the layer that
they are derived in. -/
theorem Derives.groupsAt_le (derived : Derives ks items result) (looser : List Connective)
    (layers : looser ++ ks = Connective.binary) :
    result.formula.groupsAt looser.length ≤ Item.groups items := by
  induction derived generalizing looser with
  | @tighter ks items k tree _ ih =>
    have inner := ih (looser ++ [k]) (by simpa using layers)
    have wider := Formula.groupsAt_mono (Nat.le_add_right looser.length 1) tree.formula
    rw [List.length_append,List.length_singleton] at inner
    omega
  | @joined ks left leftTree k right rightTree _ _ ihLeft ihRight =>
    have ofLeft := ihLeft (looser ++ [k]) (by simpa using layers)
    have ofRight := ihRight looser layers
    have binary := ne_not_of_layers layers
    have precedence := precedence_of_layers layers
    have whole := Formula.groups_combine binary leftTree.formula rightTree.formula
    have root : looser.length < (Formula.combine k leftTree.formula rightTree.formula).strength := by
      rw [Formula.strength_combine binary,precedence]
      exact Nat.lt_succ_self _
    rw [List.length_append,List.length_singleton] at ofLeft
    rw [precedence,Nat.add_sub_cancel] at whole
    rw [Tree.formula,Formula.groupsAt_bare root,Item.groups_append,Item.groups_token]
    omega
  | @negated items tree _ ih =>
    have inner := ih looser layers
    have all : looser.length + 1 = Connective.not.precedence := by
      rw [List.append_nil] at layers
      rw [layers]
      rfl
    have outer := Formula.groupsAt_not all tree.formula
    rw [Tree.formula,Item.groups_token]
    omega
  | @named text valid =>
    have root : looser.length < (Formula.var text).strength := by
      rw [List.append_nil] at layers
      rw [layers]
      exact (by decide : Connective.binary.length < Connective.not.precedence + 1)
    rw [Tree.formula,Formula.groupsAt_bare root]
    exact Nat.le_refl _
  | @grouped items tree _ ih =>
    have inner := ih [] rfl
    have least := Nat.le_trans (Nat.le_add_right _ _) inner
    have most : tree.formula.groupsAt looser.length ≤ Item.groups tree.formula.items + 1 :=
      Nat.add_le_add_left (Bool.toNat_le _) _
    rw [Item.groups_group,Item.groups_nil]
    omega

end Statement

namespace Formula

open Statement

/-- The text of a formula has a parenthesis for each group of its items. -/
theorem layout_groups (style : Style) : Layout style fun items text =>
    text.count '(' = Item.groups items where
  name := by
    intro name speakable
    have named := Name.chars_of_isValid
      (by simpa using speakable.1 : Name.isValid (.ofList name.toList))
    rw [Item.groups_token,Item.groups_nil,List.count_eq_zero]
    intro member
    exact absurd (named.2 '(' member) (by decide)
  group := by
    intro items text _ counted
    simp [counted]
  negation := by
    intro items text counted
    have sign : style.negation.count '(' = 0 := by cases style <;> decide
    simp [counted,sign]
  sides := by
    intro k left right leftText rightText _ countedLeft countedRight
    have sign : (style.between k).count '(' = 0 := by cases style <;> cases k <;> decide
    simp [countedLeft,countedRight,sign]

end Formula

namespace Statement

/-- Every text that is read as a formula has at least the parentheses of the formula's text. -/
theorem count_chars_le {statement : String} {formula : Formula}
    (accepted : parse statement = .ok formula) (style : Formula.Style) :
    (formula.chars style).count '(' ≤ statement.toList.count '(' := by
  obtain ⟨canonical,speakable⟩ := (Expressible.parsed accepted).canonical
  obtain ⟨items,result,spelled,derived,rfl⟩ := parse_eq_ok_iff_respelled.mp accepted
  have written := (Formula.layout_groups style).formula canonical speakable
  have least := derived.groupsAt_le [] rfl
  calc
    (result.formula.chars style).count '('
      = Item.groups result.formula.items := written
    _ ≤ result.formula.groupsAt 0 := Nat.le_add_right _ _
    _ ≤ Item.groups items := least
    _ = (respell statement.toList).count '(' := by rw [Item.groups,← spelled,count_lexemes]
    _ = statement.toList.count '(' := count_respell _

/-- No text that is read as a formula has fewer parentheses than the formula has in either style. So in
its own text every pair is needed, as is each `(` with any `)` behind it: without them the text is
refused or is read as another formula. With all of them, the text of a formula that statements can
express is read as this formula. -/
theorem fewest_parentheses (formula : Formula) (style : Formula.Style) :
    (∀ statement, parse statement = .ok formula →
      (formula.chars style).count '(' ≤ statement.toList.count '(') ∧
    (∀ before inside after,
      formula.chars style = before ++ '(' :: (inside ++ ')' :: after) →
      parse (String.ofList (before ++ (inside ++ after))) ≠ .ok formula) ∧
    (Expressible formula → parse (formula.render style) = .ok formula) := by
  refine ⟨fun statement accepted => count_chars_le accepted style,?_,?_⟩
  · intro before inside after paired accepted
    have least := count_chars_le accepted style
    have closing : (')' :: after).count '(' = after.count '(' := List.count_cons_of_ne (by decide)
    rw [paired,String.toList_ofList] at least
    simp only [List.count_append,List.count_cons_self,closing] at least
    omega
  · intro expressible
    exact expressible.parse_render style

end Statement
end Sentential
