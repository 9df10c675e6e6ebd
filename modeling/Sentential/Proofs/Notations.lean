import Sentential.Proofs.Chains
import Sentential.Proofs.Composition

/-! Statements and inline text are one language where they share their symbols. The one splits a group
at its loosest connective and goes on in both parts; the other reads a chain of operands and applies
precedence to it. A chain has a derivation since one more operand in front finds its place in the
derivation of the rest, and what a derivation stands for is what its chain resolves to. -/
namespace Sentential

open Inline (Chain Chained)

namespace Statement

/-- A negation in front of a derivation applies to its first operand. -/
theorem Derives.negate (derived : Derives ks items result) :
    ∃ negated, Derives ks (.token Connective.not.keyword :: items) negated := by
  induction derived with
  | tighter _ ih =>
    obtain ⟨tree,derived⟩ := ih
    exact ⟨tree,.tighter derived⟩
  | joined _ derivedRight ihLeft _ =>
    obtain ⟨tree,derived⟩ := ihLeft
    exact ⟨_,.joined derived derivedRight⟩
  | negated derived _ => exact ⟨_,.negated (.negated derived)⟩
  | named valid => exact ⟨_,.negated (.named valid)⟩
  | grouped derived _ => exact ⟨_,.negated (.grouped derived)⟩

/-- An operand with a connective in front of a derivation goes to the layer of the connective. -/
theorem Derives.precede {operand : List Item} {k : Connective} {tree : Tree}
    (single : Derives [] operand tree) (derived : Derives ks items result) (member : k ∈ ks) :
    ∃ joined, Derives ks (operand ++ .token k.keyword :: items) joined := by
  induction derived with
  | @tighter ks items k' result derived ih =>
    rcases List.mem_cons.mp member with rfl | tighter
    · have loose : Derives ks operand tree := by simpa using single.loosen ks
      exact ⟨_,.joined loose (.tighter derived)⟩
    · obtain ⟨joined,derived⟩ := ih tighter
      exact ⟨joined,.tighter derived⟩
  | @joined ks left leftTree k' right rightTree derivedLeft derivedRight ihLeft _ =>
    rcases List.mem_cons.mp member with rfl | tighter
    · have loose : Derives ks operand tree := by simpa using single.loosen ks
      exact ⟨_,.joined loose (.joined derivedLeft derivedRight)⟩
    · obtain ⟨joined,derived⟩ := ihLeft tighter
      have whole := Derives.joined derived derivedRight
      rw [List.append_assoc] at whole
      exact ⟨_,whole⟩
  | negated => cases member
  | named => cases member
  | grouped => cases member

end Statement

theorem Sign.connective_mem {sign : Sign} (binary : sign.connective ≠ .not) :
    sign.connective ∈ Connective.binary := by
  cases sign <;> first | decide | exact absurd rfl binary

namespace Phrase

/-- Only a sign is read as a keyword. -/
theorem eq_sign_of_item {phrase : Phrase} {k : Connective}
    (keyword : phrase.item = .token k.keyword) :
    ∃ sign, phrase = .sign sign ∧ sign.connective = k := by
  cases phrase with
  | name name =>
    have same := Statement.Item.token.inj keyword
    exact absurd same (Name.not_keyword name.speakable.1 k)
  | sign sign =>
    have same := Statement.Item.token.inj keyword
    exact ⟨sign,rfl,Connective.keyword_injective same⟩
  | group phrases => cases keyword

end Phrase

namespace Inline

open Statement (Derives)

/-- An operand is no keyword. -/
theorem Chained.lacks (single : Chained [phrase] chain) (ks : List Connective) :
    Statement.Lacks ks (Phrase.items [phrase]) := by
  intro k _ found
  obtain ⟨sign,rfl,-⟩ := Phrase.eq_sign_of_item (List.mem_singleton.mp found).symm
  cases single with
  | negated _ none => cases none

/-- The phrases of a chain have a derivation. -/
theorem Chained.derives (chained : Chained phrases chain) :
    ∃ tree, Derives Connective.binary (Phrase.items phrases) tree := by
  induction chained with
  | @name name => exact ⟨_,(Derives.named name.speakable.1).loosen Connective.binary⟩
  | group _ ih =>
    obtain ⟨tree,derived⟩ := ih
    exact ⟨tree,derived.group Connective.binary⟩
  | negated negation _ ih =>
    obtain ⟨tree,derived⟩ := ih
    rw [Phrase.items,Phrase.item,negation]
    exact derived.negate
  | joined single binary _ ihOperand ih =>
    obtain ⟨operand,derivedOperand⟩ := ihOperand
    obtain ⟨tree,derived⟩ := ih
    have tight := derivedOperand.tighten Connective.binary (single.lacks Connective.binary)
    exact tight.precede derived (Sign.connective_mem binary)

/-- What a derivation stands for is what the chain of its phrases resolves to. -/
theorem chained_of_derives {items : List Statement.Item} {ks : List Connective}
    {tree : Statement.Tree} (derived : Derives ks items tree) (looser : List Connective)
    (layers : looser ++ ks = Connective.binary) {phrases : List Phrase}
    (read : phrases.map Phrase.item = items) :
    ∃ chain, Chained phrases chain ∧ (∀ link ∈ chain.others, link.1 ∈ ks) ∧
      chain.resolve ks = tree.formula := by
  induction derived generalizing looser phrases with
  | @tighter ks items k tree _ ih =>
    have tighter : looser ++ [k] ++ ks = Connective.binary := by simpa using layers
    obtain ⟨chain,chained,links,formula⟩ := ih _ tighter read
    refine ⟨chain,chained,fun link member => List.mem_cons_of_mem k (links link member),?_⟩
    rw [Chain.resolve_of_lacks (Chain.lacks_of_layers layers links),formula]
  | @joined ks left leftTree k right rightTree _ _ ihLeft ihRight =>
    have tighter : looser ++ [k] ++ ks = Connective.binary := by simpa using layers
    obtain ⟨before,rest,rfl,readLeft,following⟩ := List.map_eq_append_iff.mp read
    obtain ⟨phrase,after,rfl,keyword,readRight⟩ := List.map_eq_cons_iff.mp following
    obtain ⟨sign,rfl,rfl⟩ := Phrase.eq_sign_of_item keyword
    obtain ⟨chain,chained,links,formula⟩ := ihLeft _ tighter readLeft
    obtain ⟨chain',chained',links',formula'⟩ := ihRight _ layers readRight
    have binary := Statement.ne_not_of_layers layers
    refine ⟨_,chained.append binary chained',?_,?_⟩
    · have joined : ∀ link ∈ (sign.connective,chain'.first) :: chain'.others,
          link.1 ∈ sign.connective :: ks :=
        List.forall_mem_cons.mpr ⟨List.mem_cons_self ..,links'⟩
      exact List.forall_mem_append.mpr
        ⟨fun link member => List.mem_cons_of_mem _ (links link member),joined⟩
    · rw [Chain.resolve_append binary (Chain.lacks_of_layers layers links),formula,formula']
      rfl
  | negated _ ih =>
    obtain ⟨phrase,rest,rfl,keyword,following⟩ := List.map_eq_cons_iff.mp read
    obtain ⟨sign,rfl,negation⟩ := Phrase.eq_sign_of_item keyword
    obtain ⟨chain,chained,links,formula⟩ := ih _ layers following
    refine ⟨_,.negated negation chained,links,?_⟩
    exact congrArg Formula.not formula
  | @named text valid =>
    obtain ⟨phrase,rest,rfl,name,none⟩ := List.map_eq_cons_iff.mp read
    obtain rfl := List.map_eq_nil_iff.mp none
    cases phrase with
    | name name' =>
      obtain rfl := Statement.Item.token.inj name
      exact ⟨_,.name,List.forall_mem_nil _,rfl⟩
    | sign sign =>
      have same := Statement.Item.token.inj name
      exact absurd same.symm (Name.not_keyword valid sign.connective)
    | group inner => cases name
  | grouped _ ih =>
    obtain ⟨phrase,rest,rfl,group,none⟩ := List.map_eq_cons_iff.mp read
    obtain rfl := List.map_eq_nil_iff.mp none
    cases phrase with
    | name name => cases group
    | sign sign => cases group
    | group inner =>
      have within := Statement.Item.group.inj group
      rw [Phrase.items_eq_map] at within
      obtain ⟨chain,chained,-,formula⟩ := ih [] rfl within
      exact ⟨_,.group chained,List.forall_mem_nil _,formula⟩

/-- Phrases are read as a formula in the one way exactly if they are in the other. -/
theorem chained_iff_derives {phrases : List Phrase} {formula : Formula} :
    (∃ chain, Chained phrases chain ∧ chain.formula = formula) ↔
      ∃ tree, Derives Connective.binary (Phrase.items phrases) tree ∧ tree.formula = formula := by
  have exact_chain {tree : Statement.Tree}
      (derived : Derives Connective.binary (Phrase.items phrases) tree) :
      ∃ chain, Chained phrases chain ∧ chain.formula = tree.formula := by
    obtain ⟨chain,chained,-,same⟩ :=
      chained_of_derives derived [] rfl (Phrase.items_eq_map phrases).symm
    exact ⟨chain,chained,same⟩
  constructor
  · rintro ⟨chain,chained,rfl⟩
    obtain ⟨tree,derived⟩ := chained.derives
    obtain ⟨chain',chained',same⟩ := exact_chain derived
    rw [chained.unique chained']
    exact ⟨tree,derived,same.symm⟩
  · rintro ⟨tree,derived,rfl⟩
    exact exact_chain derived

end Inline

theorem spaced_intercalate (symbols : List Symbol) :
    Spaced symbols ([' '].intercalate (symbols.map Symbol.chars)) := by
  have space : Text.isBlank ' ' := by decide
  induction symbols with
  | nil => exact .nil
  | cons symbol symbols ih =>
    cases symbols with
    | nil =>
      have alone : Spaced [symbol] (symbol.chars ++ []) := .symbol (by simp [Inline.Pauses]) .nil
      simpa using alone
    | cons next symbols =>
      have pauses {text : List Char} : Inline.Pauses (' ' :: text) := by
        rintro _ ⟨⟩
        exact space
      have first : Spaced (symbol :: next :: symbols)
          (symbol.chars ++ ' ' :: [' '].intercalate ((next :: symbols).map Symbol.chars)) :=
        .symbol pauses (.blank space ih)
      simpa using first

/-- A text in the symbols that statements and inline text share, with blanks between them, is accepted
as a statement exactly if it is accepted as inline text, and both stand for the same formula, down
to the order of operands. -/
theorem notations_agree {symbols : List Symbol} {text : String} (spaced : Spaced symbols text.toList)
    (formula : Formula) :
    Inline.parse text = .ok formula ↔ Statement.parse text = .ok formula := by
  have items (items : List Statement.Item) :
      Statement.lexemes [] (Statement.respell text.toList) = Statement.Item.lexemesEach items ↔
        (Phrase.nest [] [] symbols).map Phrase.items = some items := by
    rw [Statement.lexemes_spaced_symbols spaced,← Statement.readLexemes_eq_some_iff]
    exact iff_of_eq (congrArg (· = some items) (Statement.readLexemes_symbols [] [] symbols))
  rw [Inline.parse_eq_ok_iff,Statement.parse_eq_ok_iff_respelled,Inline.tokens_of_spaced spaced]
  simp only [items]
  cases Phrase.nest [] [] symbols with
  | none => simp
  | some phrases =>
    simpa [Inline.readOperand_iff_chained] using Inline.chained_iff_derives

/-- Double negation, merging groups, both signs of one connective and arrows in a row. -/
theorem notations_agree_mixed :
    ∃ symbols, Spaced symbols "~ ! p & q * r | ( p + q ) -> r -> s <-> p ^ q".toList ∧
    Statement.parse "~ ! p & q * r | ( p + q ) -> r -> s <-> p ^ q" =
      .ok (.biconditional
        (.conditional (.junction .or [.junction .and [.var "p",.var "q",.var "r"],.var "p",.var "q"])
          (.conditional (.var "r") (.var "s")))
        (.junction .xor [.var "p",.var "q"])) ∧
    Inline.parse "~ ! p & q * r | ( p + q ) -> r -> s <-> p ^ q" =
      .ok (.biconditional
        (.conditional (.junction .or [.junction .and [.var "p",.var "q",.var "r"],.var "p",.var "q"])
          (.conditional (.var "r") (.var "s")))
        (.junction .xor [.var "p",.var "q"])) := by
  let p : Symbol := .name ⟨"p",⟨by decide,by decide⟩,by decide⟩
  let q : Symbol := .name ⟨"q",⟨by decide,by decide⟩,by decide⟩
  let r : Symbol := .name ⟨"r",⟨by decide,by decide⟩,by decide⟩
  let s : Symbol := .name ⟨"s",⟨by decide,by decide⟩,by decide⟩
  let symbols : List Symbol := [.sign .tilde,.sign .bang,p,.sign .ampersand,q,.sign .star,r,
    .sign .bar,.opening,p,.sign .plus,q,.closing,.sign .arrow,r,.sign .arrow,s,.sign .doubleArrow,
    p,.sign .caret,q]
  have text : [' '].intercalate (symbols.map Symbol.chars) =
      "~ ! p & q * r | ( p + q ) -> r -> s <-> p ^ q".toList := by decide +kernel
  have spaced := spaced_intercalate symbols
  rw [text] at spaced
  have accepted : Statement.parse "~ ! p & q * r | ( p + q ) -> r -> s <-> p ^ q" = .ok
      (Statement.Tree.formula (.binary .iff
        (.binary .implies
          (.binary .or (.binary .and (.not (.not (.name "p"))) (.binary .and (.name "q") (.name "r")))
            (.binary .or (.name "p") (.name "q")))
          (.binary .implies (.name "r") (.name "s")))
        (.binary .xor (.name "p") (.name "q")))) :=
    Statement.parse_of_tree (by decide +kernel)
  exact ⟨_,spaced,accepted,(notations_agree spaced _).mpr accepted⟩

end Sentential
