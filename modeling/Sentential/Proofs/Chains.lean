import Sentential.Proofs.Phrases

/-! How precedence is applied to a chain of operands. What is looser than every connective of a chain
leaves it alone, and a connective between two chains, none of it in the first, joins what they are by
themselves: the chains of `and`, `or` and `xor`, which group to the left, are the same as those that
group to the right, because nested uses merge. -/
namespace Sentential

instance Formula.join_associative (kind : Junction) : Std.Associative (Formula.join kind) where
  assoc := join_assoc kind

namespace Inline

/-- Joining to the left or to the right makes no difference to the formula. -/
theorem joinAll_cons {k : Connective} (binary : k ≠ .not) (first second : Formula)
    (others : List Formula) :
    joinAll k first (second :: others) = .combine k first (joinAll k second others) := by
  have merged (kind : Junction) : (second :: others).foldl (Formula.join kind) first =
      Formula.join kind first (others.foldl (Formula.join kind) second) :=
    List.foldl_assoc
  cases k with
  | not => exact absurd rfl binary
  | and => exact merged .and
  | or => exact merged .or
  | xor => exact merged .xor
  | implies => rfl
  | iff => rfl

namespace Chain

/-- Two chains with a connective between them. -/
def append (left : Chain) (k : Connective) (right : Chain) : Chain :=
  ⟨left.first,left.others ++ (k,right.first) :: right.others⟩

/-- No two operands are joined by the connective. -/
def Lacks (chain : Chain) (k : Connective) : Prop := ∀ link ∈ chain.others, link.1 ≠ k

theorem lacks_of_layers {looser ks : List Connective} {k : Connective} {chain : Chain}
    (layers : looser ++ k :: ks = Connective.binary) (links : ∀ link ∈ chain.others, link.1 ∈ ks) :
    chain.Lacks k := by
  have distinct : (looser ++ k :: ks).Nodup := by rw [layers]; decide
  have apart : k ∉ ks := (List.nodup_cons.mp (List.nodup_append.mp distinct).2.1).1
  intro link member same
  exact apart (same ▸ links link member)

theorem segments_of_lacks {k : Connective} {first : Formula} {others : List (Connective × Formula)}
    (lacks : ∀ link ∈ others, link.1 ≠ k) : segments k first others = (⟨first,others⟩,[]) := by
  induction others generalizing first with
  | nil => rfl
  | cons link others ih =>
    obtain ⟨k',operand⟩ := link
    obtain ⟨other,lacks⟩ := List.forall_mem_cons.mp lacks
    rw [segments,ih lacks]
    exact if_neg other

theorem segments_append {k : Connective} {first second : Formula}
    {others more : List (Connective × Formula)} (lacks : ∀ link ∈ others, link.1 ≠ k) :
    segments k first (others ++ (k,second) :: more) =
      (⟨first,others⟩,(segments k second more).1 :: (segments k second more).2) := by
  induction others generalizing first with
  | nil => simp [segments]
  | cons link others ih =>
    obtain ⟨k',operand⟩ := link
    obtain ⟨other,lacks⟩ := List.forall_mem_cons.mp lacks
    rw [List.cons_append,segments,ih lacks]
    exact if_neg other

theorem resolve_of_lacks {chain : Chain} {k : Connective} (lacks : chain.Lacks k)
    (ks : List Connective) : chain.resolve (k :: ks) = chain.resolve ks := by
  rw [resolve,segments_of_lacks lacks]
  cases merges : k.isAssociative <;> simp [joinAll,joinRight,merges]

theorem resolve_append {left : Chain} {k : Connective} (binary : k ≠ .not) (lacks : left.Lacks k)
    (right : Chain) (ks : List Connective) :
    (left.append k right).resolve (k :: ks) =
      .combine k (left.resolve ks) (right.resolve (k :: ks)) := by
  rw [resolve,append,segments_append lacks,resolve]
  exact joinAll_cons binary _ _ _

end Chain

/-- The phrases of a chain: an operand, after any number of negations, and so on after each of its
connectives. An operand is a name or phrases of a chain in parentheses. -/
inductive Chained : List Phrase → Chain → Prop where
  | name : Chained [.name name] ⟨.var name.text,[]⟩
  | group : Chained phrases chain → Chained [.group phrases] ⟨chain.formula,[]⟩
  | negated {chain : Chain} : sign.connective = .not → Chained phrases chain →
      Chained (.sign sign :: phrases) ⟨chain.first.not,chain.others⟩
  | joined : Chained [phrase] ⟨operand,[]⟩ → sign.connective ≠ .not → Chained phrases chain →
      Chained (phrase :: .sign sign :: phrases) (Chain.append ⟨operand,[]⟩ sign.connective chain)

section

variable {sign : Sign} (tokens : List Token) (operand : Formula)

theorem readOperand_negation (negation : sign.connective = .not) :
    readOperand (marks sign.chars ++ tokens) = (do
      let reading ← readOperand tokens
      return { reading with chain.first := reading.chain.first.not }) := by
  cases sign <;> first | rfl | cases negation

theorem readOperand_binary (binary : sign.connective ≠ .not) :
    readOperand (marks sign.chars ++ tokens) = .error (.noOperand false) := by
  cases sign <;> first | rfl | exact absurd rfl binary

theorem readOperator_negation (negation : sign.connective = .not) :
    readOperator operand (marks sign.chars ++ tokens) = .ok ⟨⟨operand,[]⟩,true,false⟩ := by
  cases sign <;> first | rfl | cases negation

theorem readOperator_binary (binary : sign.connective ≠ .not) :
    readOperator operand (marks sign.chars ++ tokens) = (do
      return (← readOperand tokens).precede operand sign.connective) := by
  cases sign <;> first | rfl | exact absurd rfl binary

end

/-- The reading of a chain when nothing is left over. -/
def whole (chain : Chain) : Reading := ⟨chain,false,false⟩

/-- Nothing is left over exactly if nothing is in the operand nor after it. -/
theorem readOperand_eq_whole {token : Token} {tokens : List Token} {chain : Chain}
    (noNegation : isNegation token = false) :
    readOperand (token :: tokens) = .ok (whole chain) ↔
      ∃ operand, token.operand = .ok (operand,false) ∧
        readOperator operand tokens = .ok (whole chain) := by
  rw [readOperand,if_neg (by simp [noNegation]),bind_eq_ok]
  constructor
  · rintro ⟨⟨operand,stray⟩,stands,read⟩
    obtain ⟨⟨chain',unread,stray'⟩,following,same⟩ := bind_eq_ok.mp read
    simp only [pure,Except.pure,whole,Except.ok.injEq,Reading.mk.injEq,Bool.or_eq_false_iff] at same
    obtain ⟨rfl,rfl,rfl,rfl⟩ := same
    exact ⟨operand,stands,following⟩
  · rintro ⟨operand,stands,following⟩
    refine ⟨_,stands,?_⟩
    show (readOperator operand tokens >>= _) = _
    rw [following]
    rfl

/-- A phrase that is read as an operand by itself has one token, which stands for the operand. -/
theorem token_of_whole {phrase : Phrase} {operand : Formula}
    (read : readOperand (Phrase.tokensEach [phrase]) = .ok (whole ⟨operand,[]⟩)) :
    ∃ token, phrase.tokens = [token] ∧ isNegation token = false ∧
      token.operand = .ok (operand,false) := by
  have single {token : Token} (noNegation : isNegation token = false)
      (read : readOperand [token] = .ok (whole ⟨operand,[]⟩)) :
      token.operand = .ok (operand,false) := by
    obtain ⟨found,stands,alone⟩ := (readOperand_eq_whole noNegation).mp read
    cases alone
    exact stands
  cases phrase with
  | name name => exact ⟨_,rfl,rfl,single rfl read⟩
  | group phrases => exact ⟨_,rfl,rfl,single rfl read⟩
  | sign sign =>
    rw [Phrase.tokensEach,Phrase.tokens] at read
    by_cases negation : sign.connective = .not
    · rw [readOperand_negation _ negation] at read
      cases read
    · rw [readOperand_binary _ negation] at read
      cases read

theorem operand_identifier {name : String} (unreserved : name ∉ reserved) :
    (Token.identifier name).operand = .ok (.var name,false) := by
  rw [Token.operand,if_neg (by simpa using unreserved)]

theorem operand_group {tokens : List Token} {operand : Formula} :
    (Token.group .parenthesis tokens).operand = .ok (operand,false) ↔
      ∃ chain, readOperand tokens = .ok (whole chain) ∧ chain.formula = operand := by
  rw [Token.operand,bind_eq_ok]
  constructor
  · rintro ⟨⟨chain,unread,stray⟩,read,same⟩
    simp only [pure,Except.pure,Except.ok.injEq,Prod.mk.injEq,Bool.or_eq_false_iff] at same
    obtain ⟨rfl,rfl,rfl⟩ := same
    exact ⟨chain,read,rfl⟩
  · rintro ⟨chain,read,rfl⟩
    exact ⟨_,read,rfl⟩

theorem Chained.readOperand_eq (chained : Chained phrases chain) :
    readOperand (Phrase.tokensEach phrases) = .ok (whole chain) := by
  induction chained with
  | @name name =>
    exact (readOperand_eq_whole rfl).mpr ⟨_,operand_identifier name.unreserved,rfl⟩
  | group _ ih => exact (readOperand_eq_whole rfl).mpr ⟨_,operand_group.mpr ⟨_,ih,rfl⟩,rfl⟩
  | negated negation _ ih =>
    rw [Phrase.tokensEach,Phrase.tokens,readOperand_negation _ negation,ih]
    rfl
  | joined _ binary _ ihOperand ih =>
    obtain ⟨token,tokens,noNegation,stands⟩ := token_of_whole ihOperand
    rw [Phrase.tokensEach,tokens,List.singleton_append,readOperand_eq_whole noNegation]
    refine ⟨_,stands,?_⟩
    rw [Phrase.tokensEach,Phrase.tokens,readOperator_binary _ _ binary,ih]
    rfl

end Inline

/-- Induction on lists of phrases, with a hypothesis also for the phrases in a group. -/
@[elab_as_elim]
theorem Phrase.ind {motive : List Phrase → Prop} (nil : motive [])
    (name : ∀ name phrases, motive phrases → motive (.name name :: phrases))
    (sign : ∀ sign phrases, motive phrases → motive (.sign sign :: phrases))
    (group : ∀ inner phrases, motive inner → motive phrases → motive (.group inner :: phrases)) :
    ∀ phrases, motive phrases
  | [] => nil
  | .name n :: phrases => name n phrases (ind nil name sign group phrases)
  | .sign s :: phrases => sign s phrases (ind nil name sign group phrases)
  | .group inner :: phrases =>
    group inner phrases (ind nil name sign group inner) (ind nil name sign group phrases)

namespace Inline

/-- Phrases that are read without anything left over are those of a chain, from an operand on and
from the connective after one on. -/
theorem chained_of_whole (phrases : List Phrase) :
    (∀ chain, readOperand (Phrase.tokensEach phrases) = .ok (whole chain) →
      Chained phrases chain) ∧
    ∀ phrase operand chain, Chained [phrase] ⟨operand,[]⟩ →
      readOperator operand (Phrase.tokensEach phrases) = .ok (whole chain) →
      Chained (phrase :: phrases) chain := by
  induction phrases using Phrase.ind with
  | nil =>
    refine ⟨nofun,?_⟩
    rintro phrase operand chain single ⟨⟩
    exact single
  | name name phrases ih =>
    refine ⟨?_,nofun⟩
    intro chain read
    obtain ⟨operand,stands,read⟩ := (readOperand_eq_whole rfl).mp read
    cases (operand_identifier name.unreserved).symm.trans stands
    exact ih.2 _ _ _ .name read
  | group inner phrases ihInner ih =>
    refine ⟨?_,nofun⟩
    intro chain read
    obtain ⟨operand,stands,read⟩ := (readOperand_eq_whole rfl).mp read
    obtain ⟨chain',within,rfl⟩ := operand_group.mp stands
    exact ih.2 _ _ _ (.group (ihInner.1 _ within)) read
  | sign sign phrases ih =>
    rw [Phrase.tokensEach,Phrase.tokens]
    by_cases negation : sign.connective = .not
    · refine ⟨?_,?_⟩
      · intro chain read
        rw [readOperand_negation _ negation] at read
        obtain ⟨⟨chain',unread,stray⟩,following,same⟩ := bind_eq_ok.mp read
        cases same
        exact .negated negation (ih.1 chain' following)
      · intro phrase operand chain _ read
        rw [readOperator_negation _ _ negation] at read
        cases read
    · refine ⟨?_,?_⟩
      · intro chain read
        rw [readOperand_binary _ negation] at read
        cases read
      · intro phrase operand chain single read
        rw [readOperator_binary _ _ negation] at read
        obtain ⟨⟨chain',unread,stray⟩,following,same⟩ := bind_eq_ok.mp read
        cases same
        exact .joined single negation (ih.1 chain' following)

theorem readOperand_iff_chained {phrases : List Phrase} {chain : Chain} :
    readOperand (Phrase.tokensEach phrases) = .ok (whole chain) ↔ Chained phrases chain :=
  ⟨(chained_of_whole phrases).1 chain,Chained.readOperand_eq⟩

theorem Chained.unique {chain chain' : Chain} (chained : Chained phrases chain)
    (chained' : Chained phrases chain') : chain = chain' := by
  have same := chained.readOperand_eq.symm.trans chained'.readOperand_eq
  cases same
  rfl

/-- A sign between the phrases of two chains. -/
theorem Chained.append {left right : List Phrase} {chain chain' : Chain} {sign : Sign}
    (binary : sign.connective ≠ .not) (ofLeft : Chained left chain) (ofRight : Chained right chain') :
    Chained (left ++ .sign sign :: right) (chain.append sign.connective chain') := by
  induction ofLeft with
  | name => exact .joined .name binary ofRight
  | group chained => exact .joined (.group chained) binary ofRight
  | negated negation _ ih => exact .negated negation ih
  | joined single binary _ _ ih => exact .joined single binary ih

/-- An inline text is accepted if its tokens are read and nothing is left over. -/
theorem parse_eq_ok_iff {text : String} {formula : Formula} :
    parse text = .ok formula ↔ ∃ tokens chain, tokens? text = some tokens ∧
      readOperand tokens = .ok (whole chain) ∧ chain.formula = formula := by
  rw [parse]
  cases tokens? text with
  | none => simp
  | some tokens =>
    show (readOperand tokens >>= _) = _ ↔ _
    rw [bind_eq_ok]
    constructor
    · rintro ⟨⟨chain,unread,stray⟩,read,accepted⟩
      cases stray <;> cases unread <;> cases accepted
      exact ⟨tokens,chain,rfl,read,rfl⟩
    · rintro ⟨_,chain,⟨⟩,read,rfl⟩
      exact ⟨_,read,rfl⟩

end Inline
end Sentential
