import Sentential.Proofs.Chains

/-! Reading inline text by recursive descent, with a function for each layer of precedence: it reads
an operand with the function for the next layer and goes on as long as its own operator follows. This
accepts the same tokens as reading one chain of operands and applying precedence to it afterwards,
and makes the same formula of them. -/
namespace Sentential.Inline

/-- The operator that tokens begin with, and the tokens after it. -/
def operator? : List Token → Option (Connective × List Token)
  | .mark '<' true :: .mark '-' _ :: .mark '>' _ :: tokens => some (.iff,tokens)
  | .mark '-' true :: .mark '>' _ :: tokens => some (.implies,tokens)
  | .mark c _ :: tokens => (connectiveOfMark? c).map (·,tokens)
  | _ => none

/-- What the function for the layer of `k :: ks` reads, where `ks` are the operators that bind
tighter, and which tokens it leaves. Without operators it is the function for negations and operands.
It is either at the start or knows the formula that it has read to the left of the tokens; then it
goes on with its own operator, in a loop or, where that groups to the right, with itself. -/
inductive Descends : List Connective → Option Formula → List Token → Formula → List Token → Prop where
  | name : name ∉ reserved → Descends [] none (.identifier name :: rest) (.var name) rest
  | text : Descends [] none (.text value :: rest) (.var value) rest
  | group : Descends Connective.binary none tokens formula [] →
      Descends [] none (.group .parenthesis tokens :: rest) formula rest
  | negated : isNegation token → Descends [] none tokens formula rest →
      Descends [] none (token :: tokens) formula.not rest
  | start : Descends ks none tokens left middle →
      Descends (k :: ks) (some left) middle formula rest → Descends (k :: ks) none tokens formula rest
  | stop : (∀ next, operator? rest ≠ some (k,next)) →
      Descends (k :: ks) (some formula) rest formula rest
  | again : k.isAssociative → operator? tokens = some (k,next) → Descends ks none next right middle →
      Descends (k :: ks) (some (.combine k left right)) middle formula rest →
      Descends (k :: ks) (some left) tokens formula rest
  | onward : k.isAssociative = false → operator? tokens = some (k,next) →
      Descends (k :: ks) none next right rest →
      Descends (k :: ks) (some left) tokens (.combine k left right) rest

theorem connectiveOfMark_mem {c : Char} {k : Connective} (found : connectiveOfMark? c = some k) :
    k ∈ Connective.binary := by
  revert found
  fun_cases connectiveOfMark? c <;> rintro ⟨⟩ <;> decide

theorem sizeOf_tail (token : Token) (tokens : List Token) :
    sizeOf tokens < sizeOf (token :: tokens) := by
  rw [List.cons.sizeOf_spec]
  omega

theorem operator_eq_some {tokens next : List Token} {k : Connective}
    (follows : operator? tokens = some (k,next)) :
    k ∈ Connective.binary ∧ sizeOf next < sizeOf tokens := by
  revert follows
  fun_cases operator? tokens with
  | case1 => rintro ⟨⟩; exact ⟨by decide,by simp only [List.cons.sizeOf_spec]; omega⟩
  | case2 => rintro ⟨⟩; exact ⟨by decide,by simp only [List.cons.sizeOf_spec]; omega⟩
  | case3 =>
    intro follows
    obtain ⟨k,found,same⟩ := Option.map_eq_some_iff.mp follows
    cases same
    exact ⟨connectiveOfMark_mem found,sizeOf_tail ..⟩
  | case4 => nofun

theorem readOperator_eq (operand : Formula) (tokens : List Token) :
    readOperator operand tokens = match operator? tokens with
      | some (k,next) => do return (← readOperand next).precede operand k
      | none => .ok ⟨⟨operand,[]⟩,!tokens.isEmpty,false⟩ := by
  fun_cases operator? tokens with
  | case1 => rfl
  | case2 => rfl
  | case3 c =>
    rw [readOperator]
    · cases connectiveOfMark? c <;> rfl
    · assumption
    · assumption
  | case4 =>
    cases tokens with
    | nil => rfl
    | cons token tokens =>
      rw [readOperator] <;> simp_all

/-- What follows an operand continues a chain with the links, up to the end. -/
def Continues (tokens : List Token) (links : List (Connective × Formula)) : Prop :=
  ∀ operand, readOperator operand tokens = .ok (whole ⟨operand,links⟩)

theorem Continues.operator {tokens next : List Token} {k : Connective} {chain : Chain}
    (follows : operator? tokens = some (k,next)) (read : readOperand next = .ok (whole chain)) :
    Continues tokens ((k,chain.first) :: chain.others) := by
  intro operand
  rw [readOperator_eq,follows]
  show (readOperand next >>= _) = _
  rw [read]
  rfl

/-- The tokens before others are those of a chain of the given connectives. -/
structure Reads (ks : List Connective) (tokens : List Token) (chain : Chain) (rest : List Token) :
    Prop where
  links : ∀ link ∈ chain.others, link.1 ∈ ks
  continued : Continues rest more →
    readOperand tokens = .ok (whole ⟨chain.first,chain.others ++ more⟩)

namespace Reads

variable {ks : List Connective} {k : Connective} {tokens middle next rest : List Token}
  {chain chain' : Chain}

theorem whole (reads : Reads ks tokens chain []) : readOperand tokens = .ok (whole chain) := by
  simpa using reads.continued fun _ => rfl

theorem operand {token : Token} {formula : Formula} (noNegation : isNegation token = false)
    (stands : token.operand = .ok (formula,false)) :
    Reads [] (token :: rest) ⟨formula,[]⟩ rest where
  links := List.forall_mem_nil _
  continued following := (readOperand_eq_whole noNegation).mpr ⟨formula,stands,following formula⟩

theorem negated {token : Token} (negation : isNegation token)
    (reads : Reads ks tokens chain rest) :
    Reads ks (token :: tokens) ⟨chain.first.not,chain.others⟩ rest where
  links := reads.links
  continued following := by
    rw [readOperand,if_pos negation,reads.continued following]
    rfl

theorem tighter (reads : Reads ks tokens chain rest) : Reads (k :: ks) tokens chain rest where
  links link member := List.mem_cons_of_mem k (reads.links link member)
  continued := reads.continued

theorem append (reads : Reads ks tokens chain middle) (follows : operator? middle = some (k,next))
    (reads' : Reads (k :: ks) next chain' rest) :
    Reads (k :: ks) tokens (chain.append k chain') rest where
  links := by
    have joined : ∀ link ∈ (k,chain'.first) :: chain'.others, link.1 ∈ k :: ks :=
      List.forall_mem_cons.mpr ⟨List.mem_cons_self ..,reads'.links⟩
    exact List.forall_mem_append.mpr ⟨reads.tighter.links,joined⟩
  continued following := by
    have whole := reads.continued (.operator follows (reads'.continued following))
    simpa [Chain.append] using whole

end Reads

/-- What the descent has read is a chain, and the formula is what the chain resolves to. To the right
of a formula it has read nothing, or its own operator and a chain. -/
def Sound (ks : List Connective) (tokens : List Token) (formula : Formula) (rest : List Token) :
    Option Formula → Prop
  | none => ∃ chain, Reads ks tokens chain rest ∧ chain.resolve ks = formula
  | some left => left = formula ∧ tokens = rest ∨
    ∃ k tighter next chain, ks = k :: tighter ∧ operator? tokens = some (k,next) ∧
      Reads ks next chain rest ∧ .combine k left (chain.resolve ks) = formula

theorem Descends.sound {state : Option Formula}
    (descends : Descends ks state tokens formula rest) (looser : List Connective)
    (layers : looser ++ ks = Connective.binary) : Sound ks tokens formula rest state := by
  induction descends generalizing looser with
  | name unreserved => exact ⟨_,.operand rfl (operand_identifier unreserved),rfl⟩
  | text => exact ⟨_,.operand rfl rfl,rfl⟩
  | group _ ih =>
    obtain ⟨chain,reads,same⟩ := ih [] rfl
    exact ⟨_,.operand rfl (operand_group.mpr ⟨chain,reads.whole,same⟩),rfl⟩
  | negated negation _ ih =>
    obtain ⟨chain,reads,rfl⟩ := ih looser layers
    exact ⟨_,reads.negated negation,rfl⟩
  -- What a tighter layer has read lacks the operator of this one, so the chain is cut after it.
  | @start ks _ left middle k formula rest _ _ ihLeft ih =>
    obtain ⟨chain,reads,rfl⟩ := ihLeft (looser ++ [k]) (by simpa using layers)
    have lacks := Chain.lacks_of_layers layers reads.links
    rcases ih looser layers with ⟨rfl,rfl⟩ | ⟨_,_,next,chain',⟨⟩,follows,reads',rfl⟩
    · exact ⟨chain,reads.tighter,Chain.resolve_of_lacks lacks ks⟩
    · have binary := Statement.ne_not_of_layers layers
      exact ⟨_,reads.append follows reads',Chain.resolve_append binary lacks chain' ks⟩
  | stop => exact .inl ⟨rfl,rfl⟩
  | @again tokens k next ks right middle left formula rest merges follows _ _ ihRight ih =>
    obtain ⟨chain,reads,rfl⟩ := ihRight (looser ++ [k]) (by simpa using layers)
    have lacks := Chain.lacks_of_layers layers reads.links
    rcases ih looser layers with ⟨rfl,rfl⟩ | ⟨_,_,next',chain',⟨⟩,follows',reads',rfl⟩
    · refine .inr ⟨k,ks,next,chain,rfl,follows,reads.tighter,?_⟩
      rw [Chain.resolve_of_lacks lacks]
    · have binary := Statement.ne_not_of_layers layers
      refine .inr ⟨k,ks,next,_,rfl,follows,reads.append follows' reads',?_⟩
      rw [Chain.resolve_append binary lacks,Formula.combine_assoc merges]
  | onward _ follows _ ih =>
    obtain ⟨chain,reads,rfl⟩ := ih looser layers
    exact .inr ⟨_,_,_,chain,rfl,follows,reads,rfl⟩

/-- What a layer leaves to the looser ones: nothing, or one of their operators and a chain. -/
def Leaves (ks : List Connective) (rest : List Token) : Prop :=
  rest = [] ∨ ∃ k next chain, operator? rest = some (k,next) ∧ k ∉ ks ∧
    readOperand next = .ok (whole chain)

theorem Leaves.eq_nil {rest : List Token} (leaves : Leaves Connective.binary rest) : rest = [] := by
  rcases leaves with none | ⟨k,next,chain,follows,looser,-⟩
  · exact none
  · exact absurd (operator_eq_some follows).1 looser

theorem leaves_of_whole {operand : Formula} {tokens : List Token} {chain : Chain}
    (read : readOperator operand tokens = .ok (whole chain)) : Leaves [] tokens := by
  rw [readOperator_eq] at read
  cases follows : operator? tokens with
  | none =>
    rw [follows] at read
    cases tokens with
    | nil => exact .inl rfl
    | cons => cases read
  | some found =>
    obtain ⟨k,next⟩ := found
    rw [follows] at read
    obtain ⟨⟨chain',unread,stray⟩,following,same⟩ := bind_eq_ok.mp read
    cases same
    exact .inr ⟨k,next,chain',follows,List.not_mem_nil,following⟩

mutual

/-- Whatever is read as a chain can be read by the function for each layer. Layers are counted down
to the operands, after which fewer tokens are left. -/
theorem exists_descent (ks : List Connective) (tokens : List Token) (chain : Chain)
    (read : readOperand tokens = .ok (whole chain)) :
    ∃ formula rest, Descends ks none tokens formula rest ∧ Leaves ks rest ∧
      sizeOf rest < sizeOf tokens := by
  cases ks with
  | cons k ks =>
    obtain ⟨left,middle,descends,leaves,shorter⟩ := exists_descent ks tokens chain read
    obtain ⟨formula,rest,loop,leaves,noLonger⟩ := exists_loop k ks left middle leaves
    exact ⟨formula,rest,.start descends loop,leaves,by omega⟩
  | nil =>
    cases tokens with
    | nil => cases read
    | cons token tokens =>
      by_cases negation : isNegation token
      · rw [readOperand,if_pos negation] at read
        obtain ⟨⟨chain',unread,stray⟩,following,same⟩ := bind_eq_ok.mp read
        cases same
        obtain ⟨formula,rest,descends,leaves,shorter⟩ := exists_descent [] tokens chain' following
        exact ⟨_,rest,.negated negation descends,leaves,Nat.lt_trans shorter (sizeOf_tail ..)⟩
      · obtain ⟨operand,stands,following⟩ :=
          (readOperand_eq_whole (Bool.eq_false_iff.mpr negation)).mp read
        obtain ⟨formula,descends⟩ := exists_operand token tokens operand stands
        exact ⟨formula,tokens,descends,leaves_of_whole following,sizeOf_tail ..⟩
termination_by (sizeOf tokens,ks.length)

theorem exists_operand (token : Token) (tokens : List Token) (operand : Formula)
    (stands : token.operand = .ok (operand,false)) :
    ∃ formula, Descends [] none (token :: tokens) formula tokens := by
  cases token with
  | identifier name =>
    rw [Token.operand] at stands
    split at stands
    next => cases stands
    next unreserved => exact ⟨_,.name (by simpa using unreserved)⟩
  | text value => exact ⟨_,.text⟩
  | literal => cases stands
  | mark => cases stands
  | group delimiter inner =>
    cases delimiter with
    | bracket => cases stands
    | brace => cases stands
    | parenthesis =>
      obtain ⟨chain,read,-⟩ := operand_group.mp stands
      obtain ⟨formula,rest,descends,leaves,-⟩ := exists_descent Connective.binary inner chain read
      rw [leaves.eq_nil] at descends
      exact ⟨formula,.group descends⟩
termination_by (sizeOf token,0)

theorem exists_loop (k : Connective) (ks : List Connective) (left : Formula) (tokens : List Token)
    (leaves : Leaves ks tokens) :
    ∃ formula rest, Descends (k :: ks) (some left) tokens formula rest ∧ Leaves (k :: ks) rest ∧
      sizeOf rest ≤ sizeOf tokens := by
  rcases leaves with rfl | ⟨k',next,chain,follows,looser,read⟩
  · exact ⟨left,[],.stop nofun,.inl rfl,Nat.le_refl _⟩
  have shorter := (operator_eq_some follows).2
  by_cases own : k' = k
  · subst own
    cases merges : k'.isAssociative with
    | false =>
      obtain ⟨right,rest,descends,leaves,shorter⟩ := exists_descent (k' :: ks) next chain read
      exact ⟨_,rest,.onward merges follows descends,leaves,by omega⟩
    | true =>
      obtain ⟨right,middle,descends,leaves,shorter⟩ := exists_descent ks next chain read
      obtain ⟨formula,rest,loop,leaves,noLonger⟩ :=
        exists_loop k' ks (.combine k' left right) middle leaves
      exact ⟨formula,rest,.again merges follows descends loop,leaves,by omega⟩
  · refine ⟨left,tokens,.stop ?_,.inr ⟨k',next,chain,follows,?_,read⟩,Nat.le_refl _⟩
    · rintro next' same
      cases follows.symm.trans same
      exact own rfl
    · simp [own,looser]
termination_by (sizeOf tokens,ks.length)

end

/-- The descent reads the same tokens to the end as the chain does, and finds the same formula. -/
theorem readOperand_iff_descends {tokens : List Token} {formula : Formula} :
    (∃ chain, readOperand tokens = .ok (whole chain) ∧ chain.formula = formula) ↔
      Descends Connective.binary none tokens formula [] := by
  constructor
  · rintro ⟨chain,read,rfl⟩
    obtain ⟨formula,rest,descends,leaves,-⟩ := exists_descent Connective.binary tokens chain read
    rw [leaves.eq_nil] at descends
    obtain ⟨chain',reads,rfl⟩ := descends.sound [] rfl
    cases read.symm.trans reads.whole
    exact descends
  · intro descends
    obtain ⟨chain,reads,same⟩ := descends.sound [] rfl
    exact ⟨chain,reads.whole,same⟩

theorem parse_iff_descends {text : String} {formula : Formula} :
    parse text = .ok formula ↔ ∃ tokens, tokens? text = some tokens ∧
      Descends Connective.binary none tokens formula [] := by
  simp only [parse_eq_ok_iff,← readOperand_iff_descends,exists_and_left]

end Sentential.Inline
