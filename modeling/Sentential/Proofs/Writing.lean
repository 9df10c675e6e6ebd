import Sentential.Proofs.Reading

/-! The texts that write the same lexemes: connectives in any spelling, blanks of any kind and
number. Once respelled and tidied they are one text, provided that operands and what joins them
alternate, as they do in every statement that is accepted. -/
namespace Sentential

/-- A word that spells no connective is no keyword. -/
theorem Connective.isKeyword_of_word {word : List Char}
    (letters : ∀ c ∈ word, Text.isWordCharacter c) (unspelled : ofWord? word = none) :
    isKeyword (String.ofList word) = false := by
  rw [← Bool.not_eq_true]
  intro keyword
  obtain ⟨k,found⟩ := Option.isSome_iff_exists.mp keyword
  obtain rfl : word = k.keyword.toList := by
    rw [← ofKeyword_eq_some.mp found,String.toList_ofList]
  have all : k.keyword.toList.all Text.isWordCharacter := List.all_eq_true.mpr letters
  revert all unspelled
  cases k <;> decide

namespace Statement

open Text

namespace Lexeme

def chars : Lexeme → List Char
  | .opening => ['(']
  | .closing => [')']
  | .word text => text

/-- How a lexeme may be written. A name is written as it is and must be no spelling of a
connective. -/
inductive Spelling : Lexeme → List Char → Prop where
  | opening : Spelling .opening ['(']
  | closing : Spelling .closing [')']
  | name : name ≠ [] → (∀ c ∈ name, isWordCharacter c) → Connective.ofWord? name = none →
      Spelling (.word name) name
  | connective {k : Connective} : k.Spelling text → Spelling (.word k.keyword.toList) text

/-- Whether an operand may end here. -/
def ends : Lexeme → Bool
  | .opening => false
  | .closing => true
  | .word text => (Connective.ofKeyword? (String.ofList text)).isNone

/-- Whether this follows the end of an operand. -/
def continues : Lexeme → Bool
  | .opening => false
  | .closing => true
  | .word text => (Connective.ofKeyword? (String.ofList text)).any (· != .not)

/-- Passes over lexemes, where those that continue an operand stand exactly after the end of one.
`ended` says whether an operand has just ended, before the lexemes and as the result after them. -/
def pass (ended : Bool) : List Lexeme → Option Bool
  | [] => some ended
  | l :: ls => if l.continues = ended then pass l.ends ls else none

theorem pass_append (ended : Bool) (ls ls' : List Lexeme) :
    pass ended (ls ++ ls') = (pass ended ls).bind fun ended => pass ended ls' := by
  induction ls generalizing ended with
  | nil => rfl
  | cons l ls ih =>
    simp only [List.cons_append,pass,ih]
    split <;> rfl

theorem pass_cons {ended last : Bool} {l : Lexeme} {ls : List Lexeme}
    (passed : pass ended (l :: ls) = some last) :
    l.continues = ended ∧ pass l.ends ls = some last := by
  rw [pass] at passed
  split at passed
  · next follows => exact ⟨follows,passed⟩
  · cases passed

@[simp] theorem ends_keyword (k : Connective) : ends (.word k.keyword.toList) = false := by
  simp [ends]

@[simp] theorem continues_keyword (k : Connective) :
    continues (.word k.keyword.toList) = (k != .not) := by
  simp [continues]

theorem ends_of_name {name : List Char}
    (plain : Connective.isKeyword (String.ofList name) = false) :
    ends (.word name) = true ∧ continues (.word name) = false := by
  have none : Connective.ofKeyword? (String.ofList name) = none := by
    simpa [Connective.isKeyword] using plain
  simp [ends,continues,none]

/-- A negated name is an operand. -/
theorem Negated.pass {inner : List Lexeme} (negated : Negated inner) (ended : Bool) :
    pass ended inner = if ended then none else some true := by
  obtain ⟨count,name,valid,rfl⟩ := negated
  obtain ⟨ends,continues⟩ := ends_of_name (Name.isKeyword_of_isValid valid)
  have unended : Lexeme.pass false
      (List.replicate count (.word Connective.not.keyword.toList) ++ [.word name]) = some true := by
    induction count with
    | zero => simp [Lexeme.pass,ends,continues]
    | succ count ih => simpa [List.replicate_succ,Lexeme.pass] using ih
  cases ended with
  | false => exact unended
  | true => cases count <;> simp [List.replicate_succ,Lexeme.pass,continues]

end Lexeme

/-- Parentheses around a negated name do not matter to what stands around it. -/
theorem Unwraps.pass (unwraps : Unwraps ls ls') (ended : Bool) :
    Lexeme.pass ended ls' = Lexeme.pass ended ls := by
  induction unwraps generalizing ended with
  | nil => rfl
  | keep _ ih => simp only [Lexeme.pass,ih]
  | drop negated _ ih =>
    rw [List.cons_append,Lexeme.pass_append,negated.pass,Lexeme.pass,Lexeme.pass_append,
      negated.pass]
    cases ended with
    | false => simp [Lexeme.pass,Lexeme.continues,Lexeme.ends,ih]
    | true => simp [Lexeme.continues]

theorem Unwraps.run_pass (run : Relation.ReflTransGen Unwraps ls ls') (ended : Bool) :
    Lexeme.pass ended ls' = Lexeme.pass ended ls := by
  induction run with
  | refl => rfl
  | tail _ step ih => exact (step.pass ended).trans ih

/-- Derived items are an operand. -/
theorem Derives.pass (derived : Derives ks items result) (looser : List Connective)
    (layers : looser ++ ks = Connective.binary) :
    Lexeme.pass false (Item.lexemesEach items) = some true := by
  induction derived generalizing looser with
  | @tighter ks items k tree _ ih => exact ih (looser ++ [k]) (by simpa using layers)
  | @joined ks left leftTree k right rightTree _ _ ihLeft ihRight =>
    have binary := ne_not_of_layers layers
    have left := ihLeft (looser ++ [k]) (by simpa using layers)
    have right := ihRight looser layers
    simp [Lexeme.pass_append,left,Lexeme.pass,binary,right]
  | negated _ ih => simpa [Lexeme.pass] using ih looser layers
  | @named text valid =>
    have plain : Connective.isKeyword (String.ofList text.toList) = false := by
      simpa using Name.isKeyword_of_isValid valid
    obtain ⟨ends,continues⟩ := Lexeme.ends_of_name plain
    simp [Lexeme.pass,ends,continues]
  | grouped _ ih =>
    have inner := ih [] rfl
    simp [Lexeme.pass,Lexeme.pass_append,Lexeme.continues,Lexeme.ends,inner]

/-- In an accepted statement operands and what joins them alternate, even before parentheses are
taken off. -/
theorem pass_of_parse {statement : String} {formula : Formula}
    (accepted : parse statement = .ok formula) :
    Lexeme.pass false (lexemes [] (respell statement.toList)) = some true := by
  obtain ⟨items,result,spelled,derived,_⟩ := parse_eq_ok_iff.mp accepted
  rw [← Unwraps.run_pass (unwraps_normalChars statement.toList),spelled]
  exact derived.pass [] rfl

/-- A text that writes lexemes one after the other, with blanks before each and at the end. What
follows a word is no word character, so there must be blanks between two words and there need be
none anywhere else. -/
inductive Writes : List Lexeme → List Char → Prop where
  | blanks : (∀ c ∈ gap, isBlank c) → Writes [] gap
  | lexeme : (∀ c ∈ gap, isBlank c) → Lexeme.Spelling l text →
      ((∀ c ∈ text, isWordCharacter c) → EndsWord rest) → Writes ls rest →
      Writes (l :: ls) (gap ++ (text ++ rest))

/-- The one tidy text of lexemes. `inside` says that a group was just opened or nothing was written
yet. -/
def tidied (inside : Bool) : List Lexeme → List Char
  | [] => []
  | l :: ls =>
    (if inside || l = .closing then [] else [' ']) ++ (l.chars ++ tidied (l = .opening) ls)

@[simp] theorem tidied_nil (inside : Bool) : tidied inside [] = [] := rfl

@[simp] theorem tidied_opening (inside : Bool) (ls : List Lexeme) :
    tidied inside (.opening :: ls) = (if inside then [] else [' ']) ++ '(' :: tidied true ls := by
  simp [tidied,Lexeme.chars]

@[simp] theorem tidied_closing (inside : Bool) (ls : List Lexeme) :
    tidied inside (.closing :: ls) = ')' :: tidied false ls := by
  simp [tidied,Lexeme.chars]

@[simp] theorem tidied_word (inside : Bool) (text : List Char) (ls : List Lexeme) :
    tidied inside (.word text :: ls) =
      (if inside then [] else [' ']) ++ (text ++ tidied false ls) := by
  simp [tidied,Lexeme.chars]

theorem squeeze_blanks (inside pending : Bool) {gap : List Char} (blank : ∀ c ∈ gap, isBlank c)
    (rest : List Char) :
    squeeze inside pending (gap ++ rest) = squeeze inside (pending || !gap.isEmpty) rest := by
  induction gap generalizing pending with
  | nil => simp
  | cons c gap ih =>
    obtain ⟨first,blank⟩ := List.forall_mem_cons.mp blank
    simp [squeeze,first,ih true blank]

theorem squeeze_plain {inside pending : Bool} {text : List Char} (some : text ≠ [])
    (plain : ∀ c ∈ text, isPlain c) (rest : List Char) :
    squeeze inside pending (text ++ rest) =
      (if pending && !inside then [' '] else []) ++ (text ++ squeeze false false rest) := by
  have letter {c : Char} (plain : isPlain c) : isBlank c = false ∧ c ≠ '(' ∧ c ≠ ')' := by
    simp only [isPlain,isParenthesis,Bool.and_eq_true,Bool.not_eq_true',Bool.or_eq_false_iff,
      beq_eq_false_iff_ne] at plain
    exact ⟨plain.2,plain.1⟩
  induction text generalizing inside pending with
  | nil => exact absurd rfl some
  | cons c text ih =>
    obtain ⟨first,plain⟩ := List.forall_mem_cons.mp plain
    obtain ⟨unblank,opening,closing⟩ := letter first
    have tail : squeeze false false (text ++ rest) = text ++ squeeze false false rest := by
      by_cases more : text = []
      · simp [more]
      · exact (ih more plain).trans (List.nil_append _)
    simp only [List.cons_append,squeeze,unblank,Bool.false_eq_true,if_false,
      beq_eq_false_iff_ne.mpr opening,tail]
    cases pending <;> cases inside <;> simp [closing]

theorem squeeze_opening (inside pending : Bool) (rest : List Char) :
    squeeze inside pending ('(' :: rest) =
      (if pending && !inside then [' '] else []) ++ '(' :: squeeze true false rest := by
  have unblank : isBlank '(' = false := by decide
  cases pending <;> cases inside <;> simp [squeeze,unblank]

theorem squeeze_closing (inside pending : Bool) (rest : List Char) :
    squeeze inside pending (')' :: rest) = ')' :: squeeze false false rest := by
  have unblank : isBlank ')' = false := by decide
  simp [squeeze,unblank]

theorem squeeze_spaced (inside pending : Bool) (k : Connective) (rest : List Char) :
    squeeze inside pending (spaced k ++ rest) =
      (if inside then [] else [' ']) ++ (k.keyword.toList ++ squeeze false true rest) := by
  have blank : isBlank ' ' := by decide
  obtain ⟨some,plain⟩ := k.keyword_plain
  rw [spaced,List.append_assoc,List.cons_append,squeeze,if_pos blank,squeeze_plain some plain,
    List.singleton_append,squeeze,if_pos blank]
  cases inside <;> rfl

theorem count_squeeze (inside pending : Bool) (text : List Char) :
    (squeeze inside pending text).count '(' = text.count '(' := by
  induction text generalizing inside pending with
  | nil => rfl
  | cons c text ih =>
    unfold squeeze
    split
    · next blank =>
      have differs := (ne_parenthesis_of_blank blank).1
      rw [ih,List.count_cons_of_ne differs]
    · split <;> simp [List.count_cons,ih]

/-- Unwrapping is done when it takes nothing off. -/
theorem unwrapAll_of_unwrap {text : List Char} (same : unwrap text = text) :
    unwrapAll text = text := by
  have count : (tidy (unwrap text)).count '(' = text.count '(' := by
    rw [same]
    exact count_squeeze true false text
  rw [unwrapAll]
  simp [count]

/-- What does not continue an operand begins with no sign of a binary connective. -/
theorem Lexeme.Spelling.starts {l : Lexeme} {text : List Char} (spelling : l.Spelling text)
    (fresh : l.continues = false) :
    ∃ c rest, text = c :: rest ∧ ∀ k : Connective, k ≠ .not → c ∉ k.signs := by
  cases spelling with
  | opening => exact ⟨'(',[],rfl,fun k _ => Connective.not_mem_signs_of_apart isPlain_opening⟩
  | closing => cases fresh
  | name some letters _ =>
    obtain ⟨c,rest,rfl⟩ := List.exists_cons_of_ne_nil some
    have first := letters c (List.mem_cons_self ..)
    exact ⟨c,rest,rfl,fun k _ => Connective.not_mem_signs_of_letter first⟩
  | @connective text k spelling =>
    obtain rfl : k = .not := by simpa using fresh
    cases spelling with
    | @word _ word member =>
      obtain ⟨some,letters⟩ := Connective.word_letters _ word member
      obtain ⟨c,rest,spelled⟩ := List.exists_cons_of_ne_nil some
      rw [spelled] at letters ⊢
      have first := letters c (List.mem_cons_self ..)
      exact ⟨c,rest,rfl,fun k _ => Connective.not_mem_signs_of_letter first⟩
    | @signs _ c run first _ _ =>
      refine ⟨c,run,rfl,?_⟩
      intro k binary sign
      have same := (Connective.ofSign_of_mem c first).symm.trans (Connective.ofSign_of_mem c sign)
      exact binary (Option.some.inj same).symm

/-- A run of signs is not prolonged by what follows, since that is no binary connective. -/
theorem Writes.runEnds (writes : Writes ls text) (passed : Lexeme.pass false ls = some last)
    {k : Connective} (binary : k ≠ .not) : ∀ c ∈ text.head?, c ∉ k.signs := by
  have apart {c : Char} (blank : isBlank c) : c ∉ k.signs :=
    Connective.not_mem_signs_of_apart (isPlain_of_blank blank)
  cases writes with
  | blanks blank => exact fun c first => apart (blank c (List.mem_of_mem_head? first))
  | @lexeme gap l text rest ls blank spelling _ _ =>
    cases gap with
    | cons c gap =>
      rintro _ ⟨⟩
      exact apart (blank c (List.mem_cons_self ..))
    | nil =>
      obtain ⟨c,tail,rfl,unsigned⟩ := spelling.starts (Lexeme.pass_cons passed).1
      rintro _ ⟨⟩
      exact unsigned k binary

/-- Whatever way lexemes are written, respelling and tidying lead to the same text. -/
theorem squeeze_respell (writes : Writes ls text) {inside pending ended : Bool} {last : Bool}
    (passed : Lexeme.pass ended ls = some last)
    (apart : ended = false → inside = true ∨ pending = true) :
    squeeze inside pending (respell text) = tidied inside ls := by
  have gap_before {inside pending : Bool} (gap : List Char)
      (apart : inside = true ∨ pending = true) :
      (if (pending || !gap.isEmpty) && !inside then [' '] else []) =
        if inside then [] else [' '] := by
    cases inside <;> cases pending <;> simp at apart ⊢
  induction writes generalizing inside pending ended with
  | @blanks gap blank =>
    have squeezed := squeeze_blanks inside pending blank []
    have same := respell_blanks blank []
    simp only [respell,List.append_nil,squeeze] at same squeezed
    rw [same,squeezed,tidied]
  | @lexeme gap l text rest ls blank spelling wordEnds writes ih =>
    obtain ⟨follows,passed⟩ := Lexeme.pass_cons passed
    rw [respell_blanks blank,squeeze_blanks inside pending blank]
    cases spelling with
    | opening =>
      have after : squeeze true false (respell rest) = tidied true ls :=
        ih passed fun _ => .inl rfl
      rw [List.singleton_append,respell_apart isPlain_opening,squeeze_opening,after,
        gap_before gap (apart follows.symm),tidied_opening]
    | closing =>
      have after : squeeze false false (respell rest) = tidied false ls :=
        ih passed fun fresh => by cases fresh
      rw [List.singleton_append,respell_apart isPlain_closing,squeeze_closing,after,
        tidied_closing]
    | name some letters none =>
      obtain ⟨ends,continues⟩ := Lexeme.ends_of_name (Connective.isKeyword_of_word letters none)
      have plain : ∀ c ∈ text, isPlain c :=
        fun c member => isPlain_of_isWordCharacter (letters c member)
      have after : squeeze false false (respell rest) = tidied false ls :=
        ih passed fun fresh => by simp [ends] at fresh
      rw [respell_word some letters (wordEnds letters),none,Option.map_none,Option.getD_none,
        squeeze_plain some plain,after,gap_before gap (apart (follows.symm.trans continues)),
        tidied_word]
    | @connective text k spelling =>
      have after : squeeze false true (respell rest) = tidied false ls :=
        ih passed fun _ => .inr rfl
      have runEnds (merges : k.isAssociative) : ∀ c ∈ rest.head?, c ∉ k.signs := by
        refine writes.runEnds (by simpa using passed) ?_
        rintro rfl
        cases merges
      rw [respell_spelling spelling wordEnds runEnds,squeeze_spaced,after,tidied_word]

theorem tidy_respell (writes : Writes ls text) (passed : Lexeme.pass false ls = some last) :
    tidy (respell text) = tidied true ls :=
  squeeze_respell writes passed fun _ => .inl rfl

/-- More blanks in front. -/
theorem Writes.after (writes : Writes ls text) {gap : List Char} (blank : ∀ c ∈ gap, isBlank c) :
    Writes ls (gap ++ text) := by
  cases writes with
  | blanks more => exact .blanks (List.forall_mem_append.mpr ⟨blank,more⟩)
  | lexeme more spelling wordEnds writes =>
    rw [← List.append_assoc]
    exact .lexeme (List.forall_mem_append.mpr ⟨blank,more⟩) spelling wordEnds writes

/-- One more lexeme, with no blanks before it. -/
theorem Writes.next {l : Lexeme} (spelling : l.Spelling text)
    (wordEnds : (∀ c ∈ text, isWordCharacter c) → EndsWord rest) (writes : Writes ls rest) :
    Writes (l :: ls) (text ++ rest) :=
  .lexeme (List.forall_mem_nil _) spelling wordEnds writes

/-- The canonical text of lexemes has every connective as its keyword and single spaces. -/
def canonical (ls : List Lexeme) : List Char := [' '].intercalate (ls.map Lexeme.chars)

theorem canonical_cons (l l' : Lexeme) (ls : List Lexeme) :
    canonical (l :: l' :: ls) = l.chars ++ ' ' :: canonical (l' :: ls) := by
  simp [canonical]

theorem Lexeme.Spelling.canonical {l : Lexeme} (spelling : l.Spelling text) :
    l.Spelling l.chars := by
  cases spelling with
  | opening => exact .opening
  | closing => exact .closing
  | name some letters none => exact .name some letters none
  | connective => exact .connective (.keyword _)

theorem Writes.spellings (writes : Writes ls text) : ∀ l ∈ ls, l.Spelling l.chars := by
  induction writes with
  | blanks => simp
  | lexeme _ spelling _ _ ih => exact List.forall_mem_cons.mpr ⟨spelling.canonical,ih⟩

theorem writes_canonical {ls : List Lexeme} (spellings : ∀ l ∈ ls, l.Spelling l.chars) :
    Writes ls (canonical ls) := by
  induction ls with
  | nil => exact .blanks (List.forall_mem_nil _)
  | cons l ls ih =>
    obtain ⟨spelling,spellings⟩ := List.forall_mem_cons.mp spellings
    cases ls with
    | nil =>
      have alone : Writes [l] (l.chars ++ []) :=
        .next spelling (fun _ _ none => by cases none) (ih spellings)
      simpa [canonical] using alone
    | cons l' ls =>
      have space : ∀ c ∈ [' '], isBlank c := List.forall_mem_singleton.mpr (by decide)
      rw [canonical_cons]
      refine .next spelling ?_ ((ih spellings).after space)
      rintro _ _ ⟨⟩
      decide

theorem bounded_respell {text : List Char} (bounded : Bounded text) : Bounded (respell text) := by
  cases text with
  | nil => simpa [respell] using bounded
  | cons c text =>
    have apart : isPlain c = false := bounded c rfl
    rw [respell_apart apart]
    rintro _ ⟨⟩
    exact apart

/-- Where no word goes on a lexeme is respelled by itself. -/
theorem lexemes_respell {l : Lexeme} (spelling : l.Spelling text) (bounded : Bounded rest) :
    lexemes [] (respell (text ++ rest)) = l :: lexemes [] (respell rest) := by
  have runEnds (k : Connective) : ∀ c ∈ rest.head?, c ∉ k.signs :=
    fun c first => Connective.not_mem_signs_of_apart (bounded c first)
  cases spelling with
  | opening => rw [List.singleton_append,respell_apart isPlain_opening,lexemes_opening]; rfl
  | closing => rw [List.singleton_append,respell_apart isPlain_closing,lexemes_closing]; rfl
  | name some letters none =>
    have plain : ∀ c ∈ text, isPlain c :=
      fun c member => isPlain_of_isWordCharacter (letters c member)
    rw [respell_word some letters bounded.endsWord,none,Option.map_none,Option.getD_none,
      lexemes_append (bounded_respell bounded),lexemes_word plain some]
    rfl
  | connective spelling =>
    rw [respell_spelling spelling (fun _ => bounded.endsWord) (fun _ => runEnds _),lexemes_spaced]
    rfl

theorem lexemes_canonical {ls : List Lexeme} (spellings : ∀ l ∈ ls, l.Spelling l.chars) :
    lexemes [] (respell (canonical ls)) = ls := by
  induction ls with
  | nil => simp [canonical,respell,lexemes,Lexeme.finish]
  | cons l ls ih =>
    obtain ⟨spelling,spellings⟩ := List.forall_mem_cons.mp spellings
    cases ls with
    | nil =>
      have ended : Bounded [] := fun _ none => by cases none
      have alone := lexemes_respell spelling ended
      simpa [canonical,respell,lexemes,Lexeme.finish] using alone
    | cons l' ls =>
      have bounded : Bounded (' ' :: canonical (l' :: ls)) := by simp [Bounded,isPlain_space]
      rw [canonical_cons,lexemes_respell spelling bounded,respell_space,lexemes_space,ih spellings]
      rfl

/-- All texts that write the same lexemes are accepted, and with the same formula, if the canonical
one is. -/
theorem parse_of_writes {ls : List Lexeme} {text : List Char} {formula : Formula}
    (writes : Writes ls text)
    (accepted : parse (String.ofList (canonical ls)) = .ok formula) :
    parse (String.ofList text) = .ok formula := by
  have passed := pass_of_parse accepted
  rw [String.toList_ofList,lexemes_canonical writes.spellings] at passed
  have same : normalize (String.ofList text) = normalize (String.ofList (canonical ls)) := by
    simp only [normalize,normalChars,String.toList_ofList]
    rw [tidy_respell writes passed,tidy_respell (writes_canonical writes.spellings) passed]
  rw [← accepted,parse,parse,tree,tree,same]

/-- Without any blank but one: `p&&*NOT q`. -/
theorem parse_of_writes_dense :
    Writes [.word ['p'],.word ['a','n','d'],.word ['n','o','t'],.word ['q']] "p&&*NOT q".toList ∧
    canonical [.word ['p'],.word ['a','n','d'],.word ['n','o','t'],.word ['q']] =
      "p and not q".toList ∧
    parse "p and not q" = .ok (.junction .and [.var "p",.neg (.var "q")]) ∧
    parse "p&&*NOT q" = .ok (.junction .and [.var "p",.neg (.var "q")]) := by
  have name {c : Char} (letter : isWordCharacter c) (unspelled : Connective.ofWord? [c] = none) :
      Lexeme.Spelling (.word [c]) [c] :=
    .name (List.cons_ne_nil c []) (List.forall_mem_singleton.mpr letter) unspelled
  have q : Writes [.word ['q']] ([' '] ++ (['q'] ++ [])) :=
    .lexeme (List.forall_mem_singleton.mpr (by decide)) (name (by decide) (by decide))
      (fun _ _ none => by cases none) (.blanks (List.forall_mem_nil _))
  have not_q : Writes [.word ['n','o','t'],.word ['q']] ("NOT".toList ++ [' ','q']) := by
    refine .next (.connective (k := .not) (.word (by decide))) ?_ q
    rintro _ _ ⟨⟩
    decide
  have and_not_q : Writes [.word ['a','n','d'],.word ['n','o','t'],.word ['q']]
      (['&','&','*'] ++ ['N','O','T',' ','q']) := by
    have signs : ∀ c ∈ ['&','*'], c ∈ Connective.and.signs := by simp [Connective.signs]
    refine .next (.connective (k := .and) (.signs (by decide) signs (by decide))) ?_ not_q
    intro letters
    exact absurd (letters '&' (by decide)) (by decide)
  have writes : Writes [.word ['p'],.word ['a','n','d'],.word ['n','o','t'],.word ['q']]
      (['p'] ++ ['&','&','*','N','O','T',' ','q']) := by
    refine .next (name (by decide) (by decide)) ?_ and_not_q
    rintro _ _ ⟨⟩
    decide
  have accepted : parse "p and not q" =
      .ok (Tree.formula (.binary .and (.name "p") (.not (.name "q")))) :=
    parse_of_tree (by decide +kernel)
  exact ⟨writes,rfl,accepted,parse_of_writes writes accepted⟩

end Statement
end Sentential
