import Sentential.Proofs.Rendering
import Sentential.Proofs.Writing

/-! Rendering and parsing undo each other. Both renderings of a formula write the same lexemes, so
they are tidied to one text, and that text is normal: each of its groups holds a binary connective,
and unwrapping leaves such groups alone. -/
namespace Sentential

namespace Statement

open Text

theorem lexemes_tidied {ls : List Lexeme} (spellings : ∀ l ∈ ls, l.Spelling l.chars)
    (passed : Lexeme.pass false ls = some last) : lexemes [] (tidied true ls) = ls := by
  rw [← tidy_respell (writes_canonical spellings) passed,lexemes_tidy,lexemes_canonical spellings]

/-- Each group holds a parenthesis or a binary keyword. `bare` says that none was met since the last
parenthesis was opened and no other one followed. -/
def Firm (bare : Bool) : List Lexeme → Prop
  | [] => True
  | .opening :: ls => Firm true ls
  | .closing :: ls => bare = false ∧ Firm false ls
  | .word text :: ls => Firm (bare && !Lexeme.continues (.word text)) ls

namespace Firm

theorem relax {bare : Bool} {ls : List Lexeme} (firm : Firm bare ls) : Firm false ls := by
  induction ls generalizing bare with
  | nil => trivial
  | cons l ls ih =>
    cases l with
    | opening => exact firm
    | closing => exact ⟨rfl,firm.2⟩
    | word text => exact ih firm

theorem rest {bare : Bool} {ls ls' : List Lexeme} (firm : Firm bare (ls ++ ls')) :
    ∃ bare', Firm bare' ls' := by
  induction ls generalizing bare with
  | nil => exact ⟨bare,firm⟩
  | cons l ls ih =>
    cases l with
    | opening => exact ih firm
    | closing => exact ih firm.2
    | word text => exact ih firm

/-- No group is just a negated name. -/
theorem not_group {bare : Bool} {inner ls : List Lexeme} (negated : Lexeme.Negated inner) :
    ¬Firm bare (.opening :: inner ++ .closing :: ls) := by
  obtain ⟨count,name,valid,rfl⟩ := negated
  have plain := (Lexeme.ends_of_name (Name.isKeyword_of_isValid valid)).2
  intro firm
  have inside : Firm true (List.replicate count (.word Connective.not.keyword.toList) ++
      .word name :: .closing :: ls) := by
    simpa [Firm] using firm
  clear firm
  induction count with
  | zero => simp [Firm,plain] at inside
  | succ count ih => exact ih (by simpa [List.replicate_succ,Firm] using inside)

end Firm

theorem unwrap_of_firm {bare : Bool} {word text : List Char}
    (firm : Firm bare (lexemes word text)) : unwrap text = text := by
  fun_induction unwrap text generalizing bare word with
  | case1 => rfl
  | case2 c cs inner rest found ih =>
    obtain ⟨same,negated⟩ := redundantGroup_eq_some found
    have closing : Bounded (')' :: rest) := by simp [Bounded,isPlain_closing]
    rw [same,lexemes_opening,lexemes_append closing,lexemes_closing] at firm
    obtain ⟨bare,firm⟩ := firm.rest
    exact absurd firm (Firm.not_group (lexemes_of_isNegatedName negated))
  | case3 c cs none ih =>
    by_cases plain : isPlain c
    · rw [lexemes,if_pos plain] at firm
      rw [ih firm]
    · rw [lexemes,if_neg plain,← List.append_assoc] at firm
      obtain ⟨bare,firm⟩ := firm.rest
      rw [ih firm]

/-- Unwrapping is done when each group holds a parenthesis or a binary keyword. -/
theorem unwrapAll_of_firm {bare : Bool} {text : List Char} (firm : Firm bare (lexemes [] text)) :
    unwrapAll text = text :=
  unwrapAll_of_unwrap (unwrap_of_firm firm)

end Statement

namespace Formula

open Statement

theorem symbol_sign (k : Connective) : ∃ c ∈ k.signs, k.symbol.toList = [c] := by
  cases k <;> exact ⟨_,by decide,rfl⟩

/-- Both styles spell every connective. -/
theorem Style.spelling (style : Style) (k : Connective) : k.Spelling (style.connective k) := by
  cases style with
  | keywords => exact .keyword k
  | signs =>
    obtain ⟨c,sign,same⟩ := symbol_sign k
    rw [Style.connective,same]
    exact .signs sign (List.forall_mem_nil _) (absurd rfl)

/-- Before anything but a word the text writes the lexemes of the items. -/
theorem layout_writes (style : Style) : Layout style fun items text =>
    ∀ ls rest, Writes ls rest → EndsWord rest →
      Writes (Item.lexemesEach items ++ ls) (text ++ rest) where
  name := by
    intro name speakable ls rest writes ends
    have named := Name.chars_of_isValid
      (by simpa using speakable.1 : Name.isValid (.ofList name.toList))
    have letters : ∀ c ∈ name.toList, Text.isWordCharacter c :=
      fun c member => Text.isWordCharacter_of_isPart (named.2 c member)
    simpa using
      Writes.next (.name named.1 letters speakable.2) (fun _ => ends) writes
  group := by
    intro items text _ related ls rest writes ends
    have closed : Writes (.closing :: ls) ([')'] ++ rest) :=
      .next .closing (fun letters => absurd (letters ')' (by decide)) (by decide)) writes
    have inner := related _ _ closed (by rintro _ ⟨⟩; decide)
    have opened := Writes.next .opening
      (fun letters => absurd (letters '(' (by decide)) (by decide)) inner
    simpa using opened
  negation := by
    intro items text related ls rest writes ends
    have operand := related ls rest writes ends
    have spelling : Lexeme.Spelling (.word Connective.not.keyword.toList) (style.connective .not) :=
      .connective (style.spelling .not)
    cases style with
    | signs =>
      have sign := (Connective.not.sign_apart '¬' (by decide)).1
      have negated := Writes.next spelling
        (fun letters => absurd (letters '¬' (by decide)) (by simp [sign])) operand
      simpa [Style.negation,Style.connective] using negated
    | keywords =>
      have spaced : Writes _ ([' '] ++ _) :=
        operand.after (List.forall_mem_singleton.mpr (by decide))
      have negated := Writes.next spelling (by rintro _ _ ⟨⟩; decide) spaced
      simpa [Style.negation,Style.connective] using negated
  sides := by
    intro k left right leftText rightText _ relatedLeft relatedRight ls rest writes ends
    have space : ∀ c ∈ [' '], Text.isBlank c := List.forall_mem_singleton.mpr (by decide)
    have operand := (relatedRight ls rest writes ends).after space
    have joined := Writes.lexeme space (.connective (style.spelling k))
      (by rintro _ _ ⟨⟩; decide) operand
    have whole := relatedLeft _ _ joined (by rintro _ ⟨⟩; decide)
    simpa [Style.between] using whole

/-- Tidied, the lexemes of the items are the text with keywords. -/
theorem layout_tidied : Layout .keywords fun items text =>
    ∀ inside ls, tidied inside (Item.lexemesEach items ++ ls) =
      (if inside then [] else [' ']) ++ (text ++ tidied false ls) where
  name := by
    intro name _ inside ls
    simp
  group := by
    intro items text _ related inside ls
    simp [related]
  negation := by
    intro items text related inside ls
    simp [related,Style.negation]
  sides := by
    intro k left right leftText rightText _ relatedLeft relatedRight inside ls
    simp [relatedLeft,relatedRight,Style.between,Style.connective]

/-- A binary connective among the items makes what follows them indifferent to what was before. -/
theorem layout_firm (style : Style) : Layout style fun items _ =>
    ∀ bare ls, Firm (bare && !Item.joins items) ls → Firm bare (Item.lexemesEach items ++ ls) where
  name := by
    intro name speakable bare ls firm
    have plain := Name.isKeyword_of_isValid speakable.1
    have none : Connective.ofKeyword? name = none := by simpa [Connective.isKeyword] using plain
    have stays : Lexeme.continues (.word name.toList) = false := by simp [Lexeme.continues,none]
    simpa [Firm,stays,Item.joins,Item.connective?,none] using firm
  group := by
    intro items text joins related bare ls firm
    have closed : Firm (true && !Item.joins items) (.closing :: ls) := by
      simp only [joins]
      exact ⟨rfl,firm.relax⟩
    simpa [Firm] using related true _ closed
  negation := by
    intro items text related bare ls firm
    have same : Item.joins (.token Connective.not.keyword :: items) = Item.joins items := by
      simp [Item.joins,Item.connective?]
    rw [same] at firm
    simpa [Firm] using related bare ls firm
  sides := by
    intro k left right _ _ binary relatedLeft relatedRight bare ls firm
    have after : Firm false (Item.lexemesEach right ++ ls) := relatedRight false ls firm.relax
    have joined : Firm (bare && !Item.joins left)
        (.word k.keyword.toList :: (Item.lexemesEach right ++ ls)) := by
      have binds : (k != .not) = true := bne_iff_ne.mpr binary
      simpa [Firm,binds] using after
    simpa using relatedLeft bare _ joined

/-- The normal text of either rendering is the one with keywords, and it has the lexemes of the
items. -/
theorem normalChars_chars {formula : Formula} (canonical : formula.Canonical)
    (speakable : ∀ name ∈ formula.leaves, Name.Speakable name) (style : Style) :
    normalChars (formula.chars style) = formula.chars .keywords ∧
      lexemes [] (formula.chars .keywords) = Item.lexemesEach formula.items := by
  have writes : Writes (Item.lexemesEach formula.items) (formula.chars style) := by
    have ended : EndsWord [] := fun _ none => by cases none
    simpa using (layout_writes style).formula canonical speakable [] [] (.blanks (by simp)) ended
  have tidied_eq : tidied true (Item.lexemesEach formula.items) = formula.chars .keywords := by
    simpa using layout_tidied.formula canonical speakable true []
  have firm : Firm false (Item.lexemesEach formula.items) := by
    simpa using (layout_firm style).formula canonical speakable false [] trivial
  obtain ⟨result,derived,_⟩ := canonical.derivable fun name leaf => (speakable name leaf).1
  have whole : Derives Connective.binary formula.items result := derived.layer_le (Nat.zero_le _)
  have passed := whole.pass [] rfl
  have spelled := lexemes_tidied writes.spellings passed
  rw [normalChars,tidy_respell writes passed]
  rw [← spelled] at firm
  rw [unwrapAll_of_firm firm,← tidied_eq]
  exact ⟨rfl,spelled⟩

end Formula

namespace Statement

/-- The text of a formula in either style is read as the formula. -/
theorem parse_render {formula : Formula} (canonical : formula.Canonical)
    (speakable : ∀ name ∈ formula.leaves, Name.Speakable name) (style : Formula.Style) :
    parse (formula.render style) = .ok formula := by
  obtain ⟨normal,spelled⟩ := Formula.normalChars_chars canonical speakable style
  obtain ⟨result,derived,same⟩ := canonical.derivable fun name leaf => (speakable name leaf).1
  refine parse_eq_ok_iff.mpr ⟨formula.items,result,?_,derived.layer_le (Nat.zero_le _),same⟩
  rw [Formula.render,String.toList_ofList,normal,spelled]

theorem Expressible.parse_render {formula : Formula} (expressible : Expressible formula)
    (style : Formula.Style) : parse (formula.render style) = .ok formula := by
  obtain ⟨canonical,speakable⟩ := expressible.canonical
  exact Statement.parse_render canonical speakable style

/-- Either rendering of a formula is normalized to the one with keywords and parsed to the very same
formula. -/
theorem round_trip {formula : Formula} (expressible : Expressible formula)
    (style : Formula.Style) :
    normalize (formula.render style) = formula.render .keywords ∧
      parse (formula.render style) = .ok formula := by
  obtain ⟨canonical,speakable⟩ := expressible.canonical
  obtain ⟨normal,spelled⟩ := Formula.normalChars_chars canonical speakable style
  obtain ⟨result,derived,same⟩ := canonical.derivable fun name leaf => (speakable name leaf).1
  constructor
  · rw [normalize,Formula.render,String.toList_ofList,normal,Formula.render]
  · refine parse_eq_ok_iff.mpr ⟨formula.items,result,?_,derived.layer_le (Nat.zero_le _),same⟩
    rw [Formula.render,String.toList_ofList,normal,spelled]

theorem round_trip_implication :
    Expressible (.conditional (.neg (.junction .and [.var "p",.var "q"])) (.var "r")) ∧
    normalize "¬(p ∧ q) → r" = "not (p and q) -> r" ∧
    parse "¬(p ∧ q) → r" =
      .ok (.conditional (.neg (.junction .and [.var "p",.var "q"])) (.var "r")) := by
  have p : Expressible (.var "p") :=
    .parsed (parse_of_tree (by decide +kernel : (tree "p").toOption = some (.name "p")))
  have q : Expressible (.var "q") :=
    .parsed (parse_of_tree (by decide +kernel : (tree "q").toOption = some (.name "q")))
  have r : Expressible (.var "r") :=
    .parsed (parse_of_tree (by decide +kernel : (tree "r").toOption = some (.name "r")))
  have expressible := (p.and q).not.implies r
  exact ⟨expressible,round_trip expressible .signs⟩

end Statement
end Sentential
