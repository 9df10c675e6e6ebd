import Sentential.Proofs.Rendering
import Sentential.Proofs.Substitution
import Sentential.Proofs.Unwrapping
import Sentential.Proofs.Writing

/-! Statements in parentheses are parts of larger ones. Respelling acts on what stands before a
parenthesis or a blank as if nothing followed, so the lexemes of statements that are put together
are those of the statements, and what a statement is read as can be told from its lexemes. -/
namespace Sentential.Statement

open Text

/-- A run that what follows does not prolong. -/
theorem dropWhile_append_of_ends {p : Char → Bool} {rest : List Char}
    (ends : ∀ c ∈ rest.head?, p c = false) (text : List Char) :
    (text ++ rest).dropWhile p = text.dropWhile p ++ rest := by
  have stops : rest.dropWhile p = rest := by
    cases rest with
    | nil => rfl
    | cons c rest => exact List.dropWhile_cons_of_neg (by simp [ends c rfl])
  rw [List.dropWhile_append,stops]
  split
  · next all => rw [List.isEmpty_iff.mp all,List.nil_append]
  · rfl

theorem Bounded.ne {rest : List Char} (bounded : Bounded rest) {plain : Char}
    (isPlain_plain : isPlain plain) : ∀ c ∈ rest.head?, (c == plain) = false := by
  intro c first
  rw [beq_eq_false_iff_ne]
  rintro rfl
  rw [bounded c first] at isPlain_plain
  cases isPlain_plain

theorem afterArrow_append {rest : List Char} (bounded : Bounded rest) (text : List Char) :
    afterArrow? (text ++ rest) = (afterArrow? text).map (· ++ rest) := by
  have none_of_bounded : afterArrow? rest = none := by
    cases rest with
    | nil => rfl
    | cons c rest =>
      have other := ne_arrow_of_isPlain (bounded c rfl)
      simp only [List.mem_cons,List.not_mem_nil,or_false,not_or] at other
      simp [afterArrow?,other]
  cases text with
  | nil => exact none_of_bounded
  | cons c text =>
    by_cases shaft : c ∈ ['-','=']
    · have plain : isPlain c := by
        have all : ∀ c ∈ ['-','='], isPlain c := List.all_eq_true.mp (by decide)
        exact all c shaft
      rw [List.cons_append,afterArrow_of_mem shaft,afterArrow_of_mem shaft,
        dropWhile_append_of_ends (bounded.ne plain)]
      cases text.dropWhile (· == c) with
      | nil =>
        have point : rest.head? ≠ some '>' := by
          intro first
          have plain : isPlain '>' := by decide
          have := bounded.ne plain '>' first
          simp at this
        simp [point]
      | cons d run => by_cases point : d = '>' <;> simp [point]
    · simp only [List.mem_cons,List.not_mem_nil,or_false] at shaft
      simp [afterArrow?,shaft]

theorem symbol_append {rest : List Char} (bounded : Bounded rest) (c : Char) (text : List Char) :
    symbol? (c :: (text ++ rest)) =
      (symbol? (c :: text)).map fun (k,after) => (k,after ++ rest) := by
  cases sign : Connective.ofSign? c with
  | some k =>
    have ends : ∀ c ∈ rest.head?, k.signs.contains c = false := by
      intro c first
      simpa using Connective.not_mem_signs_of_apart (k := k) (bounded c first)
    simp only [symbol?,sign,dropWhile_append_of_ends ends]
    cases k.isAssociative <;> rfl
  | none =>
    have arrow := afterArrow_append bounded (c :: text)
    rw [List.cons_append] at arrow
    by_cases opens : c = '<'
    · subst opens
      simp [symbol?,sign,afterArrow_append bounded text,Function.comp_def]
    · simp [symbol?,sign,opens,arrow,Function.comp_def]

/-- Before a parenthesis or a blank respelling does not look at what follows. -/
theorem respell_append {rest : List Char} (bounded : Bounded rest) (text : List Char) :
    respell (text ++ rest) = respell text ++ respell rest := by
  fun_induction respell text with
  | case1 => rfl
  | case2 c cs letter word ih =>
    have letters : ∀ d ∈ word, isWordCharacter d :=
      List.forall_mem_cons.mpr ⟨letter,List.all_eq_true.mp List.all_takeWhile⟩
    have ends : EndsWord (cs.dropWhile isWordCharacter ++ rest) := by
      cases more : cs.dropWhile isWordCharacter with
      | nil => exact bounded.endsWord
      | cons d after =>
        rintro _ ⟨⟩
        exact endsWord_dropWhile cs d (by rw [more]; rfl)
    have parts : c :: cs ++ rest = word ++ (cs.dropWhile isWordCharacter ++ rest) := by
      rw [← List.append_assoc]
      simp only [word,List.cons_append,List.takeWhile_append_dropWhile]
    rw [parts,respell_word (List.cons_ne_nil _ _) letters ends,ih,List.append_assoc]
    cases Connective.ofWord? word <;> rfl
  | case3 c cs other k after found ih =>
    have first : EndsWord (c :: (cs ++ rest)) := by
      rintro _ ⟨⟩
      simpa using other
    have found' := symbol_append bounded c cs
    rw [found] at found'
    rw [List.cons_append,respell_symbol first found',ih,List.append_assoc]
  | case4 c cs other none ih =>
    have none' := symbol_append bounded c cs
    rw [none] at none'
    rw [List.cons_append,respell_other (by simpa using other) none',ih,List.cons_append]

theorem lexemes_respell_append {rest : List Char} (bounded : Bounded rest) (text : List Char) :
    lexemes [] (respell (text ++ rest)) =
      lexemes [] (respell text) ++ lexemes [] (respell rest) := by
  rw [respell_append bounded,lexemes_append (bounded_respell bounded)]

/-- The lexemes of a text in parentheses, and of what follows. -/
theorem lexemes_respell_group (text rest : List Char) :
    lexemes [] (respell ('(' :: (text ++ ')' :: rest))) =
      .opening :: (lexemes [] (respell text) ++ .closing :: lexemes [] (respell rest)) := by
  have bounded : Bounded (')' :: rest) := by simp [Bounded,isPlain_closing]
  rw [respell_apart isPlain_opening,lexemes_opening,lexemes_respell_append bounded,
    respell_apart isPlain_closing,lexemes_closing]
  rfl

/-- A connective before a statement in parentheses, the last of a text. -/
theorem lexemes_respell_applied {k : Connective} {sign text : List Char}
    (spelling : k.Spelling sign) {inner : List Item}
    (spelled : lexemes [] (respell text) = Item.lexemesEach inner) :
    lexemes [] (respell (sign ++ ' ' :: '(' :: (text ++ [')']))) =
      Item.lexemesEach [.token k.keyword,.group inner] := by
  have bounded : Bounded (' ' :: '(' :: (text ++ [')'])) := by simp [Bounded,isPlain_space]
  rw [lexemes_respell (.connective spelling) bounded,respell_space,lexemes_space,
    lexemes_respell_group,spelled]
  simp [respell,lexemes,Lexeme.finish]

/-- A statement is accepted exactly if its respelled text, with all its parentheses, spells out
items that the grammar derives. -/
theorem parse_eq_ok_iff_respelled {statement : String} {formula : Formula} :
    parse statement = .ok formula ↔ ∃ items result,
      lexemes [] (respell statement.toList) = Item.lexemesEach items ∧
      Derives Connective.binary items result ∧ result.formula = formula := by
  have derives (items : List Item) (result : Tree) :
      readGroup true items = .ok result ↔ Derives Connective.binary items result :=
    readGroup_eq_ok_iff
  have accepted (result : Tree) : tree statement = .ok result ↔ ∃ items,
      lexemes [] (respell statement.toList) = Item.lexemesEach items ∧
      Derives Connective.binary items result := by
    have verdict_eq_ok (read : Except Error Tree) :
        verdict read = .ok result ↔ read = .ok result := by
      cases read <;> simp [verdict,Except.mapError]
    rw [← verdict_eq_ok,verdict_tree,readWhole]
    simp only [← readLexemes_eq_some_iff,← derives]
    cases readLexemes [] [] (lexemes [] (respell statement.toList)) with
    | none => simp
    | some items => simp [verdict_eq_ok]
  constructor
  · intro parsed
    obtain ⟨result,read,same⟩ := bind_eq_ok.mp parsed
    obtain ⟨items,spelled,derived⟩ := (accepted result).mp read
    cases same
    exact ⟨items,result,spelled,derived,rfl⟩
  · rintro ⟨items,result,spelled,derived,rfl⟩
    rw [parse,(accepted result).mpr ⟨items,spelled,derived⟩]
    rfl

/-- Two groups with a connective between them, whatever they hold. -/
theorem Derives.groups {k : Connective} (binary : k ≠ .not) {left right : List Item}
    {leftTree rightTree : Tree} (derivedLeft : Derives Connective.binary left leftTree)
    (derivedRight : Derives Connective.binary right rightTree) :
    Derives Connective.binary [.group left,.token k.keyword,.group right]
      (.binary k leftTree rightTree) := by
  have joined : Derives (layer k.precedence) ([.group left] ++ .token k.keyword :: [.group right])
      (.binary k leftTree rightTree) := by
    rw [layer_precedence binary]
    exact .joined (derivedLeft.group _) (derivedRight.group _)
  show Derives (layer 0) _ _
  exact joined.layer_le (Nat.zero_le _)

/-- Accepted statements in parentheses are read as what they are read as alone, on either side of a
binary connective and after a negation, in any spelling. -/
theorem parse_compound {left right : String} {leftFormula rightFormula : Formula}
    (readLeft : parse left = .ok leftFormula) (readRight : parse right = .ok rightFormula) :
    (∀ k op, k ≠ .not → k.Spelling op →
      parse ("(" ++ left ++ ") " ++ String.ofList op ++ " (" ++ right ++ ")") =
        .ok (.combine k leftFormula rightFormula)) ∧
    (∀ sign, Connective.not.Spelling sign →
      parse (String.ofList sign ++ " (" ++ left ++ ")") = .ok leftFormula.not) := by
  obtain ⟨leftItems,leftTree,spelledLeft,derivedLeft,rfl⟩ := parse_eq_ok_iff_respelled.mp readLeft
  obtain ⟨rightItems,rightTree,spelledRight,derivedRight,rfl⟩ :=
    parse_eq_ok_iff_respelled.mp readRight
  constructor
  · intro k op binary spelling
    have chars : ("(" ++ left ++ ") " ++ String.ofList op ++ " (" ++ right ++ ")").toList =
        '(' :: (left.toList ++ ')' :: ' ' :: (op ++ ' ' :: '(' :: (right.toList ++ [')']))) := by
      simp
    have spelled : lexemes [] (respell ("(" ++ left ++ ") " ++ String.ofList op ++ " (" ++ right ++
        ")").toList) = Item.lexemesEach [.group leftItems,.token k.keyword,.group rightItems] := by
      rw [chars,lexemes_respell_group,respell_space,lexemes_space,
        lexemes_respell_applied spelling spelledRight,spelledLeft]
      simp [Lexeme.finish]
    exact parse_eq_ok_iff_respelled.mpr ⟨_,_,spelled,derivedLeft.groups binary derivedRight,rfl⟩
  · intro sign spelling
    have chars : (String.ofList sign ++ " (" ++ left ++ ")").toList =
        sign ++ ' ' :: '(' :: (left.toList ++ [')']) := by
      simp
    have spelled : lexemes [] (respell (String.ofList sign ++ " (" ++ left ++ ")").toList) =
        Item.lexemesEach [.token Connective.not.keyword,.group leftItems] := by
      rw [chars,lexemes_respell_applied spelling spelledLeft]
    have negated : Derives Connective.binary [.token Connective.not.keyword,.group leftItems]
        (.not leftTree) := derivedLeft.grouped.negated.loosen Connective.binary
    exact parse_eq_ok_iff_respelled.mpr ⟨_,_,spelled,negated,rfl⟩

/-- The sides have connectives of their own, and the words at the seams touch parentheses only. -/
theorem parse_compound_biconditional :
    parse "p&q" = .ok (.junction .and [.var "p",.var "q"]) ∧ parse "NOT r" = .ok (.neg (.var "r")) ∧
    parse "(p&q) <==> (NOT r)" =
      .ok (.biconditional (.junction .and [.var "p",.var "q"]) (.neg (.var "r"))) ∧
    parse "NOT (p&q)" = .ok (.neg (.junction .and [.var "p",.var "q"])) := by
  have left : parse "p&q" = .ok (Tree.formula (.binary .and (.name "p") (.name "q"))) :=
    parse_of_tree (by decide +kernel)
  have right : parse "NOT r" = .ok (Tree.formula (.not (.name "r"))) :=
    parse_of_tree (by decide +kernel)
  have arrow : Connective.iff.Spelling ('<' :: List.replicate 2 '=' ++ ['>']) :=
    .doubleArrow (by decide) (by decide)
  have word : Connective.not.Spelling "NOT".toList := .word (by decide)
  obtain ⟨compound,negation⟩ := parse_compound left right
  have whole : "(" ++ "p&q" ++ ") " ++ String.ofList ('<' :: List.replicate 2 '=' ++ ['>']) ++
      " (" ++ "NOT r" ++ ")" = "(p&q) <==> (NOT r)" := by decide +kernel
  have negated : String.ofList "NOT".toList ++ " (" ++ "p&q" ++ ")" = "NOT (p&q)" := by
    decide +kernel
  refine ⟨left,right,?_,?_⟩
  · rw [← whole]
    exact compound .iff _ (by decide) arrow
  · rw [← negated]
    exact negation _ word

end Sentential.Statement
