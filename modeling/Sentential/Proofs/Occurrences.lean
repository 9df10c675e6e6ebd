import Mathlib.Data.List.Sort
import Mathlib.Data.String.Basic
import Sentential.Proofs.Admission
import Sentential.Proofs.Distinct
import Sentential.Proofs.NormalForm

/-! Occurrences of variables, from the text of a statement to the columns of a table. Groups are opened,
negations collapse and nested uses merge, and each name is still where it stood in the text. Lists of
variables are merged from the operands up, and this leaves out the repeats of the whole list. -/
namespace Sentential

namespace Statement

open Text

/-- What stands between blanks and parentheses. -/
def tokens (text : String) : List String :=
  ((text.toList.splitOnP fun c => isBlank c || isParenthesis c).filter (· ≠ [])).map String.ofList

/-- The tokens of a statement in its normal form that are no keywords. -/
def occurring (statement : String) : List String :=
  (tokens (normalize statement)).filter fun token => !Connective.isKeyword token

theorem modifyHead_nil_append (parts : List (List α)) : parts.modifyHead ([] ++ ·) = parts := by
  cases parts <;> rfl

/-- The words of a text, where some of the first one has been read before, last character first. -/
theorem words_lexemes (word text : List Char) : Lexeme.words (lexemes word text) =
    ((text.splitOnP fun c => isBlank c || isParenthesis c).modifyHead
      (word.reverse ++ ·)).filter (· ≠ []) := by
  have finished (word : List Char) : Lexeme.words (Lexeme.finish word) =
      [word.reverse].filter (· ≠ []) := by
    cases word <;> simp [Lexeme.finish]
  induction text generalizing word with
  | nil => simpa [lexemes] using finished word
  | cons c text ih =>
    have plain : isPlain c = !(isBlank c || isParenthesis c) := by
      rw [isPlain,Bool.not_or,Bool.and_comm]
    rw [lexemes,plain,List.splitOnP_cons_eq_if_modifyHead]
    cases isBlank c || isParenthesis c with
    | true =>
      have others := ih []
      rw [List.reverse_nil,modifyHead_nil_append] at others
      simp only [Bool.not_true,Bool.false_eq_true,if_false,if_true,Lexeme.words_append,words_mark,
        finished,others,List.modifyHead_cons,List.append_nil,List.nil_append,← List.filter_append,
        List.singleton_append]
    | false =>
      have moved : (word.reverse ++ ·) ∘ List.cons c = ((c :: word).reverse ++ ·) := by
        funext part
        simp
      simp only [Bool.not_false,Bool.false_eq_true,if_false,if_true,ih,List.modifyHead_modifyHead,
        moved]

theorem tokens_eq (text : String) :
    tokens text = (Lexeme.words (lexemes [] text.toList)).map String.ofList := by
  rw [tokens,words_lexemes,List.reverse_nil,modifyHead_nil_append]

/-- The leaves of the formula of a statement are the tokens that are no keywords. -/
theorem leaves_of_parse {statement : String} {formula : Formula}
    (accepted : parse statement = .ok formula) : formula.leaves = occurring statement := by
  obtain ⟨items,result,spelled,derived,rfl⟩ := parse_eq_ok_iff.mp accepted
  have names := congrArg (List.map String.ofList) derived.names_eq_words
  have back : (result.names.map String.toList).map String.ofList = result.names := by
    simp
  rw [back] at names
  rw [result.leaves_formula (derived.proper [] rfl).1,← names,occurring,tokens_eq,normalize,
    String.toList_ofList,spelled,List.filter_map]
  rfl

theorem flatMap_leaves {texts : List String} {propositions : List Proposition}
    (read : List.Forall₂ Reads texts propositions) :
    (propositions.flatMap fun proposition => proposition.formula.leaves) =
      texts.flatMap occurring := by
  induction read with
  | nil => rfl
  | cons first _ ih => rw [List.flatMap_cons,List.flatMap_cons,leaves_of_parse first,ih]

/-- A name that is read is no spelling of a connective: it is no word for one, and a symbol does not
begin with a letter. -/
theorem not_spelling_of_speakable {name : String} (speakable : Name.Speakable name)
    (k : Connective) : ¬k.Spelling name.toList := by
  obtain ⟨valid,unspelled⟩ := speakable
  intro spelling
  rcases spelling.word_or_symbol with ⟨word,listed,same⟩ | ⟨apart,-⟩
  · rw [same,Connective.ofWord_of_mem word listed] at unspelled
    cases unspelled
  · obtain ⟨first,letters,spelled,start,-⟩ := Name.toList_of_isValid valid
    rw [spelled] at apart
    have letter := isWordCharacter_of_isPart (isPart_of_isStart start)
    rw [apart first rfl] at letter
    cases letter

end Statement

/-- Lists of names put together, each name in the place where it is first met. -/
def mergeNames (lists : List (List String)) : List String :=
  lists.flatten.foldl (keepNew (· == ·)) []

theorem mergeNames_distinct (f : α → List String) (xs : List α) :
    mergeNames (xs.map fun x => distinct (f x)) = distinct (xs.flatMap f) := by
  rw [mergeNames,← distinct_eq_foldl,← distinct_flatMap_distinct,List.flatMap_def]

namespace Formula

/-- The variables of a formula, put together from those of its operands. -/
def gatheredVars : Formula → List String :=
  fold fun node =>
    match node with
    | .var name => [name]
    | .neg operand => operand
    | .junction _ operands => mergeNames operands
    | .conditional left right => mergeNames [left,right]
    | .biconditional left right => mergeNames [left,right]

theorem gatheredVars_eq (formula : Formula) : formula.gatheredVars = formula.vars := by
  have both (left right : Formula) (ofLeft : left.gatheredVars = left.vars)
      (ofRight : right.gatheredVars = right.vars) :
      mergeNames [left.gatheredVars,right.gatheredVars] = distinct (left.leaves ++ right.leaves) := by
    rw [ofLeft,ofRight]
    exact (mergeNames_distinct leaves [left,right]).trans (by simp)
  induction formula using ind with
  | var name => rfl
  | neg operand ih =>
    rw [vars,leaves_neg]
    exact ih
  | junction kind operands ih =>
    rw [vars,leaves_junction,← mergeNames_distinct,gatheredVars,fold,foldEach_eq_map]
    exact congrArg mergeNames (List.map_congr_left ih)
  | conditional left right ihLeft ihRight =>
    rw [vars,leaves_conditional]
    exact both left right ihLeft ihRight
  | biconditional left right ihLeft ihRight =>
    rw [vars,leaves_biconditional]
    exact both left right ihLeft ihRight

theorem sortedVars_ascending (formula : Formula) : formula.sortedVars.Pairwise (· < ·) := by
  have distinct : formula.sortedVars.Nodup :=
    (List.mergeSort_perm _ _).nodup_iff.mpr (nodup_distinct _)
  have sorted : formula.sortedVars.Pairwise (· ≤ ·) := List.pairwise_mergeSort' (· ≤ ·) _
  exact (sorted.and distinct).imp fun both => lt_of_le_of_ne both.1 both.2

end Formula

/-- The variables of an argument are put together from those of its statements. -/
theorem Argument.Accepted.vars_eq {argument : Argument} (accepted : argument.Accepted) :
    argument.vars = argument.config.order.arrange
      (distinct (argument.statements.flatMap fun statement => statement.formula.vars)) := by
  obtain ⟨premises,conclusion?,config,made⟩ := accepted.exists_make
  obtain ⟨-,-,rfl⟩ := make_eq_ok.mp made
  rfl

/-- From a statement to its formula no occurrence of a variable is lost, repeated or moved. The leaves of
the formula are the tokens that are no keywords, and all of them are names and no spelling of a
connective. The variables are these tokens without later repeats, and so are those of an argument, for
all its statements in their order, before they are sorted if that is wanted. -/
theorem occurrences_exact :
    (∀ statement formula, Statement.parse statement = .ok formula →
      formula.leaves = Statement.occurring statement ∧
      (∀ name ∈ formula.leaves, Name.isValid name ∧
        ∀ k : Connective, ¬k.Spelling name.toList) ∧
      formula.gatheredVars = distinct (Statement.occurring statement) ∧
      formula.vars = distinct (Statement.occurring statement) ∧
      formula.sortedVars.Perm formula.vars ∧ formula.sortedVars.Pairwise (· < ·)) ∧
    ∀ (argument : Argument) (texts : List String), argument.Accepted →
      List.Forall₂ Reads texts argument.statements →
      argument.vars =
        argument.config.order.arrange (distinct (texts.flatMap Statement.occurring)) := by
  constructor
  · intro statement formula accepted
    have leaves := Statement.leaves_of_parse accepted
    have vars : formula.vars = distinct (Statement.occurring statement) := by
      rw [Formula.vars,leaves]
    refine ⟨leaves,?_,formula.gatheredVars_eq.trans vars,vars,List.mergeSort_perm _ _,
      formula.sortedVars_ascending⟩
    intro name leaf
    have speakable := (Statement.Expressible.parsed accepted).canonical.2 name leaf
    exact ⟨speakable.1,Statement.not_spelling_of_speakable speakable⟩
  · intro argument texts accepted read
    rw [accepted.vars_eq,← Statement.flatMap_leaves read]
    exact congrArg _ (distinct_flatMap_distinct ..)

/-- The occurrences in an argument with connectives in several spellings. -/
theorem occurrences_exact_spelled :
    let first : Proposition :=
      ⟨"(q OR p) and ~q",.junction .and [.junction .or [.var "q",.var "p"],.neg (.var "q")],
        ["q","p"],{}⟩
    let last : Proposition := ⟨"r -> p",.conditional (.var "r") (.var "p"),["r","p"],{}⟩
    let argument : Argument := ⟨[first],some last,["q","p","r"],{}⟩
    first.formula.leaves = Statement.occurring first.statement ∧
      first.formula.leaves = ["q","p","q"] ∧
      argument.vars = distinct ([first.statement,last.statement].flatMap Statement.occurring) := by
  intro first last argument
  have readFirst : Statement.parse "(q OR p) and ~q" = .ok (Statement.Tree.formula
      (.binary .and (.binary .or (.name "q") (.name "p")) (.not (.name "q")))) :=
    Statement.parse_of_tree (by decide +kernel)
  have readLast : Statement.parse "r -> p" = .ok (Statement.Tree.formula
      (.binary .implies (.name "r") (.name "p"))) :=
    Statement.parse_of_tree (by decide +kernel)
  have made : Argument.make [first] (some last) {} = .ok argument := rfl
  obtain ⟨leaves,-⟩ := occurrences_exact.1 _ _ readFirst
  exact ⟨leaves,rfl,occurrences_exact.2 argument _ (.made made) (.cons readFirst (.cons readLast .nil))⟩

end Sentential
