import Mathlib.Data.List.Chain
import Sentential.CommandLine.Run
import Sentential.Proofs.Rendering

/-! Printed text by its lines. Whatever is printed ends its last line, so what is printed later starts a
line of its own. The line of a countermodel is told from those of a table by the colon in it: in a table
colons stand at most for truth values, and then they are apart from all letters. -/
namespace Sentential

theorem infix_intercalate {sep : List α} {part : List α} {parts : List (List α)}
    (member : part ∈ parts) : part <:+: sep.intercalate parts := by
  induction parts with
  | nil => cases member
  | cons first others ih =>
    cases others with
    | nil =>
      rw [List.mem_singleton.mp member]
      simp
    | cons next others =>
      rw [List.intercalate_cons_cons]
      rcases List.mem_cons.mp member with rfl | member
      · exact ⟨[],sep ++ sep.intercalate (next :: others),by simp⟩
      · exact (ih member).trans (List.suffix_append _ _).isInfix

theorem notMem_intercalate {x : α} {sep : List α} {parts : List (List α)} (apart : x ∉ sep)
    (absent : ∀ part ∈ parts, x ∉ part) : x ∉ sep.intercalate parts := by
  induction parts with
  | nil => exact List.not_mem_nil
  | cons part parts ih =>
    obtain ⟨first,absent⟩ := List.forall_mem_cons.mp absent
    cases parts with
    | nil => simpa using first
    | cons next parts =>
      rw [List.intercalate_cons_cons,List.mem_append,List.mem_append]
      rintro ((inside | inside) | inside)
      · exact first inside
      · exact apart inside
      · exact ih absent inside

theorem exists_of_mem_zipWith {f : α → β → γ} {xs : List α} {ys : List β} {z : γ}
    (member : z ∈ List.zipWith f xs ys) : ∃ x, ∃ y ∈ ys, z = f x y := by
  rw [← List.map_uncurry_zip_eq_zipWith] at member
  obtain ⟨⟨x,y⟩,paired,rfl⟩ := List.mem_map.mp member
  exact ⟨x,y,(List.of_mem_zip paired).2,rfl⟩

theorem Text.isPrefix_trimEnd (text : List Char) : trimEnd text <+: text := by
  obtain ⟨gap,-,split⟩ := exists_trimEnd text
  exact ⟨gap,split.symm⟩

namespace CommandLine

/-- The lines of a text, each ended by a newline. What comes after the last one is no line. -/
def lines (text : String) : List String :=
  (text.toList.splitOn '\n').dropLast.map String.ofList

/-- Nothing is left of a text after its last line. -/
def Whole (text : String) : Prop := text = "" ∨ ∃ before, text = before ++ "\n"

theorem whole_line (text : String) : Whole (line text) := .inr ⟨text,rfl⟩

theorem whole_append_line (before text : String) : Whole (before ++ line text) :=
  .inr ⟨before ++ text,(String.append_assoc ..).symm⟩

theorem whole_empty : Whole "" := .inl rfl

theorem Whole.append {text rest : String} (whole : Whole text) (whole' : Whole rest) :
    Whole (text ++ rest) := by
  rcases whole' with rfl | ⟨before,rfl⟩
  · rwa [String.append_empty]
  · exact .inr ⟨text ++ before,(String.append_assoc ..).symm⟩

theorem whole_render (columns : List Column) (marks? : Option (List Bool)) :
    Whole (PlainText.render columns marks?) := by
  rw [PlainText.render]
  induction PlainText.lines columns marks? with
  | nil => exact whole_empty
  | cons text texts ih =>
    have first : Whole (String.ofList (text ++ ['\n'])) := by
      rw [String.ofList_append]
      exact whole_line _
    rw [List.flatMap_cons,String.ofList_append]
    exact first.append ih

theorem lines_empty : lines "" = [] := rfl

/-- What is printed after whole lines makes lines of its own. -/
theorem lines_append {text : String} (whole : Whole text) (rest : String) :
    lines (text ++ rest) = lines text ++ lines rest := by
  rcases whole with rfl | ⟨before,rfl⟩
  · rw [String.empty_append,lines_empty,List.nil_append]
  · have ended : before.toList ++ ['\n'] ++ rest.toList = before.toList ++ '\n' :: rest.toList := by
      simp
    have newline : "\n".toList = ['\n'] := rfl
    simp only [lines,String.toList_append,newline,ended,List.splitOn_append_cons_self,
      List.splitOn_nil,List.dropLast_append_of_ne_nil (List.splitOn_ne_nil _ _),
      List.dropLast_append_of_ne_nil (List.cons_ne_nil _ _),List.map_append]
    simp

theorem lines_line {text : String} (single : '\n' ∉ text.toList) : lines (line text) = [text] := by
  have newline : "\n".toList = ['\n'] := rfl
  rw [lines,line,String.toList_append,newline,List.splitOn_append_cons_self,
    List.splitOn_eq_singleton single,List.splitOn_nil]
  simp

/-- Texts that are printed one under the other are the lines of what is printed. -/
theorem lines_flatMap {texts : List (List Char)} (single : ∀ text ∈ texts, '\n' ∉ text) :
    lines (String.ofList (texts.flatMap (· ++ ['\n']))) = texts.map String.ofList := by
  induction texts with
  | nil => exact lines_empty
  | cons text texts ih =>
    obtain ⟨first,others⟩ := List.forall_mem_cons.mp single
    have ended : String.ofList (text ++ ['\n']) = line (String.ofList text) :=
      String.ofList_append ..
    have single : '\n' ∉ (String.ofList text).toList := by rwa [String.toList_ofList]
    rw [List.flatMap_cons,String.ofList_append,ended,lines_append (whole_line _),lines_line single,
      ih others,List.map_cons,List.singleton_append]

end CommandLine

namespace PlainText

open Text

/-- Nowhere in a text does a colon follow an l. -/
def NoCue (text : List Char) : Prop := text.IsChain fun c next => next = ':' → c ≠ 'l'

theorem noCue_of_notMem {text : List Char} (absent : ':' ∉ text) : NoCue text := by
  rw [NoCue,List.isChain_iff_forall_rel_of_append_cons_cons]
  rintro c next before after rfl rfl
  simp at absent

theorem NoCue.within {text part : List Char} (noCue : NoCue text) (inside : part <:+: text) :
    NoCue part := by
  obtain ⟨before,after,rfl⟩ := inside
  exact (List.IsChain.left_of_append noCue).right_of_append

/-- Texts may follow each other if the first does not end in an l, or the second is no colon first. -/
theorem NoCue.append {text rest : List Char} (noCue : NoCue text) (noCue' : NoCue rest)
    (apart : text.getLast? ≠ some 'l' ∨ rest.head? ≠ some ':') : NoCue (text ++ rest) := by
  refine List.isChain_append.mpr ⟨noCue,noCue',?_⟩
  rintro c last next head rfl rfl
  rcases apart with apart | apart
  · exact apart last
  · exact apart head

theorem noCue_intercalate {sep : List Char} (some : sep ≠ []) (apart : 'l' ∉ sep ∧ ':' ∉ sep)
    {cells : List (List Char)} (noCue : ∀ cell ∈ cells, NoCue cell) :
    NoCue (sep.intercalate cells) := by
  induction cells with
  | nil => exact .nil
  | cons cell cells ih =>
    obtain ⟨first,noCue⟩ := List.forall_mem_cons.mp noCue
    cases cells with
    | nil => simpa using first
    | cons next cells =>
      have between := noCue_of_notMem apart.2
      rw [List.intercalate_cons_cons]
      refine (first.append between (.inr fun head => ?_)).append (ih noCue) (.inl fun last => ?_)
      · exact apart.2 (List.mem_of_mem_head? head)
      · rw [List.getLast?_append_of_ne_nil _ some] at last
        exact apart.1 (List.mem_of_getLast? last)

theorem noCue_line {cells : List (List Char)} (noCue : ∀ cell ∈ cells, NoCue cell) :
    NoCue (line cells) :=
  (noCue_intercalate (by decide) (by decide) noCue).within (isPrefix_trimEnd _).isInfix

/-- A cell for a truth value holds one character, if any. -/
theorem noCue_pad {width : Nat} {cell : String} (short : cell.length ≤ 1) :
    NoCue (pad width cell) := by
  have blanks : ':' ∉ List.replicate (width - cell.length) ' ' := by simp
  rw [pad]
  rcases parts : cell.toList with _ | ⟨c,_ | ⟨other,cs⟩⟩
  · exact noCue_of_notMem blanks
  · have single : NoCue [c] := .singleton c
    exact single.append (noCue_of_notMem blanks) (.inr fun head => blanks (List.mem_of_mem_head? head))
  · rw [← String.length_toList,parts] at short
    simp at short

theorem noCue_rule (widths : List Nat) : NoCue (rule widths) := by
  refine noCue_intercalate (by decide) (by decide) fun part member => ?_
  obtain ⟨width,-,rfl⟩ := List.mem_map.mp member
  exact noCue_of_notMem (by simp)

theorem noCue_body {widths : List Nat} {count : Nat} {columns : List (List String)}
    {marks? : Option (List Bool)} (short : ∀ cells ∈ columns, ∀ cell ∈ cells, cell.length ≤ 1) :
    ∀ text ∈ body widths count columns marks?, NoCue text := by
  induction count generalizing columns marks? with
  | zero => exact List.forall_mem_nil _
  | succ count ih =>
    have later : ∀ cells ∈ columns.map List.tail, ∀ cell ∈ cells, cell.length ≤ 1 := by
      intro cells member cell inside
      obtain ⟨cells,of,rfl⟩ := List.mem_map.mp member
      exact short cells of cell (List.mem_of_mem_tail inside)
    refine List.forall_mem_cons.mpr ⟨noCue_line fun text member => ?_,ih later⟩
    rcases List.mem_append.mp member with padded | marked
    · obtain ⟨width,cells,of,rfl⟩ := exists_of_mem_zipWith padded
      apply noCue_pad
      cases cells with
      | nil => exact Nat.zero_le 1
      | cons cell cells => exact short _ of cell (List.mem_cons_self ..)
    · obtain ⟨marks,-,rfl⟩ := List.mem_map.mp marked
      cases marks with
      | nil => exact .nil
      | cons passed marks => exact .singleton _

theorem noCue_flatMap {texts : List (List Char)} (each : ∀ text ∈ texts, NoCue text) :
    NoCue (texts.flatMap (· ++ ['\n'])) := by
  induction texts with
  | nil => exact .nil
  | cons text texts ih =>
    obtain ⟨first,each⟩ := List.forall_mem_cons.mp each
    have ended : NoCue (text ++ ['\n']) := first.append (.singleton _) (.inr (by simp))
    exact ended.append (ih each) (.inl (by simp))

/-- A table shows no cue, if its headers hold no colons and its cells are those of truth values. -/
theorem noCue_render {columns : List Column} {marks? : Option (List Bool)}
    (headers : ∀ column ∈ columns, ':' ∉ column.header.toList)
    (short : ∀ column ∈ columns, ∀ cell ∈ column.cells, cell.length ≤ 1) :
    NoCue (render columns marks?).toList := by
  have each : ∀ text ∈ lines columns marks?, NoCue text := by
    refine List.forall_mem_cons.mpr ⟨noCue_line fun text member => ?_,?_⟩
    · obtain ⟨width,column,of,rfl⟩ := exists_of_mem_zipWith member
      exact noCue_of_notMem (by simp [pad,headers column of])
    · refine List.forall_mem_cons.mpr ⟨noCue_rule _,noCue_body ?_⟩
      intro cells member
      obtain ⟨column,of,rfl⟩ := List.mem_map.mp member
      exact short column of
  rw [render,String.toList_ofList]
  exact noCue_flatMap each

end PlainText

namespace CommandLine

/-- The lines of a text that show a countermodel. -/
def countermodelLines (text : String) : List String :=
  (lines text).filter fun line => "Countermodel: ".toList.isPrefixOf line.toList

theorem countermodelLines_append {text : String} (whole : Whole text) (rest : String) :
    countermodelLines (text ++ rest) = countermodelLines text ++ countermodelLines rest := by
  rw [countermodelLines,lines_append whole,List.filter_append]
  rfl

/-- No line of a text without a cue shows a countermodel. -/
theorem countermodelLines_of_noCue {text : String} (noCue : PlainText.NoCue text.toList) :
    countermodelLines text = [] := by
  apply List.filter_eq_nil_iff.mpr
  intro line listed shown
  obtain ⟨part,member,rfl⟩ := List.mem_map.mp listed
  have shown : "Countermodel: ".toList <+: part := by simpa using shown
  have within : part <:+: text.toList := by
    have whole : ['\n'].intercalate (text.toList.splitOn '\n') = text.toList :=
      List.intercalate_splitOn '\n'
    rw [← whole]
    exact infix_intercalate (List.dropLast_subset _ member)
  have inside : ['l',':'] <:+: "Countermodel: ".toList := ⟨"Countermode".toList,[' '],rfl⟩
  have cue := noCue.within ((inside.trans shown.isInfix).trans within)
  exact List.isChain_pair.mp cue rfl rfl

end CommandLine
end Sentential
