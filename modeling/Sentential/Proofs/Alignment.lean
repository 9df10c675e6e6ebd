import Mathlib.Algebra.Ring.Nat
import Mathlib.Order.Bounds.Basic
import Sentential.Proofs.Lines

/-! Tables that are read by position. A column is as wide as its longest text, and three characters stand
between columns, so the widths tell where each column is, in every line alike. Blanks are dropped at the
end of a line. Bars and marks are not blank, so a line keeps all of them, and of the texts of its columns
it loses nothing but blanks at their ends. -/
namespace Sentential

namespace Text

theorem trimEnd_append {gap : List Char} (blank : ∀ c ∈ gap, isBlank c) (text : List Char) :
    trimEnd (text ++ gap) = trimEnd text := by
  have blank' : ∀ c ∈ gap.reverse, isBlank c :=
    fun c member => blank c (List.mem_reverse.mp member)
  rw [trimEnd,trimStart,List.reverse_append,List.dropWhile_append_of_pos blank']
  rfl

/-- A character that is not blank is not trimmed off. -/
theorem getElem_trimEnd {c : Char} (apart : isBlank c = false) (text : List Char)
    (position : Nat) : (trimEnd text)[position]? = some c ↔ text[position]? = some c := by
  obtain ⟨gap,blank,split⟩ := exists_trimEnd text
  conv => rhs; rw [split]
  rw [List.getElem?_append]
  split
  · exact Iff.rfl
  · next beyond =>
    rw [List.getElem?_eq_none (Nat.le_of_not_lt beyond)]
    refine ⟨nofun,fun found => ?_⟩
    have within := blank c (List.mem_of_getElem? found)
    rw [apart] at within
    cases within

/-- If what is cut out is trimmed in the end, the text may be trimmed before as well. -/
theorem trimEnd_cut (text : List Char) (start count : Nat) :
    trimEnd (((trimEnd text).drop start).take count) = trimEnd ((text.drop start).take count) := by
  obtain ⟨gap,blank,split⟩ := exists_trimEnd text
  conv => rhs; rw [split]
  rw [List.drop_append,List.take_append,trimEnd_append]
  intro c member
  exact blank c (List.mem_of_mem_drop (List.mem_of_mem_take member))

/-- An end of the text without blanks is not trimmed. -/
theorem drop_trimEnd {text : List Char} {start : Nat}
    (apart : ∀ c ∈ text.drop start, isBlank c = false) :
    (trimEnd text).drop start = text.drop start := by
  obtain ⟨gap,blank,split⟩ := exists_trimEnd text
  have cut : text.drop start =
      (trimEnd text).drop start ++ gap.drop (start - (trimEnd text).length) := by
    rw [← List.drop_append,← split]
  have none : gap.drop (start - (trimEnd text).length) = [] := by
    apply List.eq_nil_iff_forall_not_mem.mpr
    intro c member
    have within := blank c (List.mem_of_mem_drop member)
    rw [apart c (by rw [cut]; exact List.mem_append_right _ member)] at within
    cases within
  rw [cut,none,List.append_nil]

end Text

namespace Column

/-- All that a column shows. -/
def texts (column : Column) : List String := column.header :: column.cells

/-- The cell in a row, empty where the column has run out. -/
def cell (column : Column) (row : Nat) : String := column.cells[row]?.getD ""

end Column

namespace PlainText

open Text

/-- Where a column begins: after the columns before it, three characters after each. -/
def offset (widths : List Nat) (place : Nat) : Nat := ((widths.take place).map (· + 3)).sum

/-- The position is inside a column. -/
def Within (widths : List Nat) (position : Nat) : Prop :=
  ∃ place width, widths[place]? = some width ∧
    offset widths place ≤ position ∧ position < offset widths place + width

/-- The position is in the middle of the three characters between a column and the next. -/
def Between (widths : List Nat) (position : Nat) : Prop :=
  ∃ place, place + 1 < widths.length ∧ position + 2 = offset widths (place + 1)

section Positions

variable (widths : List Nat) (width position : Nat)

theorem offset_zero : offset widths 0 = 0 := rfl

theorem offset_cons_succ (place : Nat) :
    offset (width :: widths) (place + 1) = width + 3 + offset widths place := by
  simp [offset]

theorem offset_append {widths : List Nat} {place : Nat} (inside : place ≤ widths.length)
    (others : List Nat) : offset (widths ++ others) place = offset widths place := by
  rw [offset,List.take_append_of_le_length inside]
  rfl

theorem within_cons : Within (width :: widths) position ↔
    position < width ∨ width + 3 ≤ position ∧ Within widths (position - (width + 3)) := by
  constructor
  · rintro ⟨_ | place,width',listed,start,stop⟩
    · cases listed
      rw [offset_zero] at stop
      exact .inl (by omega)
    · rw [offset_cons_succ] at start stop
      exact .inr ⟨by omega,place,width',listed,by omega,by omega⟩
  · rintro (first | ⟨beyond,place,width',listed,start,stop⟩)
    · exact ⟨0,width,rfl,Nat.zero_le _,by rwa [offset_zero,Nat.zero_add]⟩
    · refine ⟨place + 1,width',listed,?_,?_⟩
      all_goals rw [offset_cons_succ]; omega

theorem between_cons (next : Nat) : Between (width :: next :: widths) position ↔
    position = width + 1 ∨
      width + 3 ≤ position ∧ Between (next :: widths) (position - (width + 3)) := by
  constructor
  · rintro ⟨_ | place,inside,middle⟩
    · rw [offset_cons_succ,offset_zero] at middle
      exact .inl (by omega)
    · rw [offset_cons_succ] at middle
      have later := offset_cons_succ widths next place
      exact .inr ⟨by omega,place,Nat.lt_of_succ_lt_succ inside,by omega⟩
  · rintro (rfl | ⟨beyond,place,inside,middle⟩)
    · exact ⟨0,by simp,rfl⟩
    · exact ⟨place + 1,Nat.succ_lt_succ inside,by rw [offset_cons_succ]; omega⟩

theorem not_between_singleton : ¬ Between [width] position := by
  rintro ⟨place,inside,-⟩
  simp at inside

theorem within_concat : Within (widths ++ [width]) position ↔ Within widths position ∨
    offset widths widths.length ≤ position ∧
      position < offset widths widths.length + width := by
  constructor
  · rintro ⟨place,width',listed,start,stop⟩
    rcases Nat.lt_or_ge place widths.length with inside | beyond
    · rw [List.getElem?_append_left inside] at listed
      rw [offset_append (Nat.le_of_lt inside)] at start stop
      exact .inl ⟨place,width',listed,start,stop⟩
    · obtain ⟨bound,-⟩ := List.getElem?_eq_some_iff.mp listed
      rw [List.length_append,List.length_singleton] at bound
      obtain rfl : place = widths.length := by omega
      rw [List.getElem?_concat_length] at listed
      cases listed
      rw [offset_append le_rfl] at start stop
      exact .inr ⟨start,stop⟩
  · rintro (⟨place,width',listed,start,stop⟩ | ⟨start,stop⟩)
    · obtain ⟨inside,-⟩ := List.getElem?_eq_some_iff.mp listed
      refine ⟨place,width',by rwa [List.getElem?_append_left inside],?_⟩
      rw [offset_append (Nat.le_of_lt inside)]
      exact ⟨start,stop⟩
    · refine ⟨widths.length,width,List.getElem?_concat_length,?_⟩
      rw [offset_append le_rfl]
      exact ⟨start,stop⟩

theorem between_concat : Between (widths ++ [width]) position ↔ Between widths position ∨
    position + 2 = offset widths widths.length := by
  simp only [Between,List.length_append,List.length_singleton,Nat.add_lt_add_iff_right]
  constructor
  · rintro ⟨place,inside,middle⟩
    rw [offset_append inside] at middle
    rcases Nat.lt_or_eq_of_le inside with inside | last
    · exact .inl ⟨place,inside,middle⟩
    · rw [← last]
      exact .inr middle
  · rintro (⟨place,inside,middle⟩ | middle)
    · exact ⟨place,Nat.lt_of_succ_lt inside,by rwa [offset_append (Nat.le_of_lt inside)]⟩
    · cases widths with
      | nil => cases middle
      | cons first widths =>
        have last := offset_append (le_refl (first :: widths).length) [width]
        exact ⟨widths.length,Nat.lt_succ_self _,middle.trans last.symm⟩

end Positions

section Joined

variable {sep : List α}

/-- From the beginning of a part on, what is joined are the parts that are left. -/
theorem drop_intercalate (three : sep.length = 3) (parts : List (List α)) (place : Nat) :
    (sep.intercalate parts).drop (offset (parts.map List.length) place) =
      sep.intercalate (parts.drop place) := by
  induction parts generalizing place with
  | nil => simp
  | cons part parts ih =>
    cases place with
    | zero => rfl
    | succ place =>
      rw [List.map_cons,offset_cons_succ,List.drop_succ_cons,← ih,← List.drop_drop]
      apply congrArg
      cases parts with
      | nil => simp
      | cons next parts =>
        have length : (part ++ sep).length = part.length + 3 := by rw [List.length_append,three]
        rw [List.intercalate_cons_cons,← length,List.drop_left]

theorem take_intercalate_cons (part : List α) (parts : List (List α)) :
    (sep.intercalate (part :: parts)).take part.length = part := by
  cases parts with
  | nil => simp
  | cons next parts => rw [List.intercalate_cons_cons,List.append_assoc,List.take_left]

theorem cut_intercalate (three : sep.length = 3) {parts : List (List α)} {place : Nat}
    {part : List α} (listed : parts[place]? = some part) :
    ((sep.intercalate parts).drop (offset (parts.map List.length) place)).take part.length =
      part := by
  rw [drop_intercalate three,List.drop_eq_getElem?_toList_append,listed]
  exact take_intercalate_cons ..

/-- Outside the parts, the middle of a separator is found between two parts and nowhere else. -/
theorem middle_iff_between {gap middle : α} (apart : gap ≠ middle) (parts : List (List α))
    (position : Nat) :
    ([gap,middle,gap].intercalate parts)[position]? = some middle ∧
        ¬ Within (parts.map List.length) position ↔
      Between (parts.map List.length) position := by
  induction parts generalizing position with
  | nil => simp [Between]
  | cons part parts ih =>
    cases parts with
    | nil =>
      rw [List.intercalate_singleton]
      refine ⟨?_,fun between => absurd between (not_between_singleton _ _)⟩
      rintro ⟨found,outside⟩
      obtain ⟨inside,-⟩ := List.getElem?_eq_some_iff.mp found
      exact absurd ((within_cons ..).mpr (.inl inside)) outside
    | cons next parts =>
      rw [List.intercalate_cons_cons,List.map_cons,within_cons,List.map_cons,between_cons,
        ← List.map_cons,List.append_assoc]
      rcases Nat.lt_or_ge position part.length with inside | beyond
      · refine ⟨fun found => absurd (.inl inside) found.2,fun between => ?_⟩
        omega
      · -- The position is one of the three of the separator, or it is among the parts that follow.
        obtain ⟨index,rfl⟩ := Nat.exists_eq_add_of_le beyond
        rw [List.getElem?_append_right beyond,Nat.add_sub_cancel_left]
        rcases index with _ | _ | _ | index
        · simp [apart]
        · simp
        · simp [apart]
        · have next : part.length + (index + 1 + 1 + 1) - (part.length + 3) = index := by omega
          have after : part.length + 3 ≤ part.length + (index + 1 + 1 + 1) := by omega
          simpa [next,after] using ih index

end Joined

/-- In the rule there are only dashes inside the columns, so its crossings are all between them. -/
theorem crossing_iff_between (widths : List Nat) (position : Nat) :
    (rule widths)[position]? = some '+' ↔ Between widths position := by
  have lengths : (widths.map (List.replicate · '-')).map List.length = widths := by
    simp [Function.comp_def]
  have apart : '-' ≠ '+' := by decide
  have middles := middle_iff_between apart (widths.map (List.replicate · '-')) position
  rw [lengths,← rule] at middles
  rw [← middles]
  refine ⟨fun found => ⟨found,?_⟩,And.left⟩
  rintro ⟨place,width,listed,start,stop⟩
  have dashed : (widths.map (List.replicate · '-'))[place]? = some (List.replicate width '-') := by
    rw [List.getElem?_map,listed]
    rfl
  have three : ['-','+','-'].length = 3 := rfl
  have dashes := cut_intercalate three dashed
  rw [lengths,← rule,List.length_replicate] at dashes
  obtain ⟨index,rfl⟩ := Nat.exists_eq_add_of_le start
  have inside : index < width := by omega
  rw [← List.getElem?_drop,← List.getElem?_take_of_lt inside,dashes,
    List.getElem?_replicate_of_lt inside] at found
  cases found

theorem trimEnd_pad (width : Nat) (text : String) :
    trimEnd (pad width text) = trimEnd text.toList := by
  apply trimEnd_append
  intro c member
  rw [List.eq_of_mem_replicate member]
  decide

theorem length_pad {width : Nat} {text : String} (fits : text.length ≤ width) :
    (pad width text).length = width := by
  rw [pad,List.length_append,List.length_replicate,String.length_toList]
  omega

/-- One text of each column, padded to the width of the column. -/
def fitted (columns : List Column) (text : Column → String) : List (List Char) :=
  columns.map fun column => pad (width column) (text column)

/-- A line with a text of each column and what follows the columns, if anything does. -/
def lineOf (columns : List Column) (text : Column → String) (ending? : Option (List Char)) :
    List Char :=
  line (fitted columns text ++ ending?.toList)

/-- What follows the columns in a row if there are marks. It is empty where the marks have run out. -/
def marking (marks? : Option (List Bool)) (row : Nat) : Option (List Char) :=
  marks?.map fun marks => (marks[row]?.map mark).toList

/-- The number of rows. -/
def height (columns : List Column) : Nat :=
  (columns.map fun column => column.cells.length).foldl max 0

/-- A line shows a text of each column at the place of the column, its bars are between the columns, and
what follows the columns stands behind one more bar. -/
structure Shows (columns : List Column) (text : Column → String) (ending? : Option (List Char))
    (chars : List Char) : Prop where
  texts : ∀ place column, columns[place]? = some column →
    trimEnd ((chars.drop (offset (columns.map width) place)).take (width column)) =
      trimEnd (text column).toList
  bars : ∀ position, chars[position]? = some '|' ∧ ¬ Within (columns.map width) position ↔
    Between (columns.map width) position ∨
      ending?.isSome ∧ position + 2 = offset (columns.map width) columns.length
  ending : chars.drop (offset (columns.map width) columns.length) = ending?.getD []

section Lines

variable {columns : List Column} {text : Column → String} {ending? : Option (List Char)}

theorem map_length_fitted (fits : ∀ column ∈ columns, (text column).length ≤ width column) :
    (fitted columns text).map List.length = columns.map width := by
  rw [fitted,List.map_map]
  exact List.map_congr_left fun column member => length_pad (fits column member)

theorem offset_fitted (fits : ∀ column ∈ columns, (text column).length ≤ width column)
    {place : Nat} (inside : place ≤ columns.length) (others : List (List Char)) :
    offset ((fitted columns text ++ others).map List.length) place =
      offset (columns.map width) place := by
  rw [List.map_append,map_length_fitted fits,offset_append]
  rwa [List.length_map]

theorem cut_lineOf (fits : ∀ column ∈ columns, (text column).length ≤ width column)
    {place : Nat} {column : Column} (listed : columns[place]? = some column) :
    trimEnd (((lineOf columns text ending?).drop
        (offset (columns.map width) place)).take (width column)) =
      trimEnd (text column).toList := by
  obtain ⟨inside,-⟩ := List.getElem?_eq_some_iff.mp listed
  have length := length_pad (fits column (List.mem_of_getElem? listed))
  have part : (fitted columns text ++ ending?.toList)[place]? =
      some (pad (width column) (text column)) := by
    rw [List.getElem?_append_left (by rwa [fitted,List.length_map]),fitted,List.getElem?_map,listed]
    rfl
  have three : [' ','|',' '].length = 3 := rfl
  have cut := cut_intercalate three part
  rw [offset_fitted fits (Nat.le_of_lt inside),length] at cut
  rw [lineOf,line,trimEnd_cut,cut,trimEnd_pad]

/-- What follows the columns, before blanks are dropped. -/
theorem drop_joined (fits : ∀ column ∈ columns, (text column).length ≤ width column)
    (ending? : Option (List Char)) :
    ([' ','|',' '].intercalate (fitted columns text ++ ending?.toList)).drop
      (offset (columns.map width) columns.length) = ending?.getD [] := by
  have length : (fitted columns text).length = columns.length := by rw [fitted,List.length_map]
  rw [← offset_fitted fits le_rfl ending?.toList,drop_intercalate rfl,List.drop_left' length]
  cases ending? <;> simp

theorem drop_lineOf (fits : ∀ column ∈ columns, (text column).length ≤ width column)
    (apart : ∀ ending ∈ ending?, ∀ c ∈ ending, isBlank c = false) :
    (lineOf columns text ending?).drop (offset (columns.map width) columns.length) =
      ending?.getD [] := by
  rw [lineOf,line,drop_trimEnd,drop_joined fits]
  rw [drop_joined fits]
  cases ending? with
  | none => exact nofun
  | some ending => exact apart ending rfl

/-- There is no bar in what follows the columns. -/
theorem lt_of_bar (fits : ∀ column ∈ columns, (text column).length ≤ width column)
    (apart : ∀ ending ∈ ending?, '|' ∉ ending) {position : Nat}
    (found : ([' ','|',' '].intercalate
      (fitted columns text ++ ending?.toList))[position]? = some '|') :
    position < offset (columns.map width) columns.length := by
  rw [← Nat.not_le]
  intro beyond
  obtain ⟨index,rfl⟩ := Nat.exists_eq_add_of_le beyond
  rw [← List.getElem?_drop,drop_joined fits] at found
  cases ending? with
  | none => cases found
  | some ending => exact apart ending rfl (List.mem_of_getElem? found)

/-- For the bars, what follows the columns counts as one more column. -/
theorem bar_lineOf (fits : ∀ column ∈ columns, (text column).length ≤ width column)
    (apart : ∀ ending ∈ ending?, '|' ∉ ending) (position : Nat) :
    (lineOf columns text ending?)[position]? = some '|' ∧
        ¬ Within (columns.map width) position ↔
      Between (columns.map width) position ∨
        ending?.isSome ∧ position + 2 = offset (columns.map width) columns.length := by
  have gap : ' ' ≠ '|' := by decide
  have middles := middle_iff_between gap (fitted columns text ++ ending?.toList) position
  rw [List.map_append,map_length_fitted fits] at middles
  rw [lineOf,line,getElem_trimEnd (by decide)]
  cases ending? with
  | none => simpa using middles
  | some ending =>
    have count : (columns.map width).length = columns.length := List.length_map _
    rw [Option.toList_some,List.map_singleton,within_concat,between_concat,count] at middles
    rw [Option.isSome_some,eq_self,true_and,← middles]
    refine and_congr_right fun found => not_congr ⟨.inl,?_⟩
    rintro (within | ⟨beyond,-⟩)
    · exact within
    · exact absurd (lt_of_bar fits apart found) (Nat.not_lt.mpr beyond)

theorem shows_lineOf (fits : ∀ column ∈ columns, (text column).length ≤ width column)
    (marked : ∀ ending ∈ ending?, ∀ c ∈ ending, c = checkMark ∨ c = crossMark) :
    Shows columns text ending? (lineOf columns text ending?) where
  texts _ _ listed := cut_lineOf fits listed
  bars := bar_lineOf fits fun ending member inside =>
    absurd (marked ending member '|' inside) (by decide)
  ending := drop_lineOf fits fun ending member c inside => by
    rcases marked ending member c inside with rfl | rfl
    all_goals decide

theorem newline_notMem_lineOf (single : ∀ column ∈ columns, '\n' ∉ (text column).toList)
    (apart : ∀ ending ∈ ending?, '\n' ∉ ending) : '\n' ∉ lineOf columns text ending? := by
  have joined : '\n' ∉ [' ','|',' '].intercalate (fitted columns text ++ ending?.toList) := by
    refine notMem_intercalate (by decide) (List.forall_mem_append.mpr ⟨?_,?_⟩)
    · refine List.forall_mem_map.mpr fun column member => ?_
      simp [pad,single column member]
    · exact fun ending member => apart ending (Option.mem_toList.mp member)
  exact fun inside => joined ((isPrefix_trimEnd _).subset inside)

end Lines

theorem newline_notMem_rule (widths : List Nat) : '\n' ∉ rule widths := by
  refine notMem_intercalate (by decide) (List.forall_mem_map.mpr fun width _ => ?_)
  simp

theorem marked_marking (marks? : Option (List Bool)) (row : Nat) :
    ∀ ending ∈ marking marks? row, ∀ c ∈ ending, c = checkMark ∨ c = crossMark := by
  intro ending member c inside
  obtain ⟨marks,-,rfl⟩ := Option.map_eq_some_iff.mp member
  obtain ⟨passed,-,rfl⟩ := Option.map_eq_some_iff.mp (Option.mem_toList.mp inside)
  cases passed
  · exact .inr rfl
  · exact .inl rfl

theorem width_greatest (column : Column) :
    IsGreatest {count | ∃ text ∈ column.texts, text.length = count} (width column) := by
  have greatest : (column.texts.map String.length).max? = some (width column) := rfl
  obtain ⟨reached,bound⟩ := List.max?_eq_some_iff.mp greatest
  exact ⟨List.mem_map.mp reached,fun count member => bound count (List.mem_map.mpr member)⟩

theorem height_least (columns : List Column) :
    IsLUB {count | ∃ column ∈ columns, column.cells.length = count} (height columns) := by
  have greatest : (0 :: columns.map fun column => column.cells.length).max? =
      some (height columns) :=
    rfl
  obtain ⟨reached,bound⟩ := List.max?_eq_some_iff.mp greatest
  refine ⟨fun count member => ?_,fun above least => ?_⟩
  · exact bound count (List.mem_cons_of_mem _ (List.mem_map.mpr member))
  · rcases List.mem_cons.mp reached with none | reached
    · rw [none]
      exact Nat.zero_le above
    · exact least (List.mem_map.mp reached)

theorem header_mem_texts (column : Column) : column.header ∈ column.texts := List.mem_cons_self ..

/-- Past the end of a column its cells are empty, and that fits and breaks no line either. -/
theorem forall_cell {p : String → Prop} {column : Column} (each : ∀ text ∈ column.texts, p text)
    (empty : p "") (row : Nat) : p (column.cell row) := by
  rw [Column.cell]
  cases listed : column.cells[row]? with
  | none => exact empty
  | some cell => exact each cell (List.mem_cons_of_mem _ (List.mem_of_getElem? listed))

theorem length_le_width (column : Column) : ∀ text ∈ column.texts, text.length ≤ width column :=
  fun text member => (width_greatest column).2 ⟨text,member,rfl⟩

/-- Going down the columns by their tails comes to the cells of each row in turn. -/
theorem body_eq (widths : List Nat) (count : Nat) (columns : List (List String))
    (marks? : Option (List Bool)) :
    body widths count columns marks? = (List.range count).map fun row =>
      line (List.zipWith (fun width cells => pad width (cells[row]?.getD "")) widths columns ++
        (marking marks? row).toList) := by
  induction count generalizing columns marks? with
  | zero => rfl
  | succ count ih =>
    rw [body,ih,List.range_succ_eq_map,List.map_cons,List.map_map]
    congr 1
    · cases marks? <;> simp [marking,List.headD_eq_head?_getD,List.head?_eq_getElem?]
    · apply List.map_congr_left
      intro row _
      cases marks? <;> simp [marking,List.zipWith_map_right]

theorem lines_eq (columns : List Column) (marks? : Option (List Bool)) :
    lines columns marks? = lineOf columns Column.header none :: rule (columns.map width) ::
      (List.range (height columns)).map fun row =>
        lineOf columns (·.cell row) (marking marks? row) := by
  rw [lines,body_eq,lineOf,Option.toList_none,List.append_nil]
  simp only [List.zipWith_map_right,List.zipWith_map_left,List.zipWith_self]
  rfl

/-- The lines of a table: one with the headers, a rule that crosses the bars of all lines, and one for each
row. There are as many rows as the longest column has cells, and none if there are no columns. -/
structure Aligned (columns : List Column) (marks? : Option (List Bool)) (header rule : List Char)
    (rows : List (List Char)) : Prop where
  widest : ∀ column ∈ columns,
    IsGreatest {count | ∃ text ∈ column.texts, text.length = count} (width column)
  longest : IsLUB {count | ∃ column ∈ columns, column.cells.length = count} rows.length
  headers : Shows columns Column.header none header
  crossings : ∀ position, rule[position]? = some '+' ↔ Between (columns.map width) position
  cells : ∀ index row, rows[index]? = some row →
    Shows columns (·.cell index) (marking marks? index) row

theorem aligned_lines (columns : List Column) (marks? : Option (List Bool)) :
    ∃ header rule rows, lines columns marks? = header :: rule :: rows ∧
      Aligned columns marks? header rule rows := by
  refine ⟨_,_,_,lines_eq columns marks?,?_⟩
  constructor
  case widest => exact fun column _ => width_greatest column
  case longest =>
    rw [List.length_map,List.length_range]
    exact height_least columns
  case headers =>
    have fits (column : Column) (_ : column ∈ columns) : column.header.length ≤ width column :=
      length_le_width column _ (header_mem_texts column)
    exact shows_lineOf fits nofun
  case crossings => exact crossing_iff_between _
  case cells =>
    intro index row listed
    rw [List.getElem?_map] at listed
    obtain ⟨index',counted,rfl⟩ := Option.map_eq_some_iff.mp listed
    obtain ⟨bound,same⟩ := List.getElem?_eq_some_iff.mp counted
    obtain rfl : index = index' := by rwa [List.getElem_range] at same
    have fits (column : Column) (_ : column ∈ columns) :
        (column.cell index).length ≤ width column :=
      forall_cell (length_le_width column) (Nat.zero_le _) index
    exact shows_lineOf fits (marked_marking marks? index)

theorem newline_notMem_lines {columns : List Column} {marks? : Option (List Bool)}
    (unbroken : ∀ column ∈ columns, ∀ text ∈ column.texts, '\n' ∉ text.toList) :
    ∀ line ∈ lines columns marks?, '\n' ∉ line := by
  rw [lines_eq]
  refine List.forall_mem_cons.mpr ⟨?_,List.forall_mem_cons.mpr ⟨newline_notMem_rule _,?_⟩⟩
  · have single (column : Column) (member : column ∈ columns) : '\n' ∉ column.header.toList :=
      unbroken column member _ (header_mem_texts column)
    exact newline_notMem_lineOf single nofun
  · refine List.forall_mem_map.mpr fun row _ => newline_notMem_lineOf ?_ ?_
    · intro column member
      exact forall_cell (unbroken column member) (by decide) row
    · intro ending member inside
      exact absurd (marked_marking marks? row ending member '\n' inside) (by decide)

/-- Texts without line breaks are written on as many lines as the longest column has cells, and two more.
The lines show the headers and the cells where their columns are, and the mark of each row after them. The
rule crosses all bars, but for those that stand before the marks. -/
theorem render_aligned {columns : List Column}
    (unbroken : ∀ column ∈ columns, ∀ text ∈ column.texts, '\n' ∉ text.toList)
    (marks? : Option (List Bool)) :
    CommandLine.Whole (render columns marks?) ∧ ∃ header rule rows,
      CommandLine.lines (render columns marks?) = (header :: rule :: rows).map String.ofList ∧
      Aligned columns marks? header rule rows := by
  refine ⟨CommandLine.whole_render columns marks?,?_⟩
  obtain ⟨header,rule,rows,written,aligned⟩ := aligned_lines columns marks?
  refine ⟨header,rule,rows,?_,aligned⟩
  rw [render,CommandLine.lines_flatMap (newline_notMem_lines unbroken),written]

/-- The cells of the second column run out, and so do the marks. The blanks that stand for them are dropped,
but the bars are all there. -/
theorem render_aligned_ragged :
    let columns : List Column := [⟨"p",["0","1"]⟩,⟨"p ∧ q",["1"]⟩]
    (∀ column ∈ columns, ∀ text ∈ column.texts, '\n' ∉ text.toList) ∧
      CommandLine.lines (render columns (some [true])) =
        ["p | p ∧ q","--+------","0 | 1     | ✓","1 |       |"] ∧
      Aligned columns (some [true]) "p | p ∧ q".toList "--+------".toList
        ["0 | 1     | ✓".toList,"1 |       |".toList] := by
  intro columns
  have unbroken : ∀ column ∈ columns, ∀ text ∈ column.texts, '\n' ∉ text.toList := by decide
  have written : CommandLine.lines (render columns (some [true])) =
      ["p | p ∧ q","--+------","0 | 1     | ✓","1 |       |"] := by
    decide +kernel
  obtain ⟨-,header,rule,rows,lines,aligned⟩ := render_aligned unbroken (some [true])
  have parts : header :: rule :: rows = ["p | p ∧ q".toList,"--+------".toList,
      "0 | 1     | ✓".toList,"1 |       |".toList] := by
    apply List.map_injective_iff.mpr (fun _ _ => String.ofList_injective)
    exact lines.symm.trans written
  cases parts
  exact ⟨unbroken,written,aligned⟩

end PlainText
end Sentential
