import Cqlite.Construction.Format
import Cqlite.Proof.PyString.Methods
import Mathlib.Algebra.Order.BigOperators.Group.List
import Mathlib.Algebra.Order.Group.Nat

/-!
What `_format_as_table` and the CSV text of `format_query_results` produce. Below the header every
line of a table has the separator's length, whatever the widths; the header is longer by what the
column names exceed their widths, which only scaling makes happen, and a scaled table keeps 8
characters a column however small `max_width` is. A table that fits `max_width` keeps every value
whole and reads back, split on `|` and stripped, to its columns and values; its only error is the
`ZeroDivisionError` of empty columns that do not fit. The CSV text reads back to the values of every
row under the keys of the first.
-/

namespace Cqlite.Utils

open PyStr

/-! ### The widths -/

/-- The natural width of a column is the least bound of its name and of its values. -/
theorem naturalWidth_le_iff {rows : List DisplayRow} {col : List Char} {bound : Nat} :
    naturalWidth rows col ≤ bound ↔
      col.length ≤ bound ∧ ∀ row ∈ rows, (row.get col).length ≤ bound := by
  suffices fold : ∀ (rows : List DisplayRow) (width : Nat),
      rows.foldl (fun width row => max width (row.get col).length) width ≤ bound ↔
        width ≤ bound ∧ ∀ row ∈ rows, (row.get col).length ≤ bound from fold rows _
  intro rows
  induction rows with
  | nil => simp
  | cons row rest ih =>
      simp only [List.foldl_cons, ih, Nat.max_le, List.forall_mem_cons, and_assoc, implies_true]

theorem le_naturalWidth (rows : List DisplayRow) (col : List Char) :
    col.length ≤ naturalWidth rows col ∧
      ∀ row ∈ rows, (row.get col).length ≤ naturalWidth rows col :=
  naturalWidth_le_iff.mp le_rfl

theorem le_scaledWidth (scale : Float) (width : Nat) : 5 ≤ scaledWidth scale width := by
  unfold scaledWidth
  omega

/-- The widths are the natural widths, or each at least 5 when they are scaled. -/
theorem columnWidths_eq_ok {rows : List DisplayRow} {columns : List (List Char)} {maxWidth : Int}
    {widths : List Nat} (computed : columnWidths rows columns maxWidth = .ok widths) :
    ∃ width : List Char → Nat, widths = columns.map width ∧
      ∀ col, width col = naturalWidth rows col ∨ 5 ≤ width col := by
  unfold columnWidths at computed
  dsimp only at computed
  split at computed
  · split at computed
    · cases computed
    · cases computed
      exact ⟨_, List.map_map _ _ _, fun col => .inr (le_scaledWidth _ _)⟩
  · cases computed
    exact ⟨naturalWidth rows, rfl, fun _ => .inl rfl⟩

/-- A table whose natural widths fit `max_width` keeps them. -/
theorem columnWidths_of_fits {rows : List DisplayRow} {columns : List (List Char)} {maxWidth : Int}
    (fits : ((columns.map (naturalWidth rows)).sum + columns.length * 3 + 1 : Int) ≤ maxWidth) :
    columnWidths rows columns maxWidth = .ok (columns.map (naturalWidth rows)) :=
  if_neg (not_lt.mpr fits)

/-! ### The cells and the lines -/

theorem length_padCell (text : List Char) (width : Nat) :
    (padCell text width).length = max width text.length + 2 := by
  simp only [padCell, List.rightpad, List.length_cons, List.length_append, List.length_replicate,
    List.length_nil]
  omega

theorem fitCell_of_le {value : List Char} {width : Nat} (fits : value.length ≤ width) :
    fitCell value width = value :=
  if_neg (Nat.not_lt.mpr fits)

/-- A fitted value is no longer than its width, when it fits or the width leaves room for the dots. -/
theorem length_fitCell_le {value : List Char} {width : Nat} (room : value.length ≤ width ∨ 3 ≤ width) :
    (fitCell value width).length ≤ width := by
  unfold fitCell
  split
  · have start : sliceIndex value.length 0 = 0 := by simp [sliceIndex]
    have stop : sliceIndex value.length ((width : Int) - 3) = width - 3 := by
      unfold sliceIndex
      split <;> omega
    simp only [PyStr.slice, start, stop, List.length_append, List.length_take, List.length_drop,
      show "...".toList.length = 3 from rfl]
    omega
  · omega

theorem length_padCell_fitCell {value : List Char} {width : Nat}
    (room : value.length ≤ width ∨ 3 ≤ width) :
    (padCell (fitCell value width) width).length = width + 2 := by
  rw [length_padCell, max_eq_left (length_fitCell_le room)]

/-- `sep.join(parts)` has the lengths of the parts and one separator fewer than the parts. -/
theorem length_join (sep : List Char) : ∀ parts : List (List Char),
    (join sep parts).length = (parts.map (·.length + sep.length)).sum - sep.length
  | [] => by simp [join, List.intercalate]
  | [part] => by simp [join_singleton]
  | first :: next :: rest => by
      rw [join_cons_cons, List.length_append, List.length_append, length_join sep (next :: rest)]
      simp only [List.map_cons, List.sum_cons]
      omega

/-- A line of cells between bars, as each line of the table is. -/
theorem length_barLine (bar : Char) (cells : List (List Char)) :
    ([bar] ++ join [bar] cells ++ [bar]).length = (cells.map (·.length + 1)).sum - 1 + 2 := by
  simp only [List.length_append, length_join, List.length_singleton]
  omega

theorem length_separatorLine (widths : List Nat) :
    (separatorLine widths).length = (widths.map (· + 3)).sum - 1 + 2 := by
  rw [separatorLine, show "+".toList = ['+'] from rfl, length_barLine, List.map_map]
  simp only [Function.comp_def, List.length_replicate]

/-- Every line of a row has the separator's length when each value fits its width or is cut. -/
theorem length_rowLine {columns : List (List Char)} {width : List Char → Nat} {row : DisplayRow}
    (room : ∀ col ∈ columns, (row.get col).length ≤ width col ∨ 3 ≤ width col) :
    (rowLine columns (columns.map width) row).length = (separatorLine (columns.map width)).length := by
  rw [rowLine, List.zipWith_map_right, List.zipWith_same, show "|".toList = ['|'] from rfl,
    length_barLine, length_separatorLine, List.map_map, List.map_map]
  congr 3
  exact List.map_congr_left fun col member => by
    simp only [Function.comp, length_padCell_fitCell (room col member)]

/-- The header is longer than the separator by what the names exceed their widths. -/
theorem length_tableHeaderLine (columns : List (List Char)) (width : List Char → Nat) :
    (tableHeaderLine columns (columns.map width)).length =
      (separatorLine (columns.map width)).length + (columns.map fun col => col.length - width col).sum := by
  rw [tableHeaderLine, List.zipWith_map_right, List.zipWith_same, show "|".toList = ['|'] from rfl,
    length_barLine, length_separatorLine, List.map_map, List.map_map]
  have cells :
      columns.map ((fun cell : List Char => cell.length + 1) ∘ fun col => padCell col (width col)) =
      columns.map fun col => (width col + 3) + (col.length - width col) :=
    List.map_congr_left fun col _ => by simp only [Function.comp, length_padCell]; omega
  rw [cells, List.sum_map_add]
  cases columns with
  | nil => rfl
  | cons col rest =>
      simp only [List.map_cons, List.sum_cons, Function.comp_def]
      omega

/-- With the widths that `_format_as_table` computes, every value fits its width or is cut, so the line
of each row has the separator's length. -/
theorem length_rowLine_of_columnWidths {rows : List DisplayRow} {maxWidth : Int} {widths : List Nat}
    (computed : columnWidths rows (tableColumns rows) maxWidth = .ok widths) {row : DisplayRow}
    (member : row ∈ rows) :
    (rowLine (tableColumns rows) widths row).length = (separatorLine widths).length := by
  obtain ⟨width, rfl, each⟩ := columnWidths_eq_ok computed
  refine length_rowLine fun col _ => ?_
  rcases each col with natural | scaled
  · exact .inl (natural ▸ (le_naturalWidth rows col).2 row member)
  · exact .inr (by omega)

/-- Below the header every line of a table has the separator's length, and the header is longer than
the separator by what the column names exceed their widths. -/
theorem columnWidths_aligned {rows : List DisplayRow} {maxWidth : Int} {widths : List Nat}
    (computed : columnWidths rows (tableColumns rows) maxWidth = .ok widths) :
    (∀ row ∈ rows, (rowLine (tableColumns rows) widths row).length = (separatorLine widths).length) ∧
      (tableHeaderLine (tableColumns rows) widths).length = (separatorLine widths).length +
        (List.zipWith (fun col width => col.length - width) (tableColumns rows) widths).sum := by
  refine ⟨fun row member => length_rowLine_of_columnWidths computed member, ?_⟩
  obtain ⟨width, rfl, -⟩ := columnWidths_eq_ok computed
  rw [length_tableHeaderLine, List.zipWith_map_right, List.zipWith_same]

/-- Two rows under the same two columns. -/
def aliceRow : DisplayRow := ⟨[("age".toList, "30".toList), ("name".toList, "Alice".toList)], by decide⟩

def bobRow : DisplayRow := ⟨[("age".toList, "25".toList), ("name".toList, "Bob".toList)], by decide⟩

def usersRows : List DisplayRow := [aliceRow, bobRow]

theorem tableColumns_usersRows : tableColumns usersRows = ["age".toList, "name".toList] :=
  (List.mergeSort_of_sorted (by decide)).trans rfl

theorem columnWidths_aligned_users :
    columnWidths usersRows (tableColumns usersRows) 80 = .ok [3, 5] ∧
      (∀ row ∈ usersRows,
        (rowLine (tableColumns usersRows) [3, 5] row).length = (separatorLine [3, 5]).length) ∧
      (tableHeaderLine (tableColumns usersRows) [3, 5]).length = (separatorLine [3, 5]).length +
        (List.zipWith (fun col width => col.length - width) (tableColumns usersRows) [3, 5]).sum :=
  have computed : columnWidths usersRows (tableColumns usersRows) 80 = .ok [3, 5] := by
    rw [tableColumns_usersRows]
    rfl
  ⟨computed, columnWidths_aligned computed⟩

/-! ### The text of the table -/

/-- The table of rows is the lines of the widths of its columns, joined by line breaks. -/
theorem formatAsTable_of_ne_nil {rows : List DisplayRow} (nonempty : rows ≠ []) (maxWidth : Int) :
    formatAsTable rows maxWidth = (columnWidths rows (tableColumns rows) maxWidth).map fun widths =>
      join "\n".toList (tableLines (tableColumns rows) widths rows) := by
  rw [formatAsTable, if_neg (by simpa using nonempty)]

theorem tableColumns_nil : tableColumns [] = [] := List.mergeSort_nil

/-- A character that is not the separator and is in no part is not in the joined text. -/
theorem not_mem_join {c : Char} {sep : List Char} (notSep : c ∉ sep) : ∀ {parts : List (List Char)},
    (∀ part ∈ parts, c ∉ part) → c ∉ join sep parts
  | [], _ => by simp [join, List.intercalate]
  | [part], absent => by rw [join_singleton]; exact absent part (List.mem_singleton_self _)
  | first :: next :: rest, absent => by
      rw [join_cons_cons]
      simp only [List.mem_append, not_or]
      exact ⟨⟨absent first (List.mem_cons_self _ _), notSep⟩,
        not_mem_join notSep fun part member => absent part (List.mem_cons_of_mem _ member)⟩

theorem not_mem_padCell {c : Char} {text : List Char} (notSpace : c ≠ ' ') (absent : c ∉ text)
    (width : Nat) : c ∉ padCell text width := by
  simp [padCell, List.rightpad, List.mem_replicate, notSpace, absent]

/-- Blanks around a stripped text strip back to it. -/
theorem strip_padCell {text : List Char} (stripped : strip text = text) (width : Nat) :
    strip (padCell text width) = text := by
  have padded :
      padCell text width = [' '] ++ text ++ (List.replicate (width - text.length) ' ' ++ [' ']) := by
    simp [padCell, List.rightpad]
  have blanks : ∀ c ∈ List.replicate (width - text.length) ' ' ++ [' '], isSpace c = true := by
    intro c member
    simp only [List.mem_append, List.mem_replicate, List.mem_singleton] at member
    rcases member with ⟨_, rfl⟩ | rfl <;> rfl
  rw [padded, strip_padded (by simp [isSpace]) blanks, stripped]

/-- A text the table reads back: no bar, no line break, and no whitespace at either end. -/
structure PlainText (text : List Char) : Prop where
  noBar : '|' ∉ text
  noBreak : '\n' ∉ text
  stripped : strip text = text

instance (text : List Char) : Decidable (PlainText text) :=
  decidable_of_iff ('|' ∉ text ∧ '\n' ∉ text ∧ strip text = text)
    ⟨fun ⟨noBar, noBreak, stripped⟩ => ⟨noBar, noBreak, stripped⟩,
      fun plain => ⟨plain.noBar, plain.noBreak, plain.stripped⟩⟩

/-- How a line of the table is read: the texts between its bars, stripped. -/
def readCells (line : List Char) : List (List Char) :=
  ((splitOn '|' line).drop 1).dropLast.map strip

/-- A line of padded plain texts between bars reads back to the texts. -/
theorem readCells_padCells {columns : List (List Char)} (present : columns ≠ [])
    {text : List Char → List Char} (plain : ∀ col ∈ columns, PlainText (text col))
    (width : List Char → Nat) :
    readCells ("|".toList ++ join "|".toList (columns.map fun col => padCell (text col) (width col)) ++
      "|".toList) = columns.map text := by
  obtain ⟨first, rest, cells⟩ :=
    List.exists_cons_of_ne_nil (List.map_eq_nil_iff.not.mpr present :
      (columns.map fun col => padCell (text col) (width col)) ≠ [])
  have noBar : ∀ cell ∈ first :: rest, '|' ∉ cell := by
    rw [← cells]
    simpa using fun col member => not_mem_padCell (by decide) (plain col member).noBar _
  have pieces : splitOn '|' ("|".toList ++ join "|".toList (first :: rest) ++ "|".toList) =
      [] :: (first :: rest ++ [[]]) := by
    rw [show "|".toList = ['|'] from rfl, List.singleton_append, List.cons_append,
      ← List.nil_append ('|' :: _), splitOn_append_sep, splitOn_append_sep, splitOn_join noBar]
    rfl
  rw [readCells, cells, pieces, List.drop_one, List.tail_cons, List.dropLast_concat, ← cells,
    List.map_map]
  exact List.map_congr_left fun col member => strip_padCell (plain col member).stripped _

/-- A character other than the bar and in no cell is not in a line of cells between bars. -/
theorem not_mem_barLine {c bar : Char} (notBar : c ≠ bar) {cells : List (List Char)}
    (absent : ∀ cell ∈ cells, c ∉ cell) : c ∉ [bar] ++ join [bar] cells ++ [bar] := by
  simp only [List.mem_append, List.mem_singleton, not_or]
  exact ⟨⟨notBar, not_mem_join (by simpa using notBar) absent⟩, notBar⟩

theorem not_mem_separatorLine {c : Char} (notPlus : c ≠ '+') (notDash : c ≠ '-') (widths : List Nat) :
    c ∉ separatorLine widths :=
  not_mem_barLine notPlus (by simp [List.mem_replicate, notDash])

theorem not_mem_padCells {c : Char} (notBar : c ≠ '|') (notSpace : c ≠ ' ')
    {columns : List (List Char)} {text : List Char → List Char}
    (absent : ∀ col ∈ columns, c ∉ text col)
    (width : List Char → Nat) :
    c ∉ "|".toList ++ join "|".toList (columns.map fun col => padCell (text col) (width col)) ++
      "|".toList :=
  not_mem_barLine notBar (by simpa using fun col member => not_mem_padCell notSpace (absent col member) _)

theorem readCells_separatorLine (widths : List Nat) : readCells (separatorLine widths) = [] := by
  rw [readCells, splitOn_of_not_mem (not_mem_separatorLine (by decide) (by decide) widths)]
  rfl

/-- A table whose natural widths fit `max_width` keeps every value whole: each of its lines has the
natural widths, and read back it gives the column names, no cells on the separator, and the values
of each row in the order of the columns. -/
theorem formatAsTable_readCells {rows : List DisplayRow} {maxWidth : Int}
    (present : tableColumns rows ≠ [])
    (fits : (((tableColumns rows).map (naturalWidth rows)).sum + (tableColumns rows).length * 3 + 1 : Int) ≤
      maxWidth)
    (plainNames : ∀ col ∈ tableColumns rows, PlainText col)
    (plainValues : ∀ row ∈ rows, ∀ col ∈ tableColumns rows, PlainText (row.get col)) :
    ∃ text, formatAsTable rows maxWidth = .ok text ∧
      (splitOn '\n' text).map readCells =
        tableColumns rows :: [] :: rows.map (fun row => (tableColumns rows).map row.get) ∧
      ∀ line ∈ splitOn '\n' text,
        line.length =
          ((tableColumns rows).map (naturalWidth rows)).sum + (tableColumns rows).length * 3 + 1 := by
  set columns := tableColumns rows
  have nonempty : rows ≠ [] := by
    rintro rfl
    exact present tableColumns_nil
  have header : tableHeaderLine columns (columns.map (naturalWidth rows)) =
      "|".toList ++ join "|".toList (columns.map fun col => padCell col (naturalWidth rows col)) ++
        "|".toList := by
    rw [tableHeaderLine, List.zipWith_map_right, List.zipWith_same]
  have rowLines (row : DisplayRow) (member : row ∈ rows) :
      rowLine columns (columns.map (naturalWidth rows)) row = "|".toList ++
        join "|".toList (columns.map fun col => padCell (row.get col) (naturalWidth rows col)) ++
          "|".toList := by
    rw [rowLine, List.zipWith_map_right, List.zipWith_same,
      List.map_congr_left fun col (_ : col ∈ columns) => congrArg (padCell · (naturalWidth rows col))
        (fitCell_of_le ((le_naturalWidth rows col).2 row member))]
  have noBreak : ∀ line ∈ tableLines columns (columns.map (naturalWidth rows)) rows, '\n' ∉ line := by
    simp only [tableLines, List.mem_cons, List.mem_map, forall_eq_or_imp, forall_exists_index, and_imp,
      forall_apply_eq_imp_iff₂]
    refine ⟨?_, not_mem_separatorLine (by decide) (by decide) _, fun row member => ?_⟩
    · rw [header]
      exact not_mem_padCells (by decide) (by decide) (fun col member => (plainNames col member).noBreak) _
    · rw [rowLines row member]
      exact not_mem_padCells (by decide) (by decide)
        (fun col found => (plainValues row member col found).noBreak) _
  have lines : splitOn '\n' (join "\n".toList (tableLines columns (columns.map (naturalWidth rows)) rows)) =
      tableLines columns (columns.map (naturalWidth rows)) rows := splitOn_join noBreak
  have separatorLength : (separatorLine (columns.map (naturalWidth rows))).length =
      (columns.map (naturalWidth rows)).sum + columns.length * 3 + 1 := by
    obtain ⟨col, rest, split⟩ := List.exists_cons_of_ne_nil present
    rw [length_separatorLine, List.map_map, Function.comp_def, List.sum_map_add, split]
    simp only [List.map_cons, List.sum_cons, List.map_const', List.sum_const_nat, List.length_cons]
    omega
  refine ⟨_, by rw [formatAsTable_of_ne_nil nonempty, columnWidths_of_fits fits]; rfl, ?_, ?_⟩
  · rw [lines, tableLines, List.map_cons, List.map_cons, List.map_map, header,
      readCells_padCells present plainNames, List.map_id', readCells_separatorLine]
    exact congrArg (columns :: [] :: ·) (List.map_congr_left fun row member => by
      rw [Function.comp, rowLines row member, readCells_padCells present (plainValues row member)])
  · rw [lines, ← separatorLength]
    simp only [tableLines, List.mem_cons, List.mem_map]
    rintro line (rfl | rfl | ⟨row, member, rfl⟩)
    · have named : (columns.map fun col => col.length - naturalWidth rows col).sum = 0 :=
        List.sum_eq_zero fun excess found => by
          obtain ⟨col, _, rfl⟩ := List.mem_map.mp found
          exact Nat.sub_eq_zero_of_le (le_naturalWidth rows col).1
      rw [length_tableHeaderLine, named, Nat.add_zero]
    · rfl
    · exact length_rowLine fun col _ => .inl ((le_naturalWidth rows col).2 row member)

theorem formatAsTable_readCells_users :
    ∃ text, formatAsTable usersRows 80 = .ok text ∧
      (splitOn '\n' text).map readCells =
        tableColumns usersRows :: [] :: usersRows.map (fun row => (tableColumns usersRows).map row.get) ∧
      ∀ line ∈ splitOn '\n' text, line.length =
        ((tableColumns usersRows).map (naturalWidth usersRows)).sum +
          (tableColumns usersRows).length * 3 + 1 :=
  formatAsTable_readCells (by rw [tableColumns_usersRows]; decide) (by rw [tableColumns_usersRows]; decide)
    (by rw [tableColumns_usersRows]; decide) (by rw [tableColumns_usersRows]; decide)

/-- Scaled widths of 5 at least give lines of 8 characters a column at least. -/
theorem length_separatorLine_of_five {widths : List Nat} (five : ∀ width ∈ widths, 5 ≤ width) :
    8 * widths.length + 1 ≤ (separatorLine widths).length := by
  suffices eight : 8 * widths.length ≤ (widths.map (· + 3)).sum by
    rw [length_separatorLine]
    omega
  induction widths with
  | nil => simp
  | cons width rest ih =>
      have first := five width (List.mem_cons_self _ _)
      have later := ih fun other member => five other (List.mem_cons_of_mem _ member)
      simp only [List.map_cons, List.sum_cons, List.length_cons]
      omega

/-- The widths fail only with the `ZeroDivisionError` of empty columns whose bars do not fit. -/
theorem columnWidths_eq_error {rows : List DisplayRow} {columns : List (List Char)} {maxWidth : Int}
    {error : PyException} :
    columnWidths rows columns maxWidth = .error error ↔
      (columns.map (naturalWidth rows)).sum = 0 ∧ maxWidth < columns.length * 3 + 1 ∧
        error = .zeroDivision := by
  unfold columnWidths
  dsimp only
  split
  · rename_i wide
    split
    · rename_i zero
      rw [zero] at wide
      constructor
      · rintro ⟨⟩
        exact ⟨zero, by omega, rfl⟩
      · rintro ⟨-, -, rfl⟩
        rfl
    · rename_i nonzero
      exact iff_of_false (fun failed => nomatch failed) fun ⟨zero, _⟩ => nonzero zero
  · rename_i fits
    exact iff_of_false (fun failed => nomatch failed) fun ⟨zero, narrow, _⟩ =>
      fits (by rw [zero]; omega)

theorem naturalWidth_eq_zero {rows : List DisplayRow} {col : List Char} :
    naturalWidth rows col = 0 ↔ col = [] ∧ ∀ row ∈ rows, row.get col = [] := by
  rw [← Nat.le_zero, naturalWidth_le_iff]
  simp only [Nat.le_zero, List.length_eq_zero]

theorem splitOn_join_of_ne_nil {sep : Char} {parts : List (List Char)} (nonempty : parts ≠ [])
    (absent : ∀ part ∈ parts, sep ∉ part) : splitOn sep (join [sep] parts) = parts := by
  obtain ⟨first, rest, rfl⟩ := List.exists_cons_of_ne_nil nonempty
  exact splitOn_join absent

/-- The CSV text reads back, split on line breaks and then on commas, to the keys of the first row
and the value of every row under each of those keys, when no key or value holds a comma or a line
break: a key the first row lacks is dropped, and a row without a key reads back empty there. -/
theorem formatAsCsv_readBack {first : DisplayRow} {rest : List DisplayRow} (keyed : first.keys ≠ [])
    (plainKeys : ∀ key ∈ first.keys, ',' ∉ key ∧ '\n' ∉ key)
    (plainValues :
      ∀ row ∈ first :: rest, ∀ key ∈ first.keys, ',' ∉ row.get key ∧ '\n' ∉ row.get key) :
    (splitOn '\n' (formatAsCsv (first :: rest))).map (splitOn ',') =
      first.keys :: (first :: rest).map fun row => first.keys.map row.get := by
  have fields : ∀ row ∈ first :: rest,
      '\n' ∉ join ",".toList (first.keys.map row.get) ∧
        splitOn ',' (join ",".toList (first.keys.map row.get)) = first.keys.map row.get := by
    intro row member
    have plain : ∀ value ∈ first.keys.map row.get, ',' ∉ value ∧ '\n' ∉ value := by
      simpa using plainValues row member
    exact ⟨not_mem_join (by decide) fun value found => (plain value found).2,
      splitOn_join_of_ne_nil (by simpa using keyed) fun value found => (plain value found).1⟩
  have header : '\n' ∉ join ",".toList first.keys :=
    not_mem_join (by decide) fun key member => (plainKeys key member).2
  have lines : splitOn '\n' (formatAsCsv (first :: rest)) =
      join ",".toList first.keys ::
        (first :: rest).map fun row => join ",".toList (first.keys.map row.get) := by
    refine splitOn_join fun line found => ?_
    rcases List.mem_cons.mp found with rfl | found
    · exact header
    · obtain ⟨row, member, rfl⟩ := List.mem_map.mp found
      exact (fields row member).1
  rw [lines, List.map_cons, List.map_map, show ",".toList = [','] from rfl,
    splitOn_join_of_ne_nil keyed fun key member => (plainKeys key member).1]
  exact congrArg (first.keys :: ·) (List.map_congr_left fun row member => (fields row member).2)

theorem formatAsCsv_readBack_users :
    (splitOn '\n' (formatAsCsv [aliceRow, bobRow])).map (splitOn ',') =
      aliceRow.keys :: [aliceRow, bobRow].map fun row => aliceRow.keys.map row.get :=
  @formatAsCsv_readBack aliceRow [bobRow] (by decide) (by decide) (by decide)


/-! ### The dispatch -/

theorem limitRows_nil (maxRows : Option Int) : limitRows [] maxRows = [] := by
  cases maxRows <;> simp [limitRows]

/-- `results[:max_rows]` empties a non-empty list only for a negative bound that reaches back past
the first row. -/
theorem limitRows_eq_nil {results : List DisplayRow} (nonempty : results ≠ []) (maxRows : Option Int) :
    limitRows results maxRows = [] ↔ ∃ count, maxRows = some count ∧ count ≤ -results.length := by
  have positive : 0 < results.length := List.length_pos.mpr nonempty
  cases maxRows with
  | none => simp [limitRows, nonempty]
  | some count =>
      simp only [limitRows, Option.some.injEq, exists_eq_left']
      split_ifs with nonzero
      · rw [List.take_eq_nil_iff, sliceIndex]
        split_ifs <;> simp [nonempty] <;> omega
      · simp only [nonempty, false_iff]
        omega

/-- For a non-empty list of results, `format_query_results` formats the rows that `max_rows` keeps
in the format it names. -/
theorem formatQueryResults_of_ne_nil (jsonDumps : List DisplayRow → List Char)
    {results : List DisplayRow} (nonempty : results ≠ []) (formatType : List Char)
    (maxRows : Option Int) (maxWidth : Int) :
    formatQueryResults jsonDumps results formatType maxRows maxWidth =
      if formatType = "json".toList then .ok (jsonDumps (limitRows results maxRows))
      else if formatType = "csv".toList then .ok (formatAsCsv (limitRows results maxRows))
      else if formatType = "table".toList then formatAsTable (limitRows results maxRows) maxWidth
      else .error (.valueError ("Unsupported format type: " ++ String.mk formatType)) := by
  rw [formatQueryResults, if_neg (by simpa using nonempty)]

/-- A table of rows starts with a bar, so it never reads that no results were found. -/
theorem formatAsTable_eq_noResults (rows : List DisplayRow) (maxWidth : Int) :
    formatAsTable rows maxWidth = .ok "No results found.".toList ↔ rows = [] := by
  refine ⟨fun answered => ?_, fun empty => empty ▸ rfl⟩
  by_contra nonempty
  rw [formatAsTable_of_ne_nil nonempty] at answered
  cases widths : columnWidths rows (tableColumns rows) maxWidth with
  | error e => simp [widths, Except.map] at answered
  | ok widths =>
      simp only [widths, Except.map, Except.ok.injEq] at answered
      have first := congrArg List.head? answered
      rw [tableLines, head?_join _ (by simp [tableHeaderLine])] at first
      simp [tableHeaderLine] at first

theorem formatAsCsv_eq_nil (rows : List DisplayRow) : formatAsCsv rows = [] ↔ rows = [] := by
  cases rows with
  | nil => simp [formatAsCsv]
  | cons first rest => simp [formatAsCsv, join_cons_cons]

/-- On a non-empty list of results, a `max_rows` that reaches back past the first row leaves no row:
the table format then answers that no results were found, and the CSV format the empty text. No
other `max_rows` gives these answers. -/
theorem formatQueryResults_noRowsLeft (jsonDumps : List DisplayRow → List Char)
    {results : List DisplayRow} (nonempty : results ≠ []) (maxRows : Option Int) (maxWidth : Int) :
    (formatQueryResults jsonDumps results "table".toList maxRows maxWidth =
        .ok "No results found.".toList ↔ ∃ count, maxRows = some count ∧ count ≤ -results.length) ∧
      (formatQueryResults jsonDumps results "csv".toList maxRows maxWidth = .ok [] ↔
        ∃ count, maxRows = some count ∧ count ≤ -results.length) := by
  rw [← limitRows_eq_nil nonempty, formatQueryResults_of_ne_nil jsonDumps nonempty,
    formatQueryResults_of_ne_nil jsonDumps nonempty]
  refine ⟨?_, ?_⟩
  · rw [if_neg (by decide), if_neg (by decide), if_pos rfl, formatAsTable_eq_noResults]
  · rw [if_neg (by decide), if_pos rfl, Except.ok.injEq, formatAsCsv_eq_nil]

theorem formatQueryResults_noRowsLeft_alice :
    formatQueryResults (fun _ => []) [aliceRow] "table".toList (some (-1)) 80 =
        .ok "No results found.".toList ∧
      formatQueryResults (fun _ => []) [aliceRow] "csv".toList (some (-1)) 80 = .ok [] :=
  have noRowsLeft := formatQueryResults_noRowsLeft (fun _ => []) (List.cons_ne_nil aliceRow [])
    (some (-1)) 80
  ⟨noRowsLeft.1.mpr ⟨-1, rfl, by decide⟩, noRowsLeft.2.mpr ⟨-1, rfl, by decide⟩⟩

end Cqlite.Utils
