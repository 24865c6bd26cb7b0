import Cqlite.Construction.PyString
import Cqlite.Construction.PyException
import Mathlib.Data.List.Lex
import Mathlib.Data.Char
import Mathlib.Algebra.Order.Ring.Nat

/-!
`format_query_results` and `_format_as_table` of `cqlite/utils.py`: the CSV text and the ASCII table
of query results. A row holds the `str` of each of its values under the column name.
-/

namespace Cqlite.Utils

open PyStr

/-- A result row as the formatters read it: the `str` of each value under its column name, in
insertion order, each name once as in a dict. -/
structure DisplayRow where
  entries : List (List Char × List Char)
  distinct : (entries.map Prod.fst).Nodup

/-- This is `row.keys()`. -/
def DisplayRow.keys (row : DisplayRow) : List (List Char) := row.entries.map Prod.fst

/-- This is `str(row.get(col, ""))`. -/
def DisplayRow.get (row : DisplayRow) (col : List Char) : List Char :=
  (row.entries.lookup col).getD []

/-! ### The table -/

/-- The columns of `_format_as_table`: every key of every row, once, sorted. -/
def tableColumns (rows : List DisplayRow) : List (List Char) :=
  (rows.map DisplayRow.keys).flatten.eraseDups.mergeSort fun a b => decide (a ≤ b)

/-- `col_widths[col]` before scaling: the longest of the name and the values of the column. -/
def naturalWidth (rows : List DisplayRow) (col : List Char) : Nat :=
  rows.foldl (fun width row => max width (row.get col).length) col.length

/-- This is `int(x)` of a float, which truncates toward zero; `toUInt64` is exact below `2 ^ 64`,
and `max(5, ...)` reads nothing of a larger negative value. -/
def truncate (x : Float) : Int :=
  if x < 0 then -((-x).toUInt64.toNat : Int) else (x.toUInt64.toNat : Int)

/-- A width scaled down: `max(5, int(width * scale_factor))`. -/
def scaledWidth (scaleFactor : Float) (width : Nat) : Nat :=
  (max 5 (truncate (Float.ofNat width * scaleFactor))).toNat

/-- The widths of the columns: the natural widths, or, when the table would be wider than
`max_width`, each scaled by `(max_width - 3 n - 1) / sum` and kept at 5 at least, where the division
raises `ZeroDivisionError` on a zero sum. -/
def columnWidths (rows : List DisplayRow) (columns : List (List Char)) (maxWidth : Int) :
    Except PyException (List Nat) :=
  let widths := columns.map (naturalWidth rows)
  if (widths.sum + columns.length * 3 + 1 : Int) > maxWidth then
    if widths.sum = 0 then .error .zeroDivision
    else
      let availableWidth : Int := maxWidth - columns.length * 3 - 1
      .ok (widths.map (scaledWidth (Float.ofInt availableWidth / Float.ofNat widths.sum)))
  else .ok widths

/-- `f" {text:<{width}} "`: the text left-aligned in the width between two spaces; a longer text is
kept whole. -/
def padCell (text : List Char) (width : Nat) : List Char :=
  ' ' :: List.rightpad width ' ' text ++ [' ']

/-- The text of a value in its column: `value_str[:width-3] + "..."` when it is longer than the
width. -/
def fitCell (value : List Char) (width : Nat) : List Char :=
  if value.length > width then slice value 0 ((width : Int) - 3) ++ "...".toList else value

/-- The `header_line`: each column name in its width. -/
def tableHeaderLine (columns : List (List Char)) (widths : List Nat) : List Char :=
  "|".toList ++ join "|".toList (List.zipWith padCell columns widths) ++ "|".toList

/-- The separator line: `width + 2` dashes for each column. -/
def separatorLine (widths : List Nat) : List Char :=
  "+".toList ++ join "+".toList (widths.map fun width => List.replicate (width + 2) '-') ++ "+".toList

/-- The line of a row: each value fitted to its column's width. -/
def rowLine (columns : List (List Char)) (widths : List Nat) (row : DisplayRow) : List Char :=
  "|".toList ++
    join "|".toList (List.zipWith (fun col width => padCell (fitCell (row.get col) width) width)
      columns widths) ++ "|".toList

/-- The lines of the table: the header, the separator and one line per row. -/
def tableLines (columns : List (List Char)) (widths : List Nat) (rows : List DisplayRow) :
    List (List Char) :=
  tableHeaderLine columns widths :: separatorLine widths :: rows.map (rowLine columns widths)

/-- This is `_format_as_table`. -/
def formatAsTable (rows : List DisplayRow) (maxWidth : Int) : Except PyException (List Char) :=
  if rows.isEmpty then .ok "No results found.".toList
  else
    let columns := tableColumns rows
    (columnWidths rows columns maxWidth).map fun widths =>
      join "\n".toList (tableLines columns widths rows)

/-! ### The CSV text and the dispatch -/

/-- The CSV text of `format_query_results`: the keys of the first row, then the values of every row
under those keys. -/
def formatAsCsv : List DisplayRow → List Char
  | [] => []
  | first :: rest =>
      join "\n".toList (join ",".toList first.keys ::
        (first :: rest).map fun row => join ",".toList (first.keys.map row.get))

/-- The rows that `format_query_results` formats: `results[:max_rows]`, the rows up to the clamped
stop, where `if max_rows` skips `None` and `0`. -/
def limitRows (results : List DisplayRow) : Option Int → List DisplayRow
  | some count => if count ≠ 0 then results.take (sliceIndex results.length count) else results
  | none => results

/-- This is `format_query_results(results, format_type, max_rows, max_width)`, whose defaults are
`"table"`, `None` and `80`; `json.dumps` of the rows is given by `jsonDumps`. -/
def formatQueryResults (jsonDumps : List DisplayRow → List Char) (results : List DisplayRow)
    (formatType : List Char) (maxRows : Option Int) (maxWidth : Int) : Except PyException (List Char) :=
  if results.isEmpty then .ok "No results found.".toList
  else
    let results := limitRows results maxRows
    if formatType = "json".toList then .ok (jsonDumps results)
    else if formatType = "csv".toList then .ok (formatAsCsv results)
    else if formatType = "table".toList then formatAsTable results maxWidth
    else .error (.valueError ("Unsupported format type: " ++ String.mk formatType))

end Cqlite.Utils
