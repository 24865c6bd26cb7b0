import Cqlite.Construction.PyString

/-!
The statements that `SSTableReader._build_column_query` and `query_columns` of `cqlite/reader.py`
build from a column list, and what `_extract_columns_from_query` and `optimize_query` of
`cqlite/utils.py` and `SSTableReader.validate_query` read from a statement's text.
-/

namespace Cqlite.Query

open PyStr

/-- The ` WHERE` and ` LIMIT` clauses of `_build_column_query`: `where` is a `str` or `None` and
`limit` an `int` or `None`, and `if where` and `if limit` skip an empty clause and a zero limit. -/
def queryClauses (whereClause : Option (List Char)) (limit : Option Int) : List Char :=
  (match whereClause with
    | some text => if text = [] then [] else " WHERE ".toList ++ text
    | none => []) ++
  (match limit with
    | some count => if count = 0 then [] else " LIMIT ".toList ++ (toString count).toList
    | none => [])

/-- This is `SSTableReader._build_column_query`. -/
def buildColumnQuery (tableName : List Char) (columns : List (List Char))
    (whereClause : Option (List Char)) (limit : Option Int) : List Char :=
  "SELECT ".toList ++ join ", ".toList (if columns = [] then ["*".toList] else columns) ++
    " FROM ".toList ++ tableName ++ queryClauses whereClause limit

/-- The statement that `query_columns` runs, which it builds as `_build_column_query` does. -/
def queryColumns (tableName : List Char) (columns : List (List Char))
    (whereClause : Option (List Char)) (limit : Option Int) : List Char :=
  buildColumnQuery tableName columns whereClause limit

/-- The body of the loop of `_extract_columns_from_query`: one entry of the select list, with an
alias after ` AS ` and anything after a space dropped. -/
def cleanColumn (col : List Char) : List Char :=
  let col := strip col
  let col := if containsText (upper col) " AS ".toList then strip (splitHead " AS ".toList col) else col
  if ' ' ∈ col then strip ((split col).headD []) else col

/-- This is `_extract_columns_from_query`. The positions are found in the stripped, upper-cased
statement and the select list is sliced from the statement as given. -/
def extractColumnsFromQuery (sql : List Char) : List (List Char) :=
  let sqlUpper := upper (strip sql)
  if !startsWith sqlUpper "SELECT".toList then []
  else
    let selectPos := findText sqlUpper "SELECT".toList + 6
    let fromPos := findText sqlUpper " FROM ".toList
    if fromPos = -1 then []
    else
      let columnsPart := strip (slice sql selectPos fromPos)
      if columnsPart = "*".toList then ["*".toList]
      else (splitOn ',' columnsPart).map cleanColumn

/-- What `optimize_query` returns. -/
structure QueryOptimization where
  originalQuery : List Char
  suggestions : List String
  issues : List String
  optimized : Bool

/-- The issue that `optimize_query` reports for a selected column it does not know. -/
def unknownColumnIssue (col : List Char) : String :=
  "Column '" ++ String.mk col ++ "' may not exist in the table"

/-- This is `optimize_query`. -/
def optimizeQuery (sql : List Char) (availableColumns : List (List Char)) : QueryOptimization :=
  let sqlUpper := upper (strip sql)
  let suggestions :=
    (if containsText sqlUpper "SELECT *".toList then
      ["Consider selecting specific columns instead of * for better performance"] else []) ++
    (if containsText sqlUpper "LIMIT".toList then [] else
      ["Consider adding LIMIT clause for large tables"]) ++
    (if ["LIKE".toList, "CONTAINS".toList].any (containsText sqlUpper) then
      ["String matching operations may be slow on large datasets"] else []) ++
    ["Use partition key columns in WHERE clause for best performance"]
  let issues := (extractColumnsFromQuery sql).filterMap fun col =>
    if col ≠ "*".toList ∧ lower col ∉ availableColumns.map lower then some (unknownColumnIssue col)
    else none
  ⟨sql, suggestions, issues, issues.length = 0⟩

/-- What `validate_query` returns; it never adds a warning, and nothing in its `try` raises. -/
structure QueryValidation where
  valid : Bool
  errors : List String
  warnings : List String

/-- This is `SSTableReader.validate_query`. -/
def validateQuery (sql : List Char) : QueryValidation :=
  let sqlUpper := upper (strip sql)
  let errors :=
    (if startsWith sqlUpper "SELECT".toList then [] else ["Only SELECT statements are supported"]) ++
    (if containsText sqlUpper "DELETE".toList || containsText sqlUpper "INSERT".toList ||
        containsText sqlUpper "UPDATE".toList then
      ["Only read-only SELECT operations are allowed"] else [])
  ⟨errors.length = 0, errors, []⟩

end Cqlite.Query
