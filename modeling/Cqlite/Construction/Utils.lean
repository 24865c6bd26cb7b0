import Cqlite.Construction.PyString

/-!
`create_schema_from_cql` of `cqlite/utils.py`: the simplified parser that reads a keyspace and a
table from the first `CREATE TABLE` line and one column from each line after the first `(`, until a
line with `)`.
-/

namespace Cqlite.Utils

open PyStr

/-- One entry of the `columns` list. -/
structure Column where
  name : List Char
  cqlType : List Char
  pythonType : List Char
  nullable : Bool
  isPartitionKey : Bool
  isClusteringKey : Bool
  deriving DecidableEq, Repr

/-- The dictionary that `create_schema_from_cql` returns. -/
structure Schema where
  keyspace : List Char
  table : List Char
  columns : List Column
  partitionKeys : List (List Char)
  clusteringKeys : List (List Char)
  deriving DecidableEq, Repr

/-- The keyspace and table read from the upper-cased `CREATE TABLE` line: `parts[2]`, split at its
first `.` as `table_part.split(".", 1)` does, each part stripped of `(`. -/
def tableNamesOf (line : List Char) : List Char × List Char :=
  match split line with
  | _ :: _ :: tablePart :: _ =>
      if '.' ∈ tablePart then
        (stripChars ['('] (tablePart.takeWhile (· ≠ '.')),
          stripChars ['('] ((tablePart.dropWhile (· ≠ '.')).drop 1))
      else ("unknown".toList, stripChars ['('] tablePart)
  | _ => ("unknown".toList, "unknown".toList)

/-- The column of a definition line, `parts[0]` and `parts[1]` stripped of `,`. -/
def columnOf (colName colType : List Char) : Column :=
  ⟨stripChars [','] colName, stripChars [','] colType, "str".toList, true, false, false⟩

/-- The column loop of `create_schema_from_cql` from the remaining lines; `inColumns` is
`in_columns`, and the first line with `)` after the opening one ends the loop. -/
def columnLines : Bool → List (List Char) → List Column
  | _, [] => []
  | inColumns, line :: rest =>
      if '(' ∈ strip line ∧ !inColumns then columnLines true rest
      else if inColumns ∧ ')' ∈ strip line then []
      else if inColumns ∧ strip line ≠ [] ∧ !startsWith (strip line) "PRIMARY KEY".toList then
        match split (strip line) with
        | colName :: colType :: _ => columnOf colName colType :: columnLines inColumns rest
        | _ => columnLines inColumns rest
      else columnLines inColumns rest

/-- This is `create_schema_from_cql`. -/
def createSchemaFromCql (cqlStatement : List Char) : Schema :=
  let lines := splitOn '\n' (strip cqlStatement)
  let names :=
    match (lines.map fun line => upper (strip line)).find? fun line =>
        startsWith line "CREATE TABLE".toList with
    | some line => tableNamesOf line
    | none => ("unknown".toList, "unknown".toList)
  ⟨names.1, names.2, columnLines false lines, [], []⟩

end Cqlite.Utils
