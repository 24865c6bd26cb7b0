import Cqlite.Construction.Query
import Cqlite.Construction.PyValue

/-!
The Python layer of `SSTableReader` in `cqlite/reader.py`. It keeps the path it was opened on and
the caches of the `schema` and `stats` properties, and calls the native reader of the Rust core for
everything else. The native reader is given by its answers, where the `n`-th call of a method may
answer otherwise than the calls before it; a session records every native call it makes.
-/

namespace Cqlite.Reader

open PyStr

/-- A result row: a dict from column names to values, in insertion order. -/
abbrev Row := List (List Char × PyValue)

/-- An entry of the `columns` list of the schema dict, with the two keys the reader reads. -/
structure ColumnEntry where
  name : Option (List Char)
  cqlType : Option (List Char)
  deriving DecidableEq, Repr

/-- The schema dict of the native `get_schema`, with the keys the reader reads; any of them may be
absent. -/
structure SchemaDict where
  columns : Option (List ColumnEntry)
  partitionKeys : Option (List (List Char))
  clusteringKeys : Option (List (List Char))
  deriving DecidableEq, Repr

/-- A call of the Python layer to the native reader. -/
inductive NativeCall where
  | getTableName
  | getSchema
  | getStats
  | query (sql : List Char) (limit : Option Int)
  deriving DecidableEq, Repr

/-- The calls of the native `query`, whatever their arguments. -/
def NativeCall.isQuery : NativeCall → Bool
  | .query _ _ => true
  | _ => false

/-- The calls whose answers the Python layer does not cache. -/
def NativeCall.uncached : NativeCall → Bool
  | .getSchema | .getStats => false
  | _ => true

/-- The answers of the native reader: each method answers its `n`-th call, counted from `0`. -/
structure Native (Stats : Type) where
  getTableName : Nat → List Char
  getSchema : Nat → SchemaDict
  getStats : Nat → Stats
  query : Nat → List Char → Option Int → List Row

/-- The Python attributes `_sstable_path`, `_schema_cache` and `_stats_cache` of a reader, and the
native calls made so far, oldest first. -/
structure Session (Stats : Type) where
  sstablePath : List Char
  schemaCache : Option SchemaDict
  statsCache : Option Stats
  calls : List NativeCall

/-- The methods of the reader: each reads and updates the session. -/
abbrev SessionM (Stats : Type) := StateM (Session Stats)

variable {Stats : Type}

/-- A reader as `__init__` leaves it: both caches empty, and no native call yet. -/
def Session.opened (sstablePath : List Char) : Session Stats := ⟨sstablePath, none, none, []⟩

/-- The session after one more native call. -/
def Session.record (session : Session Stats) (call : NativeCall) : Session Stats :=
  { session with calls := session.calls ++ [call] }

/-! ### The native calls and the cached properties -/

section Methods

variable (native : Native Stats)

/-- This is the `sstable_path` property. -/
def sstablePath : SessionM Stats (List Char) := fun session => (session.sstablePath, session)

/-- This is the `table_name` property, which calls `get_table_name()` on every read. -/
def tableName : SessionM Stats (List Char) := fun session =>
  (native.getTableName (session.calls.count .getTableName), session.record .getTableName)

/-- A property cached in an attribute: the answer of the native method on the first read, which
`fill` stores, and the attribute on every read after it. -/
def cachedProperty {α : Type} (cache : Session Stats → Option α)
    (fill : Session Stats → α → Session Stats) (call : NativeCall) (fetch : Nat → α) :
    SessionM Stats α := fun session =>
  match cache session with
  | some cached => (cached, session)
  | none =>
      let fetched := fetch (session.calls.count call)
      (fetched, fill (session.record call) fetched)

/-- This is the `schema` property: `get_schema()` on the first read, `_schema_cache` after it. -/
def schema : SessionM Stats SchemaDict :=
  cachedProperty (·.schemaCache) (fun session read => { session with schemaCache := some read })
    .getSchema native.getSchema

/-- This is the `stats` property: `get_stats()` on the first read, `_stats_cache` after it. -/
def stats : SessionM Stats Stats :=
  cachedProperty (·.statsCache) (fun session read => { session with statsCache := some read })
    .getStats native.getStats

/-- This is the native `query(sql, limit)`. -/
def query (sql : List Char) (limit : Option Int) : SessionM Stats (List Row) := fun session =>
  (native.query (session.calls.countP NativeCall.isQuery) sql limit,
    session.record (.query sql limit))

/-! ### The query methods -/

/-- This is `query_one`: the first row of the query with `limit=1`, or `None`. -/
def queryOne (sql : List Char) : SessionM Stats (Option Row) := do
  let results ← query native sql (some 1)
  return results.head?

/-- The statement that `query_count` runs first: for a statement that starts with `SELECT` and
holds ` FROM `, `SELECT COUNT(*) FROM` and what follows its first ` FROM `. -/
def countStatement? (sql : List Char) : Option (List Char) :=
  if startsWith (upper (strip sql)) "SELECT".toList then
    (indexOfText? " FROM ".toList sql).map fun index =>
      "SELECT COUNT(*) FROM ".toList ++ sql.drop (index + 6)
  else none

/-- The first half of `query_count`: the `count` entry of the first row of the count statement,
where there is one. A row with a `count` entry is not empty, so `result and 'count' in result` is
the lookup of `count`. -/
def countEntry? (sql : List Char) : SessionM Stats (Option PyValue) :=
  match countStatement? sql with
  | some countSql => do
      let result ← queryOne native countSql
      return result.bind fun row => row.lookup "count".toList
  | none => pure none

/-- This is `query_count`: the `count` entry of the count statement, and otherwise the number of
rows of the statement itself. -/
def queryCount (sql : List Char) : SessionM Stats PyValue := do
  match ← countEntry? native sql with
  | some count => pure count
  | none => do
      let results ← query native sql none
      return .int results.length

/-- This is `query_exists`. -/
def queryExists (sql : List Char) : SessionM Stats Bool := do
  let results ← query native sql (some 1)
  return decide (results.length > 0)

/-- This is `query_columns`: the statement of `Query.queryColumns` on the table name it reads. -/
def queryColumns (columns : List (List Char)) (whereClause : Option (List Char))
    (limit : Option Int) : SessionM Stats (List Row) := do
  let name ← tableName native
  query native (Query.queryColumns name columns whereClause limit) none

/-- The statement of `sample`. -/
def sampleStatement (tableName : List Char) (n : Int) : List Char :=
  "SELECT * FROM ".toList ++ tableName ++ " LIMIT ".toList ++ (toString n).toList

/-- This is `sample`. -/
def sample (n : Int) : SessionM Stats (List Row) := do
  let name ← tableName native
  query native (sampleStatement name n) none

/-- This is `head`, which returns `sample(n)`. -/
def head (n : Int) : SessionM Stats (List Row) := sample native n

/-- What `describe` returns. -/
structure Description (Stats : Type) where
  tableName : List Char
  filePath : List Char
  schema : SchemaDict
  stats : Stats
  sampleData : List Row

/-- This is `describe`, which reads its entries in the order of its dict literal. -/
def describe : SessionM Stats (Description Stats) := do
  let name ← tableName native
  let path ← sstablePath
  let read ← schema native
  let counts ← stats native
  let sampled ← sample native 3
  return ⟨name, path, read, counts, sampled⟩

/-! ### The schema methods -/

/-- This is `col["name"]`, which raises `KeyError` on an entry without a name. -/
def ColumnEntry.subscriptName (col : ColumnEntry) : Except PyException (List Char) :=
  match col.name with
  | some name => .ok name
  | none => .error (.keyError "name")

/-- What `get_column_names` returns for a schema dict. -/
def columnNames (schema : SchemaDict) : Except PyException (List (List Char)) :=
  match schema.columns with
  | some columns => columns.mapM ColumnEntry.subscriptName
  | none => .ok []

/-- The loop of `get_column_type`: the `cql_type` of the first entry with the name, or `None`. -/
def findColumnType (columnName : List Char) :
    List ColumnEntry → Except PyException (Option (List Char))
  | [] => .ok none
  | col :: rest =>
      match col.name with
      | some name => if name = columnName then .ok col.cqlType else findColumnType columnName rest
      | none => .error (.keyError "name")

/-- What `get_column_type` returns for a schema dict. -/
def columnType (schema : SchemaDict) (columnName : List Char) :
    Except PyException (Option (List Char)) :=
  match schema.columns with
  | some columns => findColumnType columnName columns
  | none => .ok none

/-- This is `get_column_names`. -/
def getColumnNames : SessionM Stats (Except PyException (List (List Char))) :=
  columnNames <$> schema native

/-- This is `get_partition_keys`, which reads `schema.get("partition_keys", [])`. -/
def getPartitionKeys : SessionM Stats (List (List Char)) :=
  (fun read => read.partitionKeys.getD []) <$> schema native

/-- This is `get_clustering_keys`, which reads `schema.get("clustering_keys", [])`. -/
def getClusteringKeys : SessionM Stats (List (List Char)) :=
  (fun read => read.clusteringKeys.getD []) <$> schema native

/-- This is `get_column_type`. -/
def getColumnType (columnName : List Char) : SessionM Stats (Except PyException (Option (List Char))) :=
  (columnType · columnName) <$> schema native

end Methods

/-! ### Runs of requests -/

/-- A call of a public method or property of the reader. -/
inductive Request where
  | sstablePath
  | tableName
  | schema
  | stats
  | queryOne (sql : List Char)
  | queryCount (sql : List Char)
  | queryExists (sql : List Char)
  | queryColumns (columns : List (List Char)) (whereClause : Option (List Char)) (limit : Option Int)
  | sample (n : Int)
  | head (n : Int)
  | describe
  | getColumnNames
  | getPartitionKeys
  | getClusteringKeys
  | getColumnType (columnName : List Char)
  | validateQuery (sql : List Char)

/-- What a method or property returns. -/
inductive Response (Stats : Type) where
  | text (value : List Char)
  | schema (value : SchemaDict)
  | stats (value : Stats)
  | row (value : Option Row)
  | value (value : PyValue)
  | flag (value : Bool)
  | rows (value : List Row)
  | description (value : Description Stats)
  | keys (value : List (List Char))
  | names (value : Except PyException (List (List Char)))
  | columnType (value : Except PyException (Option (List Char)))
  | validation (value : Query.QueryValidation)

/-- One request to the reader. -/
def step (native : Native Stats) : Request → SessionM Stats (Response Stats)
  | .sstablePath => .text <$> sstablePath
  | .tableName => .text <$> tableName native
  | .schema => .schema <$> schema native
  | .stats => .stats <$> stats native
  | .queryOne sql => .row <$> queryOne native sql
  | .queryCount sql => .value <$> queryCount native sql
  | .queryExists sql => .flag <$> queryExists native sql
  | .queryColumns columns whereClause limit => .rows <$> queryColumns native columns whereClause limit
  | .sample n => .rows <$> sample native n
  | .head n => .rows <$> head native n
  | .describe => .description <$> describe native
  | .getColumnNames => .names <$> getColumnNames native
  | .getPartitionKeys => .keys <$> getPartitionKeys native
  | .getClusteringKeys => .keys <$> getClusteringKeys native
  | .getColumnType columnName => .columnType <$> getColumnType native columnName
  | .validateQuery sql => pure (.validation (Query.validateQuery sql))

/-- A run of requests, answered in order. -/
def run (native : Native Stats) (requests : List Request) : SessionM Stats (List (Response Stats)) :=
  requests.mapM (step native)

end Cqlite.Reader
