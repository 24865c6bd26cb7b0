import Cqlite.Construction.Reader

/-!
The query methods of `AsyncSSTableReader` in `cqlite/async_support.py` that build their own
statements: `count`, `exists` and `sample`. Each awaits `query`, which runs the statement on the
executor of the Rust core, with no row limit; the executor is given by the rows it returns for each
statement, and a query that times out raises before any of them returns.
-/

namespace Cqlite.Async

open PyStr Reader

/-- This is `count`: the `count` entry of the first row of the count statement, where there is one,
and otherwise the number of rows of the statement itself. -/
def count (execute : List Char → List Row) (sql : List Char) : PyValue :=
  match (countStatement? sql).bind fun countSql =>
      (execute countSql).head?.bind fun row => row.lookup "count".toList with
  | some count => count
  | none => .int (execute sql).length

/-- The statement of `exists`: `f"{sql} LIMIT 1"`. -/
def existsStatement (sql : List Char) : List Char := sql ++ " LIMIT 1".toList

/-- This is `exists`. -/
def exists' (execute : List Char → List Row) (sql : List Char) : Bool :=
  decide ((execute (existsStatement sql)).length > 0)

/-- The statement of `sample`: `f"SELECT * FROM table LIMIT {n}"`. -/
def sampleStatement (n : Int) : List Char := "SELECT * FROM table LIMIT ".toList ++ (toString n).toList

/-- This is `sample`. -/
def sample (execute : List Char → List Row) (n : Int) : List Row := execute (sampleStatement n)

end Cqlite.Async
