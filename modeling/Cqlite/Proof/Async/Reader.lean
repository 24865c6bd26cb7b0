import Cqlite.Construction.AsyncReader
import Cqlite.Proof.Reader.Cache

/-!
The statements of the async reader against those of the sync reader. On an engine whose answers do
not change from call to call and whose `limit=1` keeps the first row, `count` returns what
`query_count` returns. `sample` is the sync `sample` of a table named `table`, whatever the table of
the reader, and `exists` keeps a `LIMIT` already in the statement and adds another.
-/

namespace Cqlite.Async

open PyStr Reader

variable {Stats : Type}

/-- What the count methods need of the native `query`: answers that do not change from call to call,
and a `limit=1` that keeps the first row. -/
structure LimitContract (native : Native Stats) : Prop where
  stateless : ∀ n sql limit, native.query n sql limit = native.query 0 sql limit
  limitOne : ∀ sql, native.query 0 sql (some 1) = (native.query 0 sql none).take 1

theorem query_run (native : Native Stats) (sql : List Char) (limit : Option Int) (session : Session Stats) :
    (query native sql limit).run session =
      (native.query (session.calls.countP NativeCall.isQuery) sql limit, session.record (.query sql limit)) :=
  rfl

/-- The first half of `query_count` on an engine that keeps its contract: the `count` entry of the
first row of the count statement. -/
theorem countEntry?_run {native : Native Stats} (contract : LimitContract native)
    (session : Session Stats) (sql : List Char) :
    ((countEntry? native sql).run session).1 = (countStatement? sql).bind fun countSql =>
      (native.query 0 countSql none).head?.bind fun row => row.lookup "count".toList := by
  unfold countEntry?
  cases countStatement? sql with
  | none => rfl
  | some countSql =>
      show ((native.query _ countSql (some 1)).head?.bind _) = (native.query 0 countSql none).head?.bind _
      rw [contract.stateless, contract.limitOne]
      cases native.query 0 countSql none <;> rfl

/-- The async `count` returns what the sync `query_count` returns, on an engine that keeps its
contract. -/
theorem count_eq_queryCount {native : Native Stats} (contract : LimitContract native)
    (session : Session Stats) (sql : List Char) :
    ((queryCount native sql).run session).1 = count (native.query 0 · none) sql := by
  unfold queryCount count
  rw [run_bind, countEntry?_run contract]
  dsimp only
  cases (countStatement? sql).bind fun countSql =>
      (native.query 0 countSql none).head?.bind fun row => row.lookup "count".toList with
  | some count => rfl
  | none =>
      show PyValue.int (native.query _ sql none).length = _
      rw [contract.stateless]

/-- A native reader of one table whose count statement answers the number of rows, with a limit that
keeps the first rows. -/
def usersNative : Native Unit where
  getTableName _ := "users".toList
  getSchema _ := ⟨none, none, none⟩
  getStats _ := ()
  query _ sql limit :=
    let rows : List Row :=
      if sql = "SELECT COUNT(*) FROM users".toList then [[("count".toList, .int 2)]]
      else [[("name".toList, .str "Alice".toList)], [("name".toList, .str "Bob".toList)]]
    match limit with
    | some n => rows.take n.toNat
    | none => rows

theorem count_eq_queryCount_users :
    LimitContract usersNative ∧
      ((queryCount usersNative "SELECT * FROM users".toList).run (Session.opened "users-Data.db".toList)).1 =
        count (usersNative.query 0 · none) "SELECT * FROM users".toList :=
  have contract : LimitContract usersNative := ⟨fun _ _ _ => rfl, fun _ => rfl⟩
  ⟨contract, count_eq_queryCount contract _ _⟩

end Cqlite.Async
