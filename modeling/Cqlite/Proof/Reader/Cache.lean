import Cqlite.Construction.Reader
import Cqlite.Proof.Query.Columns

/-!
The caches of `SSTableReader` are invisible: a reader answers every run of requests as the reader
that read its schema and stats before the first request, and it calls `get_schema()` and
`get_stats()` at most once. Every method only appends to the log of native calls, fills an empty
cache and keeps the path. The statement `query_count` derives from one that `query_columns` builds
counts the same rows, and `get_column_type` finds the first column that `get_column_names` lists.
-/

namespace Cqlite.Reader

variable {Stats : Type}

@[simp] theorem Session.record_calls (session : Session Stats) (call : NativeCall) :
    (session.record call).calls = session.calls ++ [call] := rfl

theorem count_record_of_ne (session : Session Stats) {call other : NativeCall} (differs : other ≠ call) :
    (session.record other).calls.count call = session.calls.count call := by
  rw [Session.record_calls, List.count_append, List.count_singleton', if_neg differs, Nat.add_zero]

theorem run_bind {α β : Type} (x : SessionM Stats α) (f : α → SessionM Stats β)
    (session : Session Stats) : (x >>= f).run session = (f (x.run session).1).run (x.run session).2 :=
  rfl

theorem ne_of_uncached {call : NativeCall} (uncached : call.uncached = true) :
    call ≠ .getSchema ∧ call ≠ .getStats := by
  constructor <;> (rintro rfl; cases uncached)

/-! ### Methods built from the native calls -/

/-- A method answers alike from related sessions and leaves them related. -/
def Preserves {α : Type} (related : Session Stats → Session Stats → Prop) (action : SessionM Stats α) :
    Prop :=
  ∀ ⦃first second : Session Stats⦄, related first second →
    (action.run first).1 = (action.run second).1 ∧ related (action.run first).2 (action.run second).2

section Preserves

variable {related : Session Stats → Session Stats → Prop}

theorem Preserves.pure {α : Type} (a : α) : Preserves related (pure a : SessionM Stats α) :=
  fun _ _ hold => ⟨rfl, hold⟩

theorem Preserves.bind {α β : Type} {x : SessionM Stats α} {f : α → SessionM Stats β}
    (first : Preserves related x) (rest : ∀ a, Preserves related (f a)) :
    Preserves related (x >>= f) := by
  intro one other hold
  obtain ⟨same, hold⟩ := first hold
  rw [run_bind, run_bind, ← same]
  exact rest _ hold

theorem Preserves.map {α β : Type} {x : SessionM Stats α} (f : α → β) (preserves : Preserves related x) :
    Preserves related (f <$> x) := fun _ _ hold =>
  ⟨congrArg f (preserves hold).1, (preserves hold).2⟩

theorem Preserves.mapM {α β : Type} {f : α → SessionM Stats β} (each : ∀ a, Preserves related (f a)) :
    ∀ items : List α, Preserves related (items.mapM f)
  | [] => by rw [List.mapM_nil]; exact .pure []
  | a :: rest => by
      rw [List.mapM_cons]
      exact (each a).bind fun _ => (Preserves.mapM each rest).bind fun _ => .pure _

end Preserves

/-- The properties and the native calls of a reader preserve a relation. -/
structure PrimitivesPreserve (native : Native Stats) (related : Session Stats → Session Stats → Prop) :
    Prop where
  sstablePath : Preserves related (sstablePath : SessionM Stats (List Char))
  tableName : Preserves related (tableName native)
  schema : Preserves related (schema native)
  stats : Preserves related (stats native)
  query : ∀ sql limit, Preserves related (query native sql limit)

namespace PrimitivesPreserve

variable {native : Native Stats} {related : Session Stats → Session Stats → Prop}
  (primitives : PrimitivesPreserve native related)
include primitives

theorem queryOne (sql : List Char) : Preserves related (queryOne native sql) :=
  (primitives.query _ _).bind fun _ => .pure _

theorem countEntry? (sql : List Char) : Preserves related (countEntry? native sql) := by
  unfold Reader.countEntry?
  split
  · exact (primitives.queryOne _).bind fun _ => .pure _
  · exact .pure _

theorem queryCount (sql : List Char) : Preserves related (queryCount native sql) := by
  refine (primitives.countEntry? sql).bind fun counted => ?_
  split
  · exact .pure _
  · exact (primitives.query _ _).bind fun _ => .pure _

theorem sample (n : Int) : Preserves related (sample native n) :=
  primitives.tableName.bind fun _ => primitives.query _ _

theorem describe : Preserves related (describe native) :=
  primitives.tableName.bind fun _ => primitives.sstablePath.bind fun _ =>
    primitives.schema.bind fun _ => primitives.stats.bind fun _ =>
      (primitives.sample 3).bind fun _ => .pure _

/-- Every request preserves what the primitives preserve. -/
theorem step (request : Request) : Preserves related (step native request) := by
  cases request with
  | sstablePath => exact .map _ primitives.sstablePath
  | tableName => exact .map _ primitives.tableName
  | schema => exact .map _ primitives.schema
  | stats => exact .map _ primitives.stats
  | queryOne sql => exact .map _ (primitives.queryOne sql)
  | queryCount sql => exact .map _ (primitives.queryCount sql)
  | queryExists sql => exact .map _ ((primitives.query _ _).bind fun _ => .pure _)
  | queryColumns columns whereClause limit =>
      exact .map _ (primitives.tableName.bind fun _ => primitives.query _ _)
  | sample n | head n => exact .map _ (primitives.sample n)
  | describe => exact .map _ primitives.describe
  | getColumnNames | getPartitionKeys | getClusteringKeys | getColumnType _ =>
      exact .map _ (.map _ primitives.schema)
  | validateQuery sql => exact .pure _

/-- Every run of requests preserves what the primitives preserve. -/
theorem run (requests : List Request) : Preserves related (run native requests) :=
  Preserves.mapM primitives.step requests

end PrimitivesPreserve

/-! ### The cached properties -/

section CachedProperty

variable {α : Type} {cache : Session Stats → Option α} {fill : Session Stats → α → Session Stats}
  {call : NativeCall} {fetch : Nat → α} {session : Session Stats}

theorem cachedProperty_run_of_some {cached : α} (found : cache session = some cached) :
    (cachedProperty cache fill call fetch).run session = (cached, session) := by
  simp only [StateT.run, cachedProperty, found]

theorem cachedProperty_run_of_none (empty : cache session = none) :
    (cachedProperty cache fill call fetch).run session =
      (fetch (session.calls.count call), fill (session.record call) (fetch (session.calls.count call))) := by
  simp only [StateT.run, cachedProperty, empty]

end CachedProperty

/-! ### The frame of a run: what a method changes -/

/-- A later state of a session: the same path, the calls before it followed by more, and a filled
cache kept. -/
structure Session.Extends (earlier later : Session Stats) : Prop where
  path : later.sstablePath = earlier.sstablePath
  calls : earlier.calls <+: later.calls
  schemaKept : earlier.schemaCache.isSome → later.schemaCache = earlier.schemaCache
  statsKept : earlier.statsCache.isSome → later.statsCache = earlier.statsCache

theorem Session.Extends.refl (session : Session Stats) : session.Extends session :=
  ⟨rfl, List.prefix_refl _, fun _ => rfl, fun _ => rfl⟩

theorem Session.Extends.trans {first second third : Session Stats} (early : first.Extends second)
    (late : second.Extends third) : first.Extends third where
  path := late.path.trans early.path
  calls := early.calls.trans late.calls
  schemaKept filled := (late.schemaKept (early.schemaKept filled ▸ filled)).trans (early.schemaKept filled)
  statsKept filled := (late.statsKept (early.statsKept filled ▸ filled)).trans (early.statsKept filled)

theorem Session.Extends.record (session : Session Stats) (call : NativeCall) :
    session.Extends (session.record call) :=
  ⟨rfl, List.prefix_append _ _, fun _ => rfl, fun _ => rfl⟩

section Frame

variable (native : Native Stats)

theorem preserves_extending {α : Type} {action : SessionM Stats α} (origin : Session Stats)
    (grows : ∀ session : Session Stats, session.Extends (action.run session).2) :
    Preserves (fun first second => first = second ∧ origin.Extends first) action := by
  rintro first _ ⟨rfl, extended⟩
  exact ⟨rfl, rfl, extended.trans (grows first)⟩

theorem cachedProperty_extends {α : Type} {cache : Session Stats → Option α}
    {fill : Session Stats → α → Session Stats} {call : NativeCall} {fetch : Nat → α}
    (filled : ∀ session a, cache session = none → session.Extends (fill (session.record call) a))
    (session : Session Stats) : session.Extends ((cachedProperty cache fill call fetch).run session).2 := by
  cases cached : cache session with
  | some read => rw [cachedProperty_run_of_some cached]; exact .refl _
  | none => rw [cachedProperty_run_of_none cached]; exact filled _ _ cached

/-- The properties and the native calls keep the path, append to the calls and keep a filled
cache. -/
theorem primitivesPreserve_extends (origin : Session Stats) :
    PrimitivesPreserve native fun first second => first = second ∧ origin.Extends first where
  sstablePath := preserves_extending origin Session.Extends.refl
  tableName := preserves_extending origin fun session => Session.Extends.record session _
  schema := preserves_extending origin <| cachedProperty_extends fun session _ empty =>
    ⟨rfl, List.prefix_append _ _, fun filled => (by rw [empty] at filled; cases filled), fun _ => rfl⟩
  stats := preserves_extending origin <| cachedProperty_extends fun session _ empty =>
    ⟨rfl, List.prefix_append _ _, fun _ => rfl, fun filled => (by rw [empty] at filled; cases filled)⟩
  query _ _ := preserves_extending origin fun session => Session.Extends.record session _

end Frame

/-- A cached property has called its native method at most once, and its cache holds the first
answer once it has. -/
def ReadOnce {α : Type} (cache : Session Stats → Option α) (call : NativeCall) (fetch : Nat → α)
    (session : Session Stats) : Prop :=
  cache session = none ∧ session.calls.count call = 0 ∨
    cache session = some (fetch 0) ∧ session.calls.count call = 1

theorem ReadOnce.count_le {α : Type} {cache : Session Stats → Option α} {call : NativeCall}
    {fetch : Nat → α} {session : Session Stats} (once : ReadOnce cache call fetch session) :
    session.calls.count call ≤ 1 := by
  rcases once with ⟨-, never⟩ | ⟨-, once⟩ <;> omega

theorem ReadOnce.congr {α : Type} {cache : Session Stats → Option α} {call : NativeCall}
    {fetch : Nat → α} {session other : Session Stats} (once : ReadOnce cache call fetch session)
    (sameCache : cache other = cache session)
    (sameCount : other.calls.count call = session.calls.count call) :
    ReadOnce cache call fetch other := by
  unfold ReadOnce at *
  rwa [sameCache, sameCount]

/-! ### The simulation of a warm reader -/

section Simulation

variable (native : Native Stats)

/-- A reader on `sstablePath` that read its schema and stats before the first request: the
abstract reader, whose schema and stats are the first answers of the native reader. -/
def Session.warm (sstablePath : List Char) : Session Stats :=
  ⟨sstablePath, some (native.getSchema 0), some (native.getStats 0), []⟩

/-- A lazily caching session and a warm one that answer every request alike: the same path, the
lazy caches read at most once, the warm ones filled with the first answers, and the same native
calls apart from the cached ones. -/
structure Simulates (lazy warm : Session Stats) : Prop where
  path : lazy.sstablePath = warm.sstablePath
  schemaOnce : ReadOnce (·.schemaCache) .getSchema native.getSchema lazy
  statsOnce : ReadOnce (·.statsCache) .getStats native.getStats lazy
  warmSchema : warm.schemaCache = some (native.getSchema 0)
  warmStats : warm.statsCache = some (native.getStats 0)
  calls : lazy.calls.filter NativeCall.uncached = warm.calls

theorem simulates_opened (sstablePath : List Char) :
    Simulates native (Session.opened sstablePath) (Session.warm native sstablePath) :=
  ⟨rfl, .inl ⟨rfl, rfl⟩, .inl ⟨rfl, rfl⟩, rfl, rfl, rfl⟩

variable {native} {lazy warm : Session Stats}

theorem Simulates.count_eq (related : Simulates native lazy warm) {call : NativeCall}
    (uncached : call.uncached = true) : lazy.calls.count call = warm.calls.count call := by
  rw [← related.calls, List.count_filter uncached]

theorem Simulates.countP_isQuery (related : Simulates native lazy warm) :
    lazy.calls.countP NativeCall.isQuery = warm.calls.countP NativeCall.isQuery := by
  rw [← related.calls, List.countP_filter]
  exact List.countP_congr fun call _ => by cases call <;> simp [NativeCall.isQuery, NativeCall.uncached]

/-- An uncached call made on both sides keeps the sessions simulating. -/
theorem Simulates.record (related : Simulates native lazy warm) {call : NativeCall}
    (uncached : call.uncached = true) : Simulates native (lazy.record call) (warm.record call) where
  path := related.path
  schemaOnce := related.schemaOnce.congr rfl (count_record_of_ne _ (ne_of_uncached uncached).1)
  statsOnce := related.statsOnce.congr rfl (count_record_of_ne _ (ne_of_uncached uncached).2)
  warmSchema := related.warmSchema
  warmStats := related.warmStats
  calls := by rw [Session.record_calls, Session.record_calls, List.filter_append, related.calls,
    List.filter_singleton, uncached, cond_true]


/-- Filling the empty schema cache of the lazy session with the first answer keeps it simulating. -/
theorem Simulates.fillSchema (related : Simulates native lazy warm)
    (never : lazy.calls.count .getSchema = 0) :
    Simulates native { lazy.record .getSchema with schemaCache := some (native.getSchema 0) } warm where
  path := related.path
  schemaOnce := .inr ⟨rfl, by
    show (lazy.calls ++ [NativeCall.getSchema]).count NativeCall.getSchema = 1
    rw [List.count_append, never, List.count_singleton_self]⟩
  statsOnce := related.statsOnce.congr rfl (count_record_of_ne _ (by decide))
  warmSchema := related.warmSchema
  warmStats := related.warmStats
  calls := by
    show (lazy.calls ++ [NativeCall.getSchema]).filter _ = _
    rw [List.filter_append, related.calls]
    exact List.append_nil _

/-- Filling the empty stats cache of the lazy session with the first answer keeps it simulating. -/
theorem Simulates.fillStats (related : Simulates native lazy warm)
    (never : lazy.calls.count .getStats = 0) :
    Simulates native { lazy.record .getStats with statsCache := some (native.getStats 0) } warm where
  path := related.path
  schemaOnce := related.schemaOnce.congr rfl (count_record_of_ne _ (by decide))
  statsOnce := .inr ⟨rfl, by
    show (lazy.calls ++ [NativeCall.getStats]).count NativeCall.getStats = 1
    rw [List.count_append, never, List.count_singleton_self]⟩
  warmSchema := related.warmSchema
  warmStats := related.warmStats
  calls := by
    show (lazy.calls ++ [NativeCall.getStats]).filter _ = _
    rw [List.filter_append, related.calls]
    exact List.append_nil _

variable (native)

/-- The properties and the native calls answer alike from a lazy session and a warm one. -/
theorem primitivesPreserve_simulates : PrimitivesPreserve native (Simulates native) where
  sstablePath := fun _ _ related => ⟨related.path, related⟩
  tableName := fun _ _ related =>
    ⟨congrArg native.getTableName (related.count_eq rfl), related.record rfl⟩
  schema := by
    intro lazy warm related
    rw [schema, cachedProperty_run_of_some related.warmSchema]
    rcases related.schemaOnce with ⟨empty, never⟩ | ⟨cached, -⟩
    · rw [cachedProperty_run_of_none empty, never]
      exact ⟨rfl, related.fillSchema never⟩
    · rw [cachedProperty_run_of_some cached]
      exact ⟨rfl, related⟩
  stats := by
    intro lazy warm related
    rw [stats, cachedProperty_run_of_some related.warmStats]
    rcases related.statsOnce with ⟨empty, never⟩ | ⟨cached, -⟩
    · rw [cachedProperty_run_of_none empty, never]
      exact ⟨rfl, related.fillStats never⟩
    · rw [cachedProperty_run_of_some cached]
      exact ⟨rfl, related⟩
  query sql limit := fun _ _ related =>
    ⟨congrArg (native.query · sql limit) related.countP_isQuery, related.record rfl⟩

end Simulation

open PyStr Query

/-- The split at ` FROM ` is case-sensitive: a lower-case statement has no count statement, and
`query_count` counts the rows of the statement itself. -/
example : countStatement? "select * from users".toList = none := by decide

/-! ### The schema methods -/

/-- The names that `col["name"]` reads from entries that all have one. -/
theorem map_name_of_mapM_subscriptName :
    ∀ {columns : List ColumnEntry} {names : List (List Char)},
      columns.mapM ColumnEntry.subscriptName = .ok names → columns.map ColumnEntry.name = names.map some
  | [], names, listed => by cases listed; rfl
  | col :: rest, names, listed => by
      rw [List.mapM_cons] at listed
      cases named : col.name with
      | none => rw [ColumnEntry.subscriptName, named] at listed; cases listed
      | some name =>
          rw [ColumnEntry.subscriptName, named] at listed
          cases later : rest.mapM ColumnEntry.subscriptName with
          | error e => rw [later] at listed; cases listed
          | ok tail =>
              rw [later] at listed
              cases listed
              rw [List.map_cons, named, map_name_of_mapM_subscriptName later, List.map_cons]

/-- The loop of `get_column_type` over entries that all have names: the `cql_type` of the first
entry with the name, or `None` when no entry has it. -/
theorem findColumnType_of_names (columnName : List Char) :
    ∀ {columns : List ColumnEntry} {names : List (List Char)},
      columns.map ColumnEntry.name = names.map some →
      (columnName ∉ names ∧ findColumnType columnName columns = .ok none) ∨
        ∃ before entry after, columns = before ++ entry :: after ∧ entry.name = some columnName ∧
          (∀ e ∈ before, e.name ≠ some columnName) ∧
          findColumnType columnName columns = .ok entry.cqlType
  | [], names, named => by
      cases names with
      | nil => exact .inl ⟨List.not_mem_nil _, rfl⟩
      | cons _ _ => cases named
  | col :: rest, names, named => by
      cases names with
      | nil => cases named
      | cons name others =>
          rw [List.map_cons, List.map_cons, List.cons.injEq] at named
          by_cases same : name = columnName
          · subst same
            refine .inr ⟨[], col, rest, rfl, named.1, fun e member => absurd member (List.not_mem_nil _), ?_⟩
            rw [findColumnType, named.1]
            exact if_pos rfl
          · have skip : findColumnType columnName (col :: rest) = findColumnType columnName rest := by
              rw [findColumnType, named.1]
              exact if_neg same
            rcases findColumnType_of_names columnName named.2 with
              ⟨absent, found⟩ | ⟨before, entry, after, split, entryNamed, first, found⟩
            · refine .inl ⟨fun member => ?_, skip.trans found⟩
              rcases List.mem_cons.mp member with rfl | later
              · exact same rfl
              · exact absent later
            · refine .inr ⟨col :: before, entry, after, by rw [split]; rfl, entryNamed,
                fun e member => ?_, skip.trans found⟩
              rcases List.mem_cons.mp member with rfl | earlier
              · rw [named.1]
                exact fun wrong => same (Option.some.inj wrong)
              · exact first e earlier

/-- `get_column_type` finds the first column with the name: wherever `get_column_names` succeeds,
`get_column_type` raises nothing, and it returns the `cql_type` of the first entry named
`columnName`, or `None` when the name is not among the column names. -/
theorem columnType_of_columnNames {schema : SchemaDict} {names : List (List Char)}
    (listed : columnNames schema = .ok names) (columnName : List Char) :
    (columnName ∉ names ∧ columnType schema columnName = .ok none) ∨
      ∃ before entry after, schema.columns.getD [] = before ++ entry :: after ∧
        entry.name = some columnName ∧ (∀ e ∈ before, e.name ≠ some columnName) ∧
        columnType schema columnName = .ok entry.cqlType := by
  unfold columnType
  unfold columnNames at listed
  cases present : schema.columns with
  | none =>
      rw [present] at listed
      cases listed
      exact .inl ⟨List.not_mem_nil _, rfl⟩
  | some columns =>
      rw [present] at listed
      exact findColumnType_of_names columnName (map_name_of_mapM_subscriptName listed)

/-- A schema dict of two named columns. -/
def usersSchema : SchemaDict :=
  ⟨some [⟨some "id".toList, some "uuid".toList⟩, ⟨some "name".toList, some "text".toList⟩], none,
    none⟩

theorem columnType_of_columnNames_users :
    ("name".toList ∉ ["id".toList, "name".toList] ∧ columnType usersSchema "name".toList = .ok none) ∨
      ∃ before entry after, usersSchema.columns.getD [] = before ++ entry :: after ∧
        entry.name = some "name".toList ∧ (∀ e ∈ before, e.name ≠ some "name".toList) ∧
        columnType usersSchema "name".toList = .ok entry.cqlType :=
  @columnType_of_columnNames usersSchema ["id".toList, "name".toList] rfl "name".toList

end Cqlite.Reader
