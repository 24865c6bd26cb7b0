import Cqlite.Construction.AsyncSupport
import Mathlib.Data.List.Basic

/-!
`query_chunks` regroups the rows of the iterator into chunks of the effective size, and
`query_streaming` passes them through: the loop invariant of the generator, its run over all rows,
and the resulting agreement of the two consumers.
-/

namespace Cqlite.Async

variable {Row : Type}

/-- The invariant of `query_chunks` after `consumed`: full chunks yielded, then a pending one. -/
structure ChunkInvariant (size : Nat) (consumed : List Row) (state : ChunkState Row) : Prop where
  concat : state.yielded.flatten ++ state.chunk = consumed
  full : ∀ chunk ∈ state.yielded, chunk.length = size
  pending : state.chunk.length < size

/-- One row keeps the invariant. -/
theorem ChunkInvariant.step {size : Int} {consumed : List Row} {state : ChunkState Row}
    (positive : 1 ≤ size) (invariant : ChunkInvariant size.toNat consumed state) (row : Row) :
    ChunkInvariant size.toNat (consumed ++ [row]) (state.step size row) := by
  have pending := invariant.pending
  unfold ChunkState.step
  dsimp only
  split
  · rename_i fullNow
    simp only [List.length_append, List.length_singleton] at fullNow
    refine ⟨?_, fun chunk member => ?_, by simp; omega⟩
    · rw [← invariant.concat]; simp
    · rcases List.mem_append.mp member with old | new
      · exact invariant.full chunk old
      · rw [List.mem_singleton.mp new]; simp; omega
  · rename_i notFull
    simp only [List.length_append, List.length_singleton] at notFull
    exact ⟨by rw [← invariant.concat]; simp, invariant.full, by simp; omega⟩

/-- A run over the iterator's rows keeps the invariant. -/
theorem ChunkInvariant.run {size : Int} (positive : 1 ≤ size) (rows : List Row) :
    ∀ (consumed : List Row) (state : ChunkState Row), ChunkInvariant size.toNat consumed state →
      ChunkInvariant size.toNat (consumed ++ rows) (rows.foldl (ChunkState.step size) state) := by
  induction rows with
  | nil => intro consumed state invariant; simpa using invariant
  | cons row rest ih =>
      intro consumed state invariant
      rw [List.foldl_cons, show consumed ++ row :: rest = (consumed ++ [row]) ++ rest by simp]
      exact ih _ _ (invariant.step positive row)

/-- `query_streaming` yields the iterator's rows unchanged. -/
theorem queryStreaming_eq (rows : List Row) : queryStreaming rows = rows := by
  suffices general : ∀ yielded : List Row,
      rows.foldl (fun yielded row => yielded ++ [row]) yielded = yielded ++ rows from
    general []
  induction rows with
  | nil => simp
  | cons row rest ih => intro yielded; simp [ih]

/-- `n` full chunks and a pending one make `ceil(length / size)` chunks. -/
theorem chunkCount {size full rest : Nat} (positive : 1 ≤ size) (pending : rest < size) :
    (full * size + rest + size - 1) / size = full + if rest = 0 then 0 else 1 := by
  rw [show full * size + rest + size - 1 = (rest + size - 1) + size * full by
    rw [Nat.mul_comm]; omega, Nat.add_mul_div_left _ _ (by omega), Nat.add_comm full]
  congr 1
  split
  · exact Nat.div_eq_of_lt (by omega)
  · exact Nat.div_eq_of_lt_le (by omega) (by omega)

/-- Full chunks hold `size` rows each. -/
theorem length_flatten_full {size : Nat} (chunks : List (List Row))
    (full : ∀ chunk ∈ chunks, chunk.length = size) : chunks.flatten.length = chunks.length * size := by
  induction chunks with
  | nil => simp
  | cons chunk rest ih =>
      rw [List.flatten_cons, List.length_append, full chunk (List.mem_cons_self _ _),
        ih fun other member => full other (List.mem_cons_of_mem _ member), List.length_cons,
        Nat.succ_mul, Nat.add_comm]

/-- `chunks` regroup `rows`: concatenated they give `rows`, all but the last hold `size` rows, the
last holds between 1 and `size`, none is empty, and there are `ceil(length / size)` of them. -/
def Regroups (size : Nat) (rows : List Row) (chunks : List (List Row)) : Prop :=
  chunks.flatten = rows ∧ (∀ chunk ∈ chunks.dropLast, chunk.length = size) ∧
    (∀ chunk ∈ chunks.getLast?, 1 ≤ chunk.length ∧ chunk.length ≤ size) ∧
    (∀ chunk ∈ chunks, chunk ≠ []) ∧ chunks.length = (rows.length + size - 1) / size

/-- `query_chunks` regroups the iterator's rows by the effective chunk size, and its chunks
concatenate to what `query_streaming` yields. -/
theorem queryChunks_regroups (chunkSize : Option Int) (selfChunkSize : Int) (rows : List Row)
    (positive : 1 ≤ effectiveChunkSize chunkSize selfChunkSize) :
    Regroups (effectiveChunkSize chunkSize selfChunkSize).toNat rows
        (queryChunks chunkSize selfChunkSize rows) ∧
      (queryChunks chunkSize selfChunkSize rows).flatten = queryStreaming rows := by
  generalize sizeDef : (effectiveChunkSize chunkSize selfChunkSize).toNat = size
  have sizePositive : 1 ≤ size := by omega
  have invariant := ChunkInvariant.run positive rows [] ⟨[], []⟩ ⟨rfl, by simp, by simp; omega⟩
  rw [sizeDef] at invariant
  rw [queryStreaming_eq, Regroups]
  simp only [queryChunks]
  generalize rows.foldl (ChunkState.step (effectiveChunkSize chunkSize selfChunkSize)) ⟨[], []⟩ =
    final at invariant ⊢
  obtain ⟨chunk, yielded⟩ := final
  obtain ⟨concat, full, pending⟩ := invariant
  simp only [List.nil_append] at concat full pending
  subst concat
  have counted := length_flatten_full yielded full
  have fullNonEmpty : ∀ chunk ∈ yielded, chunk ≠ [] := fun chunk member empty => by
    have := full chunk member; rw [empty] at this; simp at this; omega
  cases chunk with
  | nil =>
      dsimp only
      rw [List.isEmpty_nil, if_pos rfl]
      refine ⟨⟨by simp, fun chunk member => full chunk (List.dropLast_subset _ member),
        fun chunk member => ?_, fullNonEmpty, ?_⟩, by simp⟩
      · have := full chunk (List.mem_of_mem_getLast? member); omega
      · rw [List.append_nil, counted, show yielded.length * size + size - 1 =
          yielded.length * size + 0 + size - 1 by rfl, chunkCount sizePositive sizePositive]
        simp
  | cons row rest =>
      dsimp only
      rw [List.isEmpty_cons, if_neg Bool.false_ne_true]
      refine ⟨⟨by simp, fun chunk member => ?_, fun chunk member => ?_, fun chunk member => ?_, ?_⟩,
        by simp⟩
      · rw [List.dropLast_concat] at member; exact full chunk member
      · rw [List.getLast?_concat, Option.mem_def, Option.some_inj] at member
        rw [← member]
        exact ⟨by simp, Nat.le_of_lt pending⟩
      · rcases List.mem_append.mp member with old | new
        · exact fullNonEmpty chunk old
        · rw [List.mem_singleton.mp new]; exact List.cons_ne_nil _ _
      · rw [List.length_append, List.length_append, counted, List.length_singleton,
          chunkCount sizePositive pending, if_neg (by simp)]

/-- Five rows in chunks of two. -/
theorem queryChunks_regroups_fiveRows : 1 ≤ effectiveChunkSize (some 2) 1000 ∧
    (Regroups 2 [1, 2, 3, 4, 5] (queryChunks (some 2) 1000 [1, 2, 3, 4, 5]) ∧
      (queryChunks (some 2) 1000 [1, 2, 3, 4, 5]).flatten = queryStreaming [1, 2, 3, 4, 5]) :=
  ⟨by decide, queryChunks_regroups (some 2) 1000 [1, 2, 3, 4, 5] (by decide)⟩

/-- A zero argument falls back to the reader's chunk size. -/
example : queryChunks (some 0) 2 [1, 2, 3, 4, 5] = [[1, 2], [3, 4], [5]] := by decide

end Cqlite.Async