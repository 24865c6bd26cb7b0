/-!
The two consumers of `AsyncSSTableReader` in `cqlite/async_support.py` that regroup the rows of an
`AsyncQueryIterator`: `query_chunks` and `query_streaming`. The iterator itself is the Rust core;
its output is the list of rows it yields.
-/

namespace Cqlite.Async

variable {Row : Type}

/-- This is `chunk_size or self.chunk_size`: a missing or zero argument takes the reader's
default. -/
def effectiveChunkSize (chunkSize : Option Int) (selfChunkSize : Int) : Int :=
  match chunkSize with
  | some size => if size ≠ 0 then size else selfChunkSize
  | none => selfChunkSize

/-- The generator state of `query_chunks` between two rows. -/
structure ChunkState (Row : Type) where
  chunk : List Row
  yielded : List (List Row)

/-- One row of the iterator: append it, and yield the chunk once it holds `chunk_size` rows. -/
def ChunkState.step (chunkSize : Int) (state : ChunkState Row) (row : Row) : ChunkState Row :=
  let chunk := state.chunk ++ [row]
  if (chunk.length : Int) ≥ chunkSize then ⟨[], state.yielded ++ [chunk]⟩
  else ⟨chunk, state.yielded⟩

/-- This is `query_chunks`: the chunks it yields for the rows the iterator yields. -/
def queryChunks (chunkSize : Option Int) (selfChunkSize : Int) (rows : List Row) :
    List (List Row) :=
  let final := rows.foldl (ChunkState.step (effectiveChunkSize chunkSize selfChunkSize)) ⟨[], []⟩
  if final.chunk.isEmpty then final.yielded else final.yielded ++ [final.chunk]

/-- This is `query_streaming`: the rows it yields, one per iterator row. -/
def queryStreaming (rows : List Row) : List Row :=
  rows.foldl (fun yielded row => yielded ++ [row]) []

end Cqlite.Async
