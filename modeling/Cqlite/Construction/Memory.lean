import Cqlite.Construction.Format

/-!
`estimate_memory_usage` and `_get_memory_tips` of `cqlite/utils.py`: the bytes that the rows of a
query take, from the number of rows and the CQL type of each column, and the tips for a large
estimate. A column dict is given by its `cql_type` entry, the one key the estimate reads.
-/

namespace Cqlite.Utils

open PyStr

/-- The `type_sizes` of `estimate_memory_usage`: the bytes of a value of each type name. -/
def typeSizes : List (List Char × Nat) :=
  [("text".toList, 50), ("varchar".toList, 50), ("ascii".toList, 30), ("int".toList, 4),
    ("smallint".toList, 2), ("tinyint".toList, 1), ("bigint".toList, 8), ("varint".toList, 8),
    ("float".toList, 4), ("double".toList, 8), ("decimal".toList, 16), ("boolean".toList, 1),
    ("blob".toList, 100), ("uuid".toList, 16), ("timeuuid".toList, 16), ("timestamp".toList, 8),
    ("date".toList, 4), ("time".toList, 8), ("inet".toList, 16), ("list".toList, 200),
    ("set".toList, 200), ("map".toList, 300), ("tuple".toList, 100), ("udt".toList, 200),
    ("counter".toList, 8)]

/-- The type name of a column: `col.get("cql_type", "text").split("<")[0].lower()`, with no
`strip`. -/
def columnTypeName (cqlType : Option (List Char)) : List Char :=
  lower ((splitOn '<' (cqlType.getD "text".toList)).headD [])

/-- The bytes of a value of a column: `type_sizes.get(col_type, 50)`. -/
def columnSize (cqlType : Option (List Char)) : Nat :=
  (typeSizes.lookup (columnTypeName cqlType)).getD 50

/-- The `row_size` loop of `estimate_memory_usage`. -/
def rowSize (columns : List (Option (List Char))) : Nat :=
  columns.foldl (fun size col => size + columnSize col) 0

/-- This is `_get_memory_tips`. `size_bytes / (1024 * 1024)` is the correctly rounded quotient, and
rounding is monotone, so it exceeds 1000 or 100 exactly when `size_bytes` exceeds that many times
`1024 * 1024`. -/
def getMemoryTips (sizeBytes : Int) : List String :=
  if sizeBytes > 1000 * (1024 * 1024) then
    ["Use query_async() for streaming large datasets",
      "Consider adding LIMIT clause to reduce memory usage",
      "Use specific column selection instead of SELECT *",
      "Export directly to files instead of loading in memory"]
  else if sizeBytes > 100 * (1024 * 1024) then
    ["Consider using streaming with query_async()",
      "Use pandas DataFrame for efficient memory usage",
      "Consider limiting the number of rows returned"]
  else []

/-- The dict that `estimate_memory_usage` returns. -/
structure MemoryEstimate where
  rowCount : Int
  estimatedRowSizeBytes : Nat
  estimatedTotalSizeBytes : Int
  estimatedCompressedSizeBytes : Int
  estimatedTotalSizeMb : Float
  estimatedCompressedSizeMb : Float
  compressionRatio : Float
  memoryEfficiencyTips : List String

/-- This is `estimate_memory_usage(row_count, columns, compression_ratio)`, whose default ratio is
`0.3`. The Python overhead is twice the row size; `int(raw_size * compression_ratio)` truncates
toward zero, as `truncate` does for an estimate below `2 ^ 64` bytes. -/
def estimateMemoryUsage (rowCount : Int) (columns : List (Option (List Char)))
    (compressionRatio : Float) : MemoryEstimate :=
  let rowSize := rowSize columns
  let pythonOverhead := rowSize * 2
  let totalRowSize := rowSize + pythonOverhead
  let rawSize := rowCount * totalRowSize
  let compressedSize := truncate (Float.ofInt rawSize * compressionRatio)
  ⟨rowCount, totalRowSize, rawSize, compressedSize, Float.ofInt rawSize / 1048576,
    Float.ofInt compressedSize / 1048576, compressionRatio, getMemoryTips rawSize⟩

end Cqlite.Utils
