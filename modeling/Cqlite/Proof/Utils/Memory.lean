import Cqlite.Construction.Memory
import Cqlite.Proof.Utils.Schema
import Cqlite.Proof.Types.Info

/-!
What `estimate_memory_usage` computes: a row takes three times the sum of its column sizes, each
between 1 and 300 bytes, and the tips come in two tiers, of which the upper replaces the lower.
The names with their own size are the CQL types other than `duration`. The estimate reads the type
name of a column without `strip`, so it reads the type as `cqlite/types.py` does exactly when the
type has no whitespace, as every type that `create_schema_from_cql` returns.
-/

namespace Cqlite.Utils

open PyStr Types

/-! ### The row size -/

/-- The `row_size` loop adds up the column sizes. -/
theorem rowSize_eq_sum (columns : List (Option (List Char))) :
    rowSize columns = (columns.map columnSize).sum := by
  suffices loop : ∀ start, columns.foldl (fun size col => size + columnSize col) start =
      start + (columns.map columnSize).sum from (loop 0).trans (Nat.zero_add _)
  induction columns with
  | nil => exact fun start => rfl
  | cons col rest ih =>
      intro start
      rw [List.foldl_cons, ih, List.map_cons, List.sum_cons, Nat.add_assoc]

/-- Every value is taken to need between 1 and 300 bytes: so do the sizes of `type_sizes` and the
default `50`. -/
theorem columnSize_bounds (cqlType : Option (List Char)) :
    1 ≤ columnSize cqlType ∧ columnSize cqlType ≤ 300 := by
  have sized : ∀ entry ∈ typeSizes, 1 ≤ entry.2 ∧ entry.2 ≤ 300 := by decide
  unfold columnSize
  cases found : typeSizes.lookup (columnTypeName cqlType) with
  | none => decide
  | some size =>
      obtain ⟨before, after, split, -⟩ := List.lookup_eq_some_iff.mp found
      exact sized _ (split ▸ List.mem_append_right before (List.mem_cons_self _ after))

theorem sum_columnSize_bounds (columns : List (Option (List Char))) :
    columns.length ≤ (columns.map columnSize).sum ∧
      (columns.map columnSize).sum ≤ 300 * columns.length := by
  induction columns with
  | nil => simp
  | cons col rest ih =>
      have bounds := columnSize_bounds col
      simp only [List.map_cons, List.sum_cons, List.length_cons]
      omega

/-! ### The tips -/

theorem getMemoryTips_eq_nil (sizeBytes : Int) :
    getMemoryTips sizeBytes = [] ↔ sizeBytes ≤ 100 * (1024 * 1024) := by
  unfold getMemoryTips
  split_ifs <;> simp <;> omega

theorem Char.toLower_cases (c : Char) : c.toLower = c ∨ c.toLower.isLower = true := by
  unfold Char.toLower
  dsimp only
  split
  · rename_i upper
    have valid : (c.toNat + 32).isValidChar := Or.inl (by omega)
    refine .inr ?_
    simp only [Char.isLower, Char.ofNat, Char.ofNatAux, dif_pos valid, Bool.and_eq_true,
      decide_eq_true_eq]
    constructor <;> simp [UInt32.le_def, BitVec.le_def] <;> omega
  · exact .inl rfl

/-- Lower case keeps a character that is not whitespace out of whitespace. -/
theorem isSpace_toLower {c : Char} (notSpace : isSpace c = false) : isSpace c.toLower = false := by
  rcases Char.toLower_cases c with same | lowerCase
  · rwa [same]
  · exact isSpace_of_isAlpha (by simp [Char.isAlpha, lowerCase])

/-- The estimate reads the type name of a type without whitespace as `cqlite/types.py` reads its
base type. -/
theorem columnTypeName_eq_baseTypeOf {cqlType : List Char}
    (noSpace : ∀ c ∈ cqlType, isSpace c = false) :
    columnTypeName (some cqlType) = baseTypeOf cqlType := by
  have lowered : ∀ c ∈ columnTypeName (some cqlType), isSpace c = false := by
    simp only [columnTypeName, Option.getD_some, lower, headD_splitOn, List.mem_map]
    rintro _ ⟨c, member, rfl⟩
    exact isSpace_toLower (noSpace c ((List.takeWhile_sublist _).subset member))
  exact (stripBy_eq_self (fun c member => lowered c (List.mem_of_mem_head? member))
    fun c member => lowered c (List.mem_of_mem_getLast? member)).symm

theorem columnTypeName_eq_baseTypeOf_int :
    (∀ c ∈ "int".toList, isSpace c = false) ∧
      columnTypeName (some "int".toList) = baseTypeOf "int".toList :=
  have noSpace : ∀ c ∈ "int".toList, isSpace c = false := by decide
  ⟨noSpace, columnTypeName_eq_baseTypeOf noSpace⟩

/-- With whitespace before it, a type the type module reads as `int` is taken at the default
50 bytes instead of 4. -/
example : baseTypeOf " int".toList = "int".toList ∧ columnSize (some " int".toList) = 50 := by
  decide

/-! ### The columns of a parsed schema -/

/-- The words of `split()` have no whitespace. -/
theorem splitWords_noSpace (s : List Char) {word : List Char}
    (plain : ∀ c ∈ word, isSpace c = false) :
    ∀ piece ∈ splitWords s word, ∀ c ∈ piece, isSpace c = false := by
  induction s generalizing word with
  | nil =>
      unfold splitWords
      split_ifs
      · simp
      · simpa using plain
  | cons d rest ih =>
      have later := @ih [] (by simp)
      unfold splitWords
      by_cases space : isSpace d
      · simp only [if_pos space]
        split_ifs
        · exact later
        · exact List.forall_mem_cons.mpr ⟨plain, later⟩
      · simp only [space, Bool.false_eq_true, if_false]
        refine ih fun c member => ?_
        rcases List.mem_append.mp member with inWord | last
        · exact plain c inWord
        · simpa [List.mem_singleton.mp last] using space

theorem stripBy_sublist (remove : Char → Bool) (s : List Char) : (stripBy remove s).Sublist s := by
  have inner := List.reverse_sublist.mpr
    (List.dropWhile_sublist (l := (s.dropWhile remove).reverse) remove)
  rw [List.reverse_reverse] at inner
  exact inner.trans (List.dropWhile_sublist _)

/-- The column loop keeps types without whitespace: each is a word of `split()` stripped of
commas. -/
theorem columnLines_noSpace (inColumns : Bool) (lines : List (List Char)) :
    ∀ col ∈ columnLines inColumns lines, ∀ c ∈ col.cqlType, isSpace c = false := by
  induction lines generalizing inColumns with
  | nil => simp [columnLines]
  | cons line rest ih =>
      unfold columnLines
      split_ifs
      · exact ih true
      · simp
      · rcases words : split (strip line) with _ | ⟨colName, _ | ⟨colType, more⟩⟩
        · exact ih inColumns
        · exact ih inColumns
        · intro col member
          rcases List.mem_cons.mp member with rfl | later
          · intro c inType
            have word : colType ∈ split (strip line) := by simp [words]
            exact splitWords_noSpace _ (by simp) colType word c
              ((stripBy_sublist _ colType).subset inType)
          · exact ih inColumns col later
      · exact ih inColumns

/-- On the columns that `create_schema_from_cql` returns, the estimate reads the type names as
`cqlite/types.py` reads the base types. -/
theorem createSchemaFromCql_columnTypeName (cqlStatement : List Char) :
    (createSchemaFromCql cqlStatement).columns.map (fun col => columnTypeName (some col.cqlType)) =
      (createSchemaFromCql cqlStatement).columns.map (fun col => baseTypeOf col.cqlType) :=
  List.map_congr_left fun col member =>
    columnTypeName_eq_baseTypeOf (columnLines_noSpace _ _ col member)

end Cqlite.Utils
