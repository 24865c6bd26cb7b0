import Cqlite.Construction.Validator
import Mathlib.Algebra.BigOperators.Group.List
import Mathlib.Algebra.Order.Ring.Nat

/-!
The summary of `run_compatibility_tests` against the results it lists. Every step of the run records
the file result it appends, so over a whole run the counters count exactly the listed results: each
tested file once, as a success or a failure, the recognised magic numbers of the listed results,
and their VInt samples.
-/

namespace Cqlite.Validator

/-- A file test that read its file. -/
def FileResult.succeeded : FileResult → Bool
  | .success .. => true
  | .failure .. => false

/-- A file test whose magic number names a known format: `format_recognized` of a `Data.db` file. -/
def FileResult.magicRecognized : FileResult → Bool
  | .success _ _ magic _ => (magic.map MagicAnalysis.formatRecognized).getD false
  | .failure .. => false

/-- The VInt samples that a file test found, and how many of them were valid. -/
def FileResult.vintCounts : FileResult → Nat × Nat
  | .success _ _ _ vint => (vint.samplesFound, vint.validSamples)
  | .failure .. => (0, 0)

/-- The counters of a summary count the file results listed so far. -/
structure Summary.Counts (summary : Summary) (files : List FileResult) : Prop where
  totalFiles : summary.totalFiles = files.length
  successfulTests : summary.successfulTests = files.countP FileResult.succeeded
  failedTests : summary.failedTests = files.countP fun result => !result.succeeded
  magicNumbersValid : summary.magicNumbersValid = files.countP FileResult.magicRecognized
  totalVintSamples : summary.totalVintSamples = (files.map fun result => result.vintCounts.1).sum
  vintSamplesValid : summary.vintSamplesValid = (files.map fun result => result.vintCounts.2).sum

/-- The counters of a run's results: those of the listed results when the run tested the
directory. -/
def CompatibilityResults.Counted : CompatibilityResults → Prop
  | .notFound _ => True
  | .tested tablesTested summary => summary.Counts (tablesTested.map Prod.snd).flatten

theorem Summary.counts_initial : Summary.initial.Counts [] :=
  ⟨rfl, rfl, rfl, rfl, rfl, rfl⟩

/-- Recording a file result counts it. -/
theorem Summary.Counts.record {summary : Summary} {files : List FileResult}
    (counts : summary.Counts files) (result : FileResult) :
    (summary.record result).Counts (files ++ [result]) := by
  obtain ⟨total, successful, failed, magic, found, valid⟩ := counts
  refine ⟨?_, ?_, ?_, ?_, ?_, ?_⟩ <;>
    simp only [List.length_append, List.countP_append, List.map_append, List.sum_append,
      List.countP_singleton, List.map_singleton, List.sum_singleton, ← total, ← successful,
      ← failed, ← magic, ← found, ← valid] <;>
    cases result <;> rfl

/-- An entry of a table directory keeps the counters on the results listed before the table and
the table's results so far. -/
theorem testEntry_counts {before : List FileResult} {state : List FileResult × Summary}
    (counts : state.2.Counts (before ++ state.1)) (entry : DirectoryEntry) :
    (testEntry state entry).2.Counts (before ++ (testEntry state entry).1) := by
  unfold testEntry
  split
  · simpa only [List.append_assoc] using counts.record _
  · exact counts

/-- A table directory keeps the counters on the listed results: a table with no tested file is not
listed, and records nothing. -/
theorem testTableDirectory_counts {state : List (List Char × List FileResult) × Summary}
    (counts : state.2.Counts (state.1.map Prod.snd).flatten) (table : TableDirectory) :
    (testTableDirectory state table).2.Counts
      ((testTableDirectory state table).1.map Prod.snd).flatten := by
  unfold testTableDirectory
  split
  · have inner := List.foldlRecOn
      (motive := fun tested => tested.2.Counts ((state.1.map Prod.snd).flatten ++ tested.1))
      table.entries testEntry ([], state.2) (by simpa using counts)
      fun tested counts entry _ => testEntry_counts counts entry
    generalize table.entries.foldl testEntry ([], state.2) = tested at inner ⊢
    obtain ⟨files, summary⟩ := tested
    by_cases empty : files = []
    · subst empty
      simpa using inner
    · simpa [empty] using inner
  · exact counts

end Cqlite.Validator
