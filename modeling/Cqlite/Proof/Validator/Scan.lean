import Cqlite.Construction.Validator
import Cqlite.Proof.VInt.Decode

/-!
The VInt scan of the validator never records an invalid sample: the window it hands to
`decode_vint` always has the length its first byte declares. The windows are disjoint and in order,
and the summary's two VInt counters are equal for every directory tree.
-/

namespace Cqlite.Validator

open VInt

/-- What the scan promises of one sample: `decode_vint` accepted its window, which starts at a
non-zero byte, has the length that byte declares, and lies inside the data. -/
def SampleOf (data : List UInt8) (sample : VintSample) : Prop :=
  sample.valid = true ∧ ∃ firstByte, data[sample.position]? = some firstByte ∧ firstByte ≠ 0 ∧
    sample.length = 1 + leadingOnes firstByte ∧ sample.position + sample.length ≤ data.length

/-- Each window ends before the next one starts. -/
def Ordered (samples : List VintSample) : Prop :=
  samples.Pairwise fun earlier later => earlier.position + earlier.length ≤ later.position

/-- The loop invariant of the scan at `position`. -/
structure ScanInvariant (data : List UInt8) (maxSamples : Int) (position : Nat)
    (samples : List VintSample) : Prop where
  sampled : ∀ sample ∈ samples, SampleOf data sample
  ordered : Ordered samples
  behind : ∀ sample ∈ samples, sample.position + sample.length ≤ position
  bounded : (samples.length : Int) ≤ max maxSamples 0

/-- A window of the declared length starting at a byte of the data is accepted by `decode_vint`. -/
theorem decodeVint_window {data : List UInt8} {position : Nat} {firstByte : UInt8}
    (at_ : data[position]? = some firstByte)
    (inside : position + (extraBytesOf firstByte + 1) ≤ data.length) :
    ∃ value, decodeVint ((data.drop position).take (extraBytesOf firstByte + 1)) = .ok value := by
  obtain ⟨within, read⟩ := List.getElem?_eq_some_iff.mp at_
  rw [List.drop_eq_getElem_cons within, read, List.take_succ_cons, decodeVint_cons,
    if_pos (by simp; omega)]
  exact ⟨_, rfl⟩

/-- Appending the sample at `position` keeps the invariant at the end of its window. -/
theorem ScanInvariant.append {data : List UInt8} {maxSamples : Int} {position : Nat}
    {samples : List VintSample} (invariant : ScanInvariant data maxSamples position samples)
    (room : (samples.length : Int) < maxSamples) {firstByte : UInt8}
    (at_ : data[position]? = some firstByte) (nonzero : firstByte ≠ 0)
    (inside : position + (extraBytesOf firstByte + 1) ≤ data.length) :
    ScanInvariant data maxSamples (position + (extraBytesOf firstByte + 1))
      (samples ++ [⟨position, extraBytesOf firstByte + 1,
        hex ((data.drop position).take (extraBytesOf firstByte + 1)),
        (decodeVint ((data.drop position).take (extraBytesOf firstByte + 1))).mapError
          (·.message)⟩]) := by
  obtain ⟨value, decoded⟩ := decodeVint_window at_ inside
  refine ⟨?_, ?_, ?_, ?_⟩
  · intro sample member
    rcases List.mem_append.mp member with old | new
    · exact invariant.sampled sample old
    · rw [List.mem_singleton.mp new]
      refine ⟨by simp [VintSample.valid, decoded, Except.mapError], firstByte, at_, nonzero, ?_, inside⟩
      rw [extraBytesOf_eq_leadingOnes, Nat.add_comm]
  · exact List.pairwise_append.mpr ⟨invariant.ordered, List.pairwise_singleton _ _,
      fun earlier old later new => by
        rw [List.mem_singleton.mp new]; exact invariant.behind earlier old⟩
  · intro sample member
    rcases List.mem_append.mp member with old | new
    · exact (invariant.behind sample old).trans (by omega)
    · rw [List.mem_singleton.mp new]
  · have := invariant.bounded
    simp only [List.length_append, List.length_singleton, Nat.cast_add, Nat.cast_one]
    omega

/-- Skipping a byte keeps the invariant. -/
theorem ScanInvariant.skip {data : List UInt8} {maxSamples : Int} {position : Nat}
    {samples : List VintSample} (invariant : ScanInvariant data maxSamples position samples) :
    ScanInvariant data maxSamples (position + 1) samples :=
  ⟨invariant.sampled, invariant.ordered,
    fun sample member => (invariant.behind sample member).trans (Nat.le_succ _), invariant.bounded⟩

/-- Every run of the scan from an invariant state returns samples that keep the invariant. -/
theorem findVintPatternsFrom_invariant (data : List UInt8) (maxSamples : Int) (position : Nat)
    (samples : List VintSample) (invariant : ScanInvariant data maxSamples position samples) :
    ∃ finish, ScanInvariant data maxSamples finish
      (findVintPatternsFrom data maxSamples position samples) := by
  induction position, samples using findVintPatternsFrom.induct data maxSamples with
  | case1 position samples more missing ih =>
      rw [findVintPatternsFrom, if_pos more, missing]
      exact ih invariant.skip
  | case2 position samples more zero ih =>
      rw [findVintPatternsFrom, if_pos more, zero]
      exact ih invariant.skip
  | case3 position samples more firstByte at_ nonzero totalLength inside vintBytes sample ih =>
      rw [findVintPatternsFrom, if_pos more, at_]
      simp only [nonzero, if_false, if_pos inside]
      exact ih (invariant.append more.2 at_ nonzero inside)
  | case4 position samples more firstByte at_ nonzero totalLength outside ih =>
      rw [findVintPatternsFrom, if_pos more, at_]
      simp only [nonzero, if_false, if_neg outside]
      exact ih invariant.skip
  | case5 position samples done =>
      rw [findVintPatternsFrom, if_neg done]
      exact ⟨position, invariant⟩

/-- The samples of a whole scan: accepted windows, in order, at most `max max_samples 0`. -/
theorem findVintPatterns_sampled (data : List UInt8) (maxSamples : Int) :
    ((findVintPatterns data maxSamples).length : Int) ≤ max maxSamples 0 ∧
      (∀ sample ∈ findVintPatterns data maxSamples, SampleOf data sample) ∧
      Ordered (findVintPatterns data maxSamples) := by
  obtain ⟨_, invariant⟩ := findVintPatternsFrom_invariant data maxSamples 0 []
    ⟨by simp, List.Pairwise.nil, by simp, by simp⟩
  exact ⟨invariant.bounded, invariant.sampled, invariant.ordered⟩

/-- Every sample that a file test reports is valid. -/
theorem validSamples_eq (data : List UInt8) :
    ((findVintPatterns data).filter (·.valid)).length = (findVintPatterns data).length := by
  rw [List.filter_eq_self.mpr fun sample member =>
    ((findVintPatterns_sampled data 10).2.1 sample member).1]

/-- The two VInt counters of a summary agree. -/
def Summary.Agrees (summary : Summary) : Prop := summary.vintSamplesValid = summary.totalVintSamples

/-- Recording a file test keeps the VInt counters equal. -/
theorem Summary.record_agrees {summary : Summary} (agrees : summary.Agrees) (name : List Char)
    (contents : Except PyException (List UInt8)) :
    (summary.record (testFileCompatibility name contents)).Agrees := by
  cases contents with
  | error error => exact agrees
  | ok data =>
      simp only [testFileCompatibility, Summary.record, Summary.Agrees, validSamples_eq]
      rw [agrees]

/-- A table directory keeps the VInt counters equal. -/
theorem testTableDirectory_agrees {state : List (List Char × List FileResult) × Summary}
    (agrees : state.2.Agrees) (table : TableDirectory) : (testTableDirectory state table).2.Agrees := by
  unfold testTableDirectory
  split
  · exact List.foldlRecOn (motive := fun state => state.2.Agrees) table.entries testEntry
      ([], state.2) agrees fun state agrees entry _ => by
        unfold testEntry; split
        · exact Summary.record_agrees agrees _ _
        · exact agrees
  · exact agrees

/-- The scan's samples are accepted windows of the data, in order and non-overlapping, at most
`max max_samples 0` of them; so the summary counts every sample as valid. -/
theorem findVintPatterns_allValid :
    (∀ (data : List UInt8) (maxSamples : Int),
      ((findVintPatterns data maxSamples).length : Int) ≤ max maxSamples 0 ∧
      (∀ sample ∈ findVintPatterns data maxSamples, SampleOf data sample) ∧
      Ordered (findVintPatterns data maxSamples)) ∧
    (∀ testDataPath pathExists tables tablesTested summary,
      runCompatibilityTests testDataPath pathExists tables = .tested tablesTested summary →
      summary.vintSamplesValid = summary.totalVintSamples) := by
  refine ⟨findVintPatterns_sampled, fun testDataPath pathExists tables tablesTested summary ran => ?_⟩
  unfold runCompatibilityTests at ran
  split at ran
  · have agrees := List.foldlRecOn (motive := fun state => state.2.Agrees) tables
      testTableDirectory ([], Summary.initial) rfl fun state agrees table _ =>
        testTableDirectory_agrees agrees table
    simp only [CompatibilityResults.tested.injEq] at ran
    rw [← ran.2]
    exact agrees
  · cases ran

/-- With a negative limit the scan returns no sample, which is more than the limit. -/
theorem findVintPatterns_negativeLimit : ¬ ((findVintPatterns [] (-1)).length : Int) ≤ -1 := by
  rw [findVintPatterns, findVintPatternsFrom]
  simp

end Cqlite.Validator
