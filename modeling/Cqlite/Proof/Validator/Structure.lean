import Cqlite.Construction.Structure

/-!
What the loops of `analyze_data_structure` count. The loop over windows of printable bytes stops one
window early, and the loop over blocks of 16 bytes stops one block early when the length is a
multiple of 16, so each misses its last full window or block. The loop over length-prefixed strings
stops four positions early but misses nothing, since no string fits after them, and it always has
the four bytes that `struct.unpack` reads. `data.count(b'org.apache')` counts every occurrence, since
the text cannot overlap itself.
-/

namespace Cqlite.Validator

/-- The loop adds one for each position where its test holds. -/
theorem countWhere_eq_countP (test : Nat → Bool) (positions : List Nat) :
    countWhere test positions = positions.countP test := by
  suffices fold : ∀ count : Nat,
      positions.foldl (fun count i => if test i then count + 1 else count) count =
        count + positions.countP test from (fold 0).trans (Nat.zero_add _)
  induction positions with
  | nil => exact fun count => rfl
  | cons i rest ih =>
      intro count
      rw [List.foldl_cons, ih, List.countP_cons]
      split <;> omega

/-- The loop over windows of 8 printable bytes counts every such window but the last: with the last
window it counts all of them. -/
theorem asciiSequences_add_last (data : List UInt8) :
    asciiSequences data +
        (if 8 ≤ data.length ∧ (window data (data.length - 8) 8).all isPrintable = true then 1 else 0) =
      (List.range (data.length + 1 - 8)).countP fun i => (window data i 8).all isPrintable := by
  rw [asciiSequences, countWhere_eq_countP]
  by_cases long : 8 ≤ data.length
  · rw [show data.length + 1 - 8 = data.length - 8 + 1 by omega, List.range_succ, List.countP_append,
      List.countP_singleton]
    simp only [long, true_and]
  · rw [if_neg fun ⟨enough, _⟩ => long enough, show data.length + 1 - 8 = 0 by omega,
      show data.length - 8 = 0 by omega, Nat.add_zero]

/-- The loop over blocks of 16 bytes counts every full block that is not all zero but the last one
when the length is a multiple of 16: with that block it counts all of them. -/
theorem uuidPatterns_add_last (data : List UInt8) :
    uuidPatterns data +
        (if data.length % 16 = 0 ∧ 16 ≤ data.length ∧
            (window data (data.length - 16) 16).any (· ≠ 0) = true then 1 else 0) =
      ((List.range (data.length / 16)).map (· * 16)).countP fun i => (window data i 16).any (· ≠ 0) := by
  rw [uuidPatterns, countWhere_eq_countP, rangeStep]
  by_cases whole : data.length % 16 = 0 ∧ 16 ≤ data.length
  · rw [show data.length / 16 = (data.length - 16 + 16 - 1) / 16 + 1 by omega, List.range_succ,
      List.map_append, List.countP_append, List.map_singleton, List.countP_singleton,
      show (data.length - 16 + 16 - 1) / 16 * 16 = data.length - 16 by omega]
    simp only [whole, true_and]
  · rw [if_neg fun ⟨multiple, long, _⟩ => whole ⟨multiple, long⟩,
      show (data.length - 16 + 16 - 1) / 16 = data.length / 16 by omega, Nat.add_zero]

/-- No string of at least one byte follows a length read in the last four positions. -/
theorem lengthPrefixedAt_of_le {data : List UInt8} {i : Nat} (late : data.length ≤ i + 4) :
    lengthPrefixedAt data i = false := by
  simp only [lengthPrefixedAt, Bool.and_eq_false_iff, decide_eq_false_iff_not]
  omega

/-- The loop over length-prefixed strings reads four bytes at each of its positions and, though it
stops four positions early, counts every position where a length-prefixed string starts. -/
theorem lengthPrefixedStrings_eq (data : List UInt8) :
    (∀ i ∈ List.range (data.length - 4), (window data i 4).length = 4) ∧
      lengthPrefixedStrings data = (List.range data.length).countP (lengthPrefixedAt data) := by
  refine ⟨fun i member => ?_, ?_⟩
  · have inside := List.mem_range.mp member
    simp only [window, List.length_take, List.length_drop]
    omega
  · have positions : List.range data.length = List.range (data.length - 4) ++
        (List.range (data.length - (data.length - 4))).map (data.length - 4 + ·) := by
      rw [← List.range_add, Nat.add_sub_cancel' (Nat.sub_le _ _)]
    have late : ((List.range (data.length - (data.length - 4))).map (data.length - 4 + ·)).countP
        (lengthPrefixedAt data) = 0 :=
      List.countP_eq_zero.mpr fun i member => by
        obtain ⟨offset, inside, rfl⟩ := List.mem_map.mp member
        have := List.mem_range.mp inside
        rw [lengthPrefixedAt_of_le (by omega)]
        exact Bool.false_ne_true
    rw [lengthPrefixedStrings, countWhere_eq_countP, positions, List.countP_append, late, Nat.add_zero]

/-! ### `data.count` -/

/-- A text that cannot overlap itself: none of its proper suffixes starts it. -/
def SelfDisjoint (sub : List UInt8) : Prop := ∀ k ∈ List.range sub.length, 0 < k → ¬ sub.drop k <+: sub

instance : DecidablePred SelfDisjoint := fun sub =>
  inferInstanceAs (Decidable (∀ k ∈ List.range sub.length, 0 < k → ¬ sub.drop k <+: sub))

/-- Where no occurrence of a nonempty text that cannot overlap itself starts in the first `skip`
bytes, the search counts every occurrence. -/
theorem countFrom_eq {sub : List UInt8} (nonempty : sub ≠ []) (disjoint : SelfDisjoint sub) :
    ∀ (skip : Nat) (data : List UInt8), (∀ j < skip, ¬ sub <+: data.drop j) →
      countFrom sub skip data = data.tails.countP sub.isPrefixOf
  | _, [], _ => by
      obtain ⟨first, rest, rfl⟩ := List.exists_cons_of_ne_nil nonempty
      simp [countFrom, List.isPrefixOf]
  | skip + 1, byte :: rest, clear => by
      have absent : sub.isPrefixOf (byte :: rest) = false :=
        Bool.eq_false_iff.mpr fun found => clear 0 (Nat.succ_pos _) (List.isPrefixOf_iff_prefix.mp found)
      rw [countFrom, countFrom_eq nonempty disjoint skip rest fun j below => clear (j + 1) (by omega),
        List.tails_cons, List.countP_cons, absent]
      rfl
  | 0, byte :: rest, _ => by
      rw [countFrom, List.tails_cons, List.countP_cons]
      split
      · rename_i found
        refine congrArg (· + 1) (countFrom_eq nonempty disjoint _ rest fun j below occurs => ?_)
        have tail : sub.drop (j + 1) <+: rest.drop j := (List.isPrefixOf_iff_prefix.mp found).drop (j + 1)
        exact disjoint (j + 1) (List.mem_range.mpr (by omega)) (Nat.succ_pos _)
          (List.prefix_of_prefix_length_le tail occurs (by simp))
      · rw [countFrom_eq nonempty disjoint 0 rest fun j below => absurd below (by omega)]
        rfl

/-- `data.count(b'org.apache')` counts every occurrence of `org.apache` in the data. -/
theorem byteCount_javaReferences (data : List UInt8) :
    byteCount data (asciiBytes "org.apache") = data.tails.countP (asciiBytes "org.apache").isPrefixOf :=
  countFrom_eq (by decide) (by decide) 0 data fun j below => absurd below (by omega)

end Cqlite.Validator
