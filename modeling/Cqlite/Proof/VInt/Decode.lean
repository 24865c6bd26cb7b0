import Cqlite.Construction.VInt
import Mathlib.Data.Nat.Bitwise
import Mathlib.Tactic.Ring
import Mathlib.Tactic.Linarith

/-!
What `decode_vint` accepts and returns: exactly the strings whose length the first byte's leading
1-bits declare, each decoded to a signed 64-bit integer.
-/

namespace Cqlite.VInt

/-- The number of leading 1-bits of a byte, `lead` in the VInt format. -/
def leadingOnes (byte : UInt8) : Nat :=
  ((List.range 8).takeWhile fun i => byte.toNat.testBit (7 - i)).length

/-- At its `k`-th iteration the loop tests bit `7 - k` of the byte. -/
theorem shiftLeft_and_0x80 (byte : Nat) {k : Nat} (below : k ≤ 7) :
    byte <<< k &&& 0x80 ≠ 0 ↔ byte.testBit (7 - k) = true := by
  rw [show (0x80 : Nat) = 2 ^ 7 from rfl, Nat.and_two_pow, Nat.testBit_shiftLeft]
  cases byte.testBit (7 - k) <;> simp [below]

/-- The loop counts the set bits from bit `7 - k` down to the first clear one. -/
theorem countExtraBytes_shiftLeft (byte : Nat) (fuel : Nat) : ∀ k, k + fuel = 8 →
    countExtraBytes fuel (byte <<< k) k =
      k + ((List.range' k fuel).takeWhile fun i => byte.testBit (7 - i)).length := by
  induction fuel with
  | zero => intro k _; simp [countExtraBytes]
  | succ fuel ih =>
      intro k total
      have bit := shiftLeft_and_0x80 byte (show k ≤ 7 by omega)
      rw [countExtraBytes, List.range'_succ, List.takeWhile_cons]
      by_cases set : byte.testBit (7 - k) = true
      · rw [if_pos ⟨bit.mpr set, by omega⟩, if_pos set, ← Nat.shiftLeft_add,
          ih (k + 1) (by omega)]
        simp only [List.length_cons]
        omega
      · rw [if_neg (fun h => set (bit.mp h.1)), if_neg set]
        simp

/-- The loop of `decode_vint` computes `lead` of the first byte. -/
theorem extraBytesOf_eq_leadingOnes (byte : UInt8) : extraBytesOf byte = leadingOnes byte := by
  have loop := countExtraBytes_shiftLeft byte.toNat 8 0 rfl
  rw [Nat.shiftLeft_zero, Nat.zero_add] at loop
  rw [extraBytesOf, loop, leadingOnes, List.range_eq_range']

/-- `count` leading 1-bits: bits `7, 6, …, 8 - count` are set and, below eight, bit `7 - count` is
clear. -/
def LeadingOnes (byte count : Nat) : Prop :=
  count ≤ 8 ∧ (∀ i < count, byte.testBit (7 - i) = true) ∧
    (count < 8 → byte.testBit (7 - count) = false)

/-- A byte has one count of leading 1-bits. -/
theorem LeadingOnes.unique {byte first second : Nat} (one : LeadingOnes byte first)
    (other : LeadingOnes byte second) : first = second := by
  obtain ⟨firstBound, firstSet, firstClear⟩ := one
  obtain ⟨secondBound, secondSet, secondClear⟩ := other
  rcases Nat.lt_trichotomy first second with lt | eq | gt
  · have clear := firstClear (by omega)
    rw [secondSet first lt] at clear
    cases clear
  · exact eq
  · have clear := secondClear (by omega)
    rw [firstSet second gt] at clear
    cases clear

/-- The loop stops at the first clear bit, or after eight set bits. -/
theorem countExtraBytes_leadingOnes (byte fuel : Nat) : ∀ k, k + fuel = 8 →
    (∀ i < k, byte.testBit (7 - i) = true) →
      LeadingOnes byte (countExtraBytes fuel (byte <<< k) k) := by
  induction fuel with
  | zero =>
      intro k total set
      exact ⟨by simp [countExtraBytes]; omega, set, fun lt => by simp [countExtraBytes] at lt; omega⟩
  | succ fuel ih =>
      intro k total set
      have bit := shiftLeft_and_0x80 byte (show k ≤ 7 by omega)
      rw [countExtraBytes]
      by_cases high : byte.testBit (7 - k) = true
      · rw [if_pos ⟨bit.mpr high, by omega⟩, ← Nat.shiftLeft_add]
        exact ih (k + 1) (by omega) fun i lt => by
          rcases Nat.lt_succ_iff_lt_or_eq.mp lt with lt | rfl
          · exact set i lt
          · exact high
      · rw [if_neg (fun h => high (bit.mp h.1))]
        exact ⟨by omega, set, fun _ => by simpa using high⟩

/-- The loop counts the leading 1-bits of the first byte. -/
theorem extraBytesOf_spec (byte : UInt8) : LeadingOnes byte.toNat (extraBytesOf byte) := by
  have loop := countExtraBytes_leadingOnes byte.toNat 8 0 rfl (fun i lt => absurd lt (by omega))
  rwa [Nat.shiftLeft_zero] at loop


/-- `decode_vint` on a non-empty string compares its length with the declared one. -/
theorem decodeVint_cons (first : UInt8) (rest : List UInt8) :
    decodeVint (first :: rest) =
      if rest.length = extraBytesOf first then .ok (zigzagDecode (vintValue first (extraBytesOf first) rest))
      else .error (.valueError
        s!"VInt length mismatch: expected {extraBytesOf first + 1}, got {rest.length + 1}") := by
  rw [decodeVint]
  by_cases same : rest.length = extraBytesOf first
  · simp [same]
  · simp [same, show rest.length + 1 ≠ extraBytesOf first + 1 by omega]

/-- `decode_vint` accepts exactly the strings whose length its first byte declares. -/
theorem decodeVint_ok_iff (vintBytes : List UInt8) :
    (∃ value, decodeVint vintBytes = .ok value) ↔
      ∃ first rest, vintBytes = first :: rest ∧ vintBytes.length = 1 + leadingOnes first := by
  cases vintBytes with
  | nil => simp [decodeVint]
  | cons first rest =>
      rw [decodeVint_cons, extraBytesOf_eq_leadingOnes]
      by_cases same : rest.length = leadingOnes first <;> simp [same] <;> omega

/-- Every failure of `decode_vint` is a `ValueError`. -/
theorem decodeVint_error_kind {vintBytes : List UInt8} {error : PyException}
    (failed : decodeVint vintBytes = .error error) : error.kind = .valueError := by
  cases vintBytes with
  | nil => simp only [decodeVint, Except.error.injEq] at failed; rw [← failed]; rfl
  | cons first rest =>
      rw [decodeVint_cons] at failed
      split at failed
      · cases failed
      · simp only [Except.error.injEq] at failed; rw [← failed]; rfl

/-- ZigZag decoding maps even values to halves and odd values to negatives. -/
theorem zigzagDecode_eq (value : Nat) :
    zigzagDecode value =
      if value % 2 = 0 then ((value / 2 : Nat) : Int) else -((value / 2 : Nat) : Int) - 1 := by
  rw [zigzagDecode, Nat.and_one_is_mod, Nat.shiftRight_one]
  generalize value / 2 = half
  by_cases even : value % 2 = 0
  · simp only [even, ne_eq, not_true_eq_false, if_false, if_true]
    show Int.xor (Int.ofNat half) (Int.ofNat 0) = _
    simp [Int.xor]
  · simp only [even, ne_eq, not_false_eq_true, if_false, if_true]
    show Int.xor (Int.ofNat half) (Int.negSucc 0) = _
    simp [Int.xor, Int.negSucc_eq]
    omega

/-- A value below `high * base` with its low digit below `base`. -/
theorem mul_add_lt_mul {high base digit low : Nat} (highLt : high < digit) (lowLt : low < base) :
    high * base + low < digit * base :=
  calc high * base + low < high * base + base := Nat.add_lt_add_left lowLt _
    _ = (high + 1) * base := by ring
    _ ≤ digit * base := Nat.mul_le_mul_right _ highLt

/-- The big-endian value of a byte string, as the loop `value = (value << 8) | byte` reads it. -/
def bytesValue (bytes : List UInt8) : Nat :=
  bytes.foldl (fun value byte => (value <<< 8) ||| byte.toNat) 0

/-- Shifting in a byte appends a base-256 digit. -/
theorem shiftOr_byte (value : Nat) (byte : UInt8) :
    (value <<< 8) ||| byte.toNat = value * 256 + byte.toNat := by
  rw [Nat.shiftLeft_eq, Nat.mul_comm, ← Nat.mul_add_lt_is_or (UInt8.toNat_lt_size byte)]

/-- The loop puts the starting value above all the bytes it reads. -/
theorem foldl_shiftOr (bytes : List UInt8) : ∀ init : Nat,
    bytes.foldl (fun value byte => (value <<< 8) ||| byte.toNat) init =
      init * 256 ^ bytes.length + bytesValue bytes := by
  induction bytes with
  | nil => intro init; simp [bytesValue]
  | cons byte rest ih =>
      intro init
      simp only [bytesValue, List.foldl_cons, List.length_cons] at ih ⊢
      rw [ih, ih (0 <<< 8 ||| byte.toNat), shiftOr_byte, shiftOr_byte, Nat.pow_succ]
      ring

/-- The first byte is the highest base-256 digit. -/
theorem bytesValue_cons (byte : UInt8) (rest : List UInt8) :
    bytesValue (byte :: rest) = byte.toNat * 256 ^ rest.length + bytesValue rest := by
  rw [bytesValue, List.foldl_cons, foldl_shiftOr, shiftOr_byte, Nat.zero_mul, Nat.zero_add]

/-- `n` bytes hold a value below `256 ^ n`. -/
theorem bytesValue_lt (bytes : List UInt8) : bytesValue bytes < 256 ^ bytes.length := by
  induction bytes with
  | nil => simp [bytesValue]
  | cons byte rest ih =>
      rw [bytesValue_cons, List.length_cons, Nat.pow_succ, Nat.mul_comm _ 256]
      exact mul_add_lt_mul (UInt8.toNat_lt_size byte) ih

/-- How many magnitudes a VInt with `extraBytes` extra bytes can hold. -/
def capacity (extraBytes : Nat) : Nat := 2 ^ (7 - extraBytes) * 256 ^ extraBytes

/-- The magnitude is the first byte's value bits above the big-endian value of the other bytes. -/
theorem vintValue_eq (first : UInt8) {rest : List UInt8} {extraBytes : Nat}
    (declared : rest.length = extraBytes) :
    vintValue first extraBytes rest =
      first.toNat % 2 ^ (7 - extraBytes) * 256 ^ extraBytes + bytesValue rest := by
  subst declared
  unfold vintValue
  split
  · rename_i empty
    rw [List.length_eq_zero.mp empty, show (0x7F : Nat) = 2 ^ 7 - 1 from rfl,
      Nat.and_pow_two_sub_one_eq_mod, List.length_nil, Nat.pow_zero, Nat.mul_one]
    rfl
  · dsimp only
    rw [foldl_shiftOr]
    split
    · rw [if_pos (by omega), Nat.one_shiftLeft, Nat.and_pow_two_sub_one_eq_mod]
    · rw [if_neg (by omega), show 7 - rest.length = 0 by omega, Nat.pow_zero, Nat.mod_one]

/-- The magnitude that `decode_vint` reads fits the capacity of its length. -/
theorem vintValue_lt (first : UInt8) {rest : List UInt8} {extraBytes : Nat}
    (declared : rest.length = extraBytes) : vintValue first extraBytes rest < capacity extraBytes := by
  subst declared
  rw [vintValue_eq first rfl, capacity]
  exact mul_add_lt_mul (Nat.mod_lt _ (Nat.two_pow_pos _)) (bytesValue_lt rest)

/-- Up to eight extra bytes hold at most 64 bits. -/
theorem capacity_le {extraBytes : Nat} (within : extraBytes ≤ 8) : capacity extraBytes ≤ 2 ^ 64 := by
  rw [capacity, show (256 : Nat) = 2 ^ 8 from rfl, ← Nat.pow_mul, ← Nat.pow_add]
  exact Nat.pow_le_pow_right (by decide) (by omega)

/-- ZigZag decoding maps the 64-bit magnitudes onto the signed 64-bit integers. -/
theorem zigzagDecode_range (value : Nat) (bound : value < 2 ^ 64) :
    -2 ^ 63 ≤ zigzagDecode value ∧ zigzagDecode value ≤ 2 ^ 63 - 1 := by
  rw [zigzagDecode_eq]
  split <;> omega

/-- Every value that `decode_vint` returns is a signed 64-bit integer. -/
theorem decodeVint_range {vintBytes : List UInt8} {value : Int}
    (decoded : decodeVint vintBytes = .ok value) : -2 ^ 63 ≤ value ∧ value ≤ 2 ^ 63 - 1 := by
  cases vintBytes with
  | nil => cases decoded
  | cons first rest =>
      rw [decodeVint_cons] at decoded
      split at decoded
      · rename_i declared
        cases decoded
        apply zigzagDecode_range
        exact (vintValue_lt first declared).trans_le (capacity_le (extraBytesOf_spec first).1)
      · cases decoded

end Cqlite.VInt