import Cqlite.Proof.VInt.Decode

/-!
Cassandra's canonical VInt encoding, as the format defines it, and the round trip with `decode_vint`
in both directions: every signed 64-bit integer comes back, and every accepted string of shortest
length is the encoding of what it decodes to.
-/

namespace Cqlite.VInt

/-- The high digit of a two-digit number. -/
theorem mul_add_div {high base low : Nat} (lowLt : low < base) : (high * base + low) / base = high := by
  rw [Nat.add_comm, Nat.add_mul_div_right _ _ (by omega), Nat.div_eq_of_lt lowLt, Nat.zero_add]

/-- A signed 64-bit integer is its own balanced residue modulo `2 ^ 64`. -/
theorem bmod_of_range {x : Int} (low : -2 ^ 63 ≤ x) (high : x ≤ 2 ^ 63 - 1) :
    x.bmod (2 ^ 64) = x := by
  rw [Int.bmod_def]
  split <;> omega

/-- Cassandra's ZigZag encoding of a signed 64-bit value, `(v << 1) ^ (v >> 63)` read unsigned. -/
def zigzagEncode (v : BitVec 64) : Nat := ((v <<< 1) ^^^ v.sshiftRight 63).toNat

/-- A 64-bit word below `2 ^ 63` shifts right by 63 to zero. -/
theorem ushiftRight_63_eq_zero {x : BitVec 64} (small : x.toNat < 2 ^ 63) : x >>> 63 = 0#64 := by
  apply BitVec.eq_of_toNat_eq
  rw [BitVec.toNat_ushiftRight, Nat.shiftRight_eq_div_pow, Nat.div_eq_of_lt small]
  rfl

/-- ZigZag encoding maps `v ≥ 0` to `2v` and `v < 0` to `-2v - 1`. -/
theorem zigzagEncode_eq (v : BitVec 64) :
    (zigzagEncode v : Int) = if 0 ≤ v.toInt then 2 * v.toInt else -2 * v.toInt - 1 := by
  have bound := v.isLt
  rw [zigzagEncode, BitVec.toInt_eq_toNat_cond]
  cases sign : v.msb with
  | false =>
      have small := BitVec.msb_eq_false_iff_two_mul_lt.mp sign
      rw [BitVec.sshiftRight_eq_of_msb_false sign, ushiftRight_63_eq_zero (by omega),
        BitVec.xor_zero, BitVec.toNat_shiftLeft, Nat.shiftLeft_eq]
      simp only [small, if_true]
      rw [Nat.mod_eq_of_lt (by omega)]
      push_cast; split <;> omega
  | true =>
      have large := BitVec.msb_eq_true_iff_two_mul_ge.mp sign
      have flipped : (~~~v).toNat < 2 ^ 63 := by rw [BitVec.toNat_not]; omega
      rw [BitVec.sshiftRight_eq_of_msb_true sign, ushiftRight_63_eq_zero flipped,
        BitVec.not_zero, BitVec.xor_allOnes, BitVec.toNat_not, BitVec.toNat_shiftLeft,
        Nat.shiftLeft_eq]
      simp only [show ¬ 2 * v.toNat < 2 ^ 64 by omega, if_false]
      rw [show v.toNat * 2 ^ 1 % 2 ^ 64 = v.toNat * 2 - 2 ^ 64 by omega]
      split <;> omega

/-- ZigZag decoding undoes ZigZag encoding. -/
theorem zigzagDecode_zigzagEncode (v : BitVec 64) : zigzagDecode (zigzagEncode v) = v.toInt := by
  have encoded := zigzagEncode_eq v
  rw [zigzagDecode_eq]
  split <;> split at encoded <;> omega


/-- A byte keeps the low eight bits of a number. -/
theorem toNat_ofNat_byte (n : Nat) : (UInt8.ofNat n).toNat = n % 256 := by
  simp [UInt8.toNat, UInt8.ofNat, BitVec.toNat_ofNat]

/-- The least `e` in `0..7` with `n < 2 ^ (7 + 7e)`; `8` when `n` needs more than 56 bits. -/
def encodedExtraBytes (n : Nat) : Nat :=
  ((List.range 8).find? fun e => n < 2 ^ (7 + 7 * e)).getD 8

/-- The first byte: `e` one-bits, then below eight a zero bit and the top `7 - e` bits of `n`. -/
def encodedFirstByte (extraBytes n : Nat) : UInt8 :=
  UInt8.ofNat ((2 ^ extraBytes - 1) <<< (8 - extraBytes) |||
    if extraBytes < 7 then n >>> (8 * extraBytes) else 0)

/-- The low `8e` bits of `n`, big-endian. -/
def lowBytes (extraBytes n : Nat) : List UInt8 :=
  (List.range extraBytes).reverse.map fun i => UInt8.ofNat (n >>> (8 * i))

/-- Cassandra's canonical VInt encoding of a signed 64-bit value. -/
def vintEncode (v : BitVec 64) : List UInt8 :=
  let n := zigzagEncode v
  let extraBytes := encodedExtraBytes n
  encodedFirstByte extraBytes n :: lowBytes extraBytes n

/-- The capacity of `e` extra bytes, as a power of two. -/
theorem capacity_eq (extraBytes : Nat) : capacity extraBytes = 2 ^ (7 - extraBytes + 8 * extraBytes) := by
  rw [capacity, Nat.pow_add, Nat.pow_mul]

/-- The encoder's length holds the magnitude. -/
theorem encodedExtraBytes_spec {n : Nat} (bound : n < 2 ^ 64) :
    encodedExtraBytes n ≤ 8 ∧ n < capacity (encodedExtraBytes n) := by
  unfold encodedExtraBytes
  cases found : (List.range 8).find? (fun e => n < 2 ^ (7 + 7 * e)) with
  | none => exact ⟨le_refl 8, by simpa [capacity] using bound⟩
  | some e =>
      have below := List.mem_range.mp (List.mem_of_find?_eq_some found)
      have fits := List.find?_some found
      simp only [decide_eq_true_eq] at fits
      refine ⟨by simp; omega, ?_⟩
      rw [Option.getD_some, capacity_eq, show 7 - e + 8 * e = 7 + 7 * e by omega]
      exact fits

/-- Below seven extra bytes the first byte carries `n`'s bits above the low `8e`. -/
theorem topBits_lt {extraBytes n : Nat} (fits : n < capacity extraBytes) :
    (if extraBytes < 7 then n >>> (8 * extraBytes) else 0) < 2 ^ (7 - extraBytes) := by
  split
  · rw [Nat.shiftRight_eq_div_pow, Nat.pow_mul, Nat.div_lt_iff_lt_mul (by positivity)]
    exact fits
  · exact Nat.two_pow_pos _

/-- The first byte is `e` one-bits above the top bits. -/
theorem encodedFirstByte_toNat {extraBytes n : Nat} (within : extraBytes ≤ 8)
    (fits : n < capacity extraBytes) :
    (encodedFirstByte extraBytes n).toNat = 2 ^ (8 - extraBytes) * (2 ^ extraBytes - 1) +
      if extraBytes < 7 then n >>> (8 * extraBytes) else 0 := by
  have top := topBits_lt fits
  have room : 2 ^ (7 - extraBytes) ≤ 2 ^ (8 - extraBytes) := Nat.pow_le_pow_right (by decide) (by omega)
  have full : 2 ^ (8 - extraBytes) * 2 ^ extraBytes = 256 := by
    rw [← Nat.pow_add, show 8 - extraBytes + extraBytes = 8 by omega]
  have ones : 1 ≤ 2 ^ extraBytes := Nat.one_le_two_pow
  rw [encodedFirstByte, toNat_ofNat_byte, Nat.shiftLeft_eq, Nat.mul_comm,
    ← Nat.mul_add_lt_is_or (by omega), Nat.mod_eq_of_lt]
  calc _ < 2 ^ (8 - extraBytes) * (2 ^ extraBytes - 1) + 2 ^ (8 - extraBytes) :=
        Nat.add_lt_add_left (top.trans_le room) _
    _ = 2 ^ (8 - extraBytes) * 2 ^ extraBytes := by
      rw [Nat.mul_sub_one, Nat.sub_add_cancel (Nat.le_mul_of_pos_right _ (by omega))]
    _ = 256 := full

/-- The bits of `ones * 2 ^ (8 - e) + low`: the low part below `8 - e`, the ones above. -/
theorem testBit_firstByte {extraBytes low : Nat} (small : low < 2 ^ (8 - extraBytes)) (j : Nat) :
    (2 ^ (8 - extraBytes) * (2 ^ extraBytes - 1) + low).testBit j =
      if j < 8 - extraBytes then low.testBit j else decide (j - (8 - extraBytes) < extraBytes) := by
  rw [Nat.testBit_mul_pow_two_add _ small, Nat.testBit_two_pow_sub_one]

/-- `e` one-bits above a zero bit form a byte with `e` leading 1-bits. -/
theorem leadingOnes_of_form {extraBytes top : Nat} (within : extraBytes ≤ 8)
    (small : top < 2 ^ (7 - extraBytes)) :
    LeadingOnes (2 ^ (8 - extraBytes) * (2 ^ extraBytes - 1) + top) extraBytes := by
  have room : 2 ^ (7 - extraBytes) ≤ 2 ^ (8 - extraBytes) := Nat.pow_le_pow_right (by decide) (by omega)
  refine ⟨within, fun i lt => ?_, fun lt => ?_⟩
  · rw [testBit_firstByte (small.trans_le room), if_neg (by omega)]
    simp only [decide_eq_true_eq]
    omega
  · rw [testBit_firstByte (small.trans_le room), if_pos (by omega)]
    exact Nat.testBit_lt_two_pow small

/-- A byte with `e` leading 1-bits is those ones above its low `7 - e` bits. -/
theorem eq_of_leadingOnes {byte extraBytes : Nat} (lead : LeadingOnes byte extraBytes)
    (small : byte < 256) :
    byte = 2 ^ (8 - extraBytes) * (2 ^ extraBytes - 1) + byte % 2 ^ (7 - extraBytes) := by
  obtain ⟨within, set, clear⟩ := lead
  have room : 2 ^ (7 - extraBytes) ≤ 2 ^ (8 - extraBytes) := Nat.pow_le_pow_right (by decide) (by omega)
  apply Nat.eq_of_testBit_eq
  intro j
  rw [testBit_firstByte ((Nat.mod_lt _ (Nat.two_pow_pos _)).trans_le room), Nat.testBit_mod_two_pow]
  by_cases low : j < 8 - extraBytes
  · rw [if_pos low]
    by_cases lower : j < 7 - extraBytes
    · simp [lower]
    · have edge : j = 7 - extraBytes := by omega
      simpa [lower, edge] using clear (by omega)
  · rw [if_neg low]
    by_cases inside : j < 8
    · have bit := set (7 - j) (by omega)
      rw [show 7 - (7 - j) = j by omega] at bit
      rw [bit]
      exact (decide_eq_true (by omega)).symm
    · rw [Nat.testBit_lt_two_pow (small.trans_le (Nat.pow_le_pow_right (by decide : 2 > 0)
        (Nat.le_of_not_lt inside)))]
      exact (decide_eq_false (by omega)).symm

/-- The low bytes of `n`, one more: the next digit of `n` in base 256 comes first. -/
theorem lowBytes_succ (extraBytes n : Nat) :
    lowBytes (extraBytes + 1) n = UInt8.ofNat (n >>> (8 * extraBytes)) :: lowBytes extraBytes n := by
  simp [lowBytes, List.range_succ]

@[simp] theorem length_lowBytes (extraBytes n : Nat) : (lowBytes extraBytes n).length = extraBytes := by
  simp [lowBytes]

/-- The shift by whole bytes is division by a power of 256. -/
theorem shiftRight_bytes (n extraBytes : Nat) : n >>> (8 * extraBytes) = n / 256 ^ extraBytes := by
  rw [Nat.shiftRight_eq_div_pow, Nat.pow_mul]

/-- The low bytes read back as the low `8e` bits. -/
theorem bytesValue_lowBytes (extraBytes n : Nat) :
    bytesValue (lowBytes extraBytes n) = n % 256 ^ extraBytes := by
  induction extraBytes with
  | zero => simp [lowBytes, bytesValue, Nat.mod_one]
  | succ extraBytes ih =>
      rw [lowBytes_succ, bytesValue_cons, length_lowBytes, ih, toNat_ofNat_byte, shiftRight_bytes,
        Nat.mod_pow_succ]
      ring

/-- Reading a byte string and taking its low bytes gives the string back. -/
theorem lowBytes_bytesValue (high : Nat) (rest : List UInt8) :
    lowBytes rest.length (high * 256 ^ rest.length + bytesValue rest) = rest := by
  induction rest generalizing high with
  | nil => rfl
  | cons byte rest ih =>
      have digit := UInt8.toNat_lt_size byte
      have below := bytesValue_lt rest
      have regroup : high * 256 ^ (rest.length + 1) + bytesValue (byte :: rest) =
          (high * 256 + byte.toNat) * 256 ^ rest.length + bytesValue rest := by
        rw [bytesValue_cons]; ring
      rw [List.length_cons, regroup, lowBytes_succ, ih, shiftRight_bytes, mul_add_div below]
      congr 1
      apply UInt8.toNat.inj
      rw [toNat_ofNat_byte, Nat.add_mod, Nat.mul_mod_left, Nat.zero_add, Nat.mod_mod,
        Nat.mod_eq_of_lt digit]

/-- ZigZag encoding undoes ZigZag decoding on 64-bit magnitudes. -/
theorem zigzagEncode_ofInt {value : Nat} (bound : value < 2 ^ 64) :
    zigzagEncode (BitVec.ofInt 64 (zigzagDecode value)) = value := by
  have ⟨low, high⟩ := zigzagDecode_range value bound
  have encoded := zigzagEncode_eq (BitVec.ofInt 64 (zigzagDecode value))
  rw [BitVec.toInt_ofInt, bmod_of_range low high] at encoded
  generalize zigzagEncode (BitVec.ofInt 64 (zigzagDecode value)) = encodedValue at encoded ⊢
  rw [zigzagDecode_eq] at encoded
  by_cases even : value % 2 = 0
  · rw [if_pos even, if_pos (by omega)] at encoded
    omega
  · rw [if_neg even, if_neg (by omega)] at encoded
    omega

/-- The first byte's value bits are the top bits it was built from. -/
theorem firstByte_mod {extraBytes top : Nat} (small : top < 2 ^ (7 - extraBytes)) :
    (2 ^ (8 - extraBytes) * (2 ^ extraBytes - 1) + top) % 2 ^ (7 - extraBytes) = top := by
  rw [show 8 - extraBytes = 7 - extraBytes + (8 - extraBytes - (7 - extraBytes)) by omega,
    Nat.pow_add, Nat.mul_assoc, Nat.mul_add_mod, Nat.mod_eq_of_lt small]

/-- The magnitude splits into the top bits above the low `8e` bits. -/
theorem topBits_add_low {extraBytes n : Nat} (fits : n < capacity extraBytes) :
    (if extraBytes < 7 then n >>> (8 * extraBytes) else 0) * 256 ^ extraBytes +
      n % 256 ^ extraBytes = n := by
  split
  · rw [shiftRight_bytes, Nat.div_add_mod']
  · rw [capacity, show 7 - extraBytes = 0 by omega, Nat.pow_zero, Nat.one_mul] at fits
    rw [Nat.zero_mul, Nat.zero_add, Nat.mod_eq_of_lt fits]

/-- `decode_vint` inverts Cassandra's encoding on every signed 64-bit integer. -/
theorem decodeVint_vintEncode (v : BitVec 64) : decodeVint (vintEncode v) = .ok v.toInt := by
  have bound : zigzagEncode v < 2 ^ 64 := BitVec.isLt _
  have ⟨within, fits⟩ := encodedExtraBytes_spec bound
  have top := topBits_lt fits
  have lead : extraBytesOf (encodedFirstByte (encodedExtraBytes (zigzagEncode v)) (zigzagEncode v)) =
      encodedExtraBytes (zigzagEncode v) :=
    (extraBytesOf_spec _).unique (encodedFirstByte_toNat within fits ▸ leadingOnes_of_form within top)
  rw [vintEncode, decodeVint_cons, lead, length_lowBytes, if_pos rfl,
    vintValue_eq _ (length_lowBytes _ _), bytesValue_lowBytes, encodedFirstByte_toNat within fits,
    firstByte_mod top, topBits_add_low fits, zigzagDecode_zigzagEncode]

/-- Cassandra's encoding gives back every VInt that `decode_vint` accepts at its shortest length. -/
theorem vintEncode_decodeVint {first : UInt8} {rest : List UInt8} {value : Int}
    (decoded : decodeVint (first :: rest) = .ok value)
    (shortest : rest.length = encodedExtraBytes (vintValue first (extraBytesOf first) rest)) :
    vintEncode (BitVec.ofInt 64 value) = first :: rest := by
  rw [decodeVint_cons] at decoded
  split at decoded
  · rename_i declared
    cases decoded
    have lead := extraBytesOf_spec first
    rw [← declared] at lead shortest ⊢
    have parts := vintValue_eq first (rfl : rest.length = rest.length)
    have fits := vintValue_lt first (rfl : rest.length = rest.length)
    rw [vintEncode, zigzagEncode_ofInt (fits.trans_le (capacity_le lead.1)), ← shortest]
    congr 1
    · apply UInt8.toNat.inj
      have top : (if rest.length < 7 then vintValue first rest.length rest >>> (8 * rest.length)
          else 0) = first.toNat % 2 ^ (7 - rest.length) := by
        split
        · rw [shiftRight_bytes, parts, mul_add_div (bytesValue_lt rest)]
        · rw [show 7 - rest.length = 0 by omega, Nat.pow_zero, Nat.mod_one]
      rw [encodedFirstByte_toNat lead.1 fits, top]
      exact (eq_of_leadingOnes lead (UInt8.toNat_lt_size first)).symm
    · rw [parts]
      exact lowBytes_bytesValue _ rest
  · cases decoded

/-- `decode_vint` accepts exactly the strings of declared length, raises only `ValueError`,
returns signed 64-bit integers, and is inverse to the canonical encoding in both directions. -/
theorem vintCodec_roundTrip :
    (∀ vintBytes : List UInt8, (∃ value, decodeVint vintBytes = .ok value) ↔
      ∃ first rest, vintBytes = first :: rest ∧ vintBytes.length = 1 + leadingOnes first) ∧
    (∀ vintBytes error, decodeVint vintBytes = .error error → error.kind = .valueError) ∧
    (∀ vintBytes value, decodeVint vintBytes = .ok value → -2 ^ 63 ≤ value ∧ value ≤ 2 ^ 63 - 1) ∧
    (∀ v : BitVec 64, decodeVint (vintEncode v) = .ok v.toInt) ∧
    (∀ first rest value, decodeVint (first :: rest) = .ok value →
      rest.length = encodedExtraBytes (vintValue first rest.length rest) →
      vintEncode (BitVec.ofInt 64 value) = first :: rest) := by
  refine ⟨decodeVint_ok_iff, fun _ _ failed => decodeVint_error_kind failed,
    fun _ _ decoded => decodeVint_range decoded, decodeVint_vintEncode,
    fun first rest value decoded shortest => vintEncode_decodeVint decoded ?_⟩
  rw [decodeVint_cons] at decoded
  split at decoded
  · rename_i declared
    rwa [← declared]
  · cases decoded

example : vintEncode (BitVec.ofInt 64 (-2 ^ 63)) = List.replicate 9 0xFF := by decide

example : vintEncode (BitVec.ofInt 64 (2 ^ 54)) = 0xFE :: 0x80 :: List.replicate 6 0 := by decide

end Cqlite.VInt
