import Cqlite.Construction.PyException
import Mathlib.Data.Int.Bitwise

/-!
`decode_vint` of `scripts/validation/validate_cassandra_compatibility.py`: Cassandra's VInt, a
leading-1-bit length prefix followed by a big-endian ZigZag-encoded magnitude.
-/

namespace Cqlite.VInt

/-- The leading-1-bit loop: `test_byte` is a Python integer, shifted left without truncation until
bit 7 is clear or `extra_bytes` reaches 8. `fuel` bounds the iterations. -/
def countExtraBytes : (fuel testByte extraBytes : Nat) → Nat
  | 0, _, extraBytes => extraBytes
  | fuel + 1, testByte, extraBytes =>
      if testByte &&& 0x80 ≠ 0 ∧ extraBytes < 8 then
        countExtraBytes fuel (testByte <<< 1) (extraBytes + 1)
      else extraBytes

/-- The number of extra bytes that a first byte declares, as the loop counts it from zero. -/
def extraBytesOf (firstByte : UInt8) : Nat := countExtraBytes 8 firstByte.toNat 0

/-- The value bits of the first byte, then every further byte shifted in, before ZigZag decoding. -/
def vintValue (firstByte : UInt8) (extraBytes : Nat) (rest : List UInt8) : Nat :=
  if extraBytes = 0 then firstByte.toNat &&& 0x7F
  else
    let firstByteValueBits := if extraBytes < 7 then 7 - extraBytes else 0
    let value :=
      if firstByteValueBits > 0 then firstByte.toNat &&& ((1 <<< firstByteValueBits) - 1) else 0
    rest.foldl (fun value byte => (value <<< 8) ||| byte.toNat) value

/-- ZigZag decoding, `(value >> 1) ^ (-1 if value & 1 else 0)` on Python integers. -/
def zigzagDecode (value : Nat) : Int :=
  Int.xor ((value >>> 1 : Nat) : Int) (if value &&& 1 ≠ 0 then -1 else 0)

/-- This is `decode_vint`. -/
def decodeVint (vintBytes : List UInt8) : Except PyException Int :=
  match vintBytes with
  | [] => .error (.valueError "Empty VInt bytes")
  | firstByte :: rest =>
      let extraBytes := extraBytesOf firstByte
      let totalLength := extraBytes + 1
      let got := vintBytes.length
      if got ≠ totalLength then
        .error (.valueError s!"VInt length mismatch: expected {totalLength}, got {got}")
      else .ok (zigzagDecode (vintValue firstByte extraBytes rest))

end Cqlite.VInt
