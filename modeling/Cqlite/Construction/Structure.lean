import Cqlite.Construction.Validator

/-!
`analyze_data_structure` of `scripts/validation/validate_cassandra_compatibility.py`: the patterns it
counts in the bytes of a file, which `test_file_compatibility` stores under `structure_analysis`.
Each count is a loop over positions that adds one where a test on the bytes there holds.
-/

namespace Cqlite.Validator

/-- `32 <= b <= 126`: a printable ASCII byte. -/
def isPrintable (byte : UInt8) : Bool := 32 ≤ byte.toNat && byte.toNat ≤ 126

/-- `32 <= b <= 126 or b in (9, 10, 13)`: a byte of a text. -/
def isTextByte (byte : UInt8) : Bool := isPrintable byte || [9, 10, 13].contains byte.toNat

/-- This is `data[start:start+length]`. -/
def window (data : List UInt8) (start length : Nat) : List UInt8 := (data.drop start).take length

/-- The positions of `range(0, stop, step)` for a positive step. -/
def rangeStep (stop step : Nat) : List Nat := (List.range ((stop + step - 1) / step)).map (· * step)

/-- A loop over positions that adds one to a count, from `0`, at each position where `test` holds. -/
def countWhere (test : Nat → Bool) (positions : List Nat) : Nat :=
  positions.foldl (fun count i => if test i then count + 1 else count) 0

/-- The loop `for i in range(len(data) - 8)` that counts windows of 8 printable bytes. -/
def asciiSequences (data : List UInt8) : Nat :=
  countWhere (fun i => (window data i 8).all isPrintable) (List.range (data.length - 8))

/-- The loop `for i in range(0, len(data) - 16, 16)` that counts blocks of 16 bytes not all zero. -/
def uuidPatterns (data : List UInt8) : Nat :=
  countWhere (fun i => (window data i 16).any (· ≠ 0)) (rangeStep (data.length - 16) 16)

/-- This is `struct.unpack('>I', bytes)[0]` of 4 bytes and `struct.unpack('>Q', bytes)[0]` of 8: the
bytes read as a big-endian number. -/
def bigEndian (bytes : List UInt8) : Nat := bytes.foldl (fun value byte => value * 256 + byte.toNat) 0

/-- The test of the loop over length-prefixed strings at position `i`: a length below 1000 read from
the 4 bytes at `i`, followed by that many bytes of text. -/
def lengthPrefixedAt (data : List UInt8) (i : Nat) : Bool :=
  let length := bigEndian (window data i 4)
  0 < length && length < 1000 && i + 4 + length ≤ data.length &&
    (window data (i + 4) length).all isTextByte

/-- The loop `for i in range(len(data) - 4)` that counts length-prefixed strings. At each of its
positions the 4 bytes that `struct.unpack` reads are there, so its `except` is never taken. -/
def lengthPrefixedStrings (data : List UInt8) : Nat :=
  countWhere (lengthPrefixedAt data) (List.range (data.length - 4))

/-- The search of `data.count(sub)` for a nonempty `sub`: the occurrences found from the left, where
each search resumes after the last match and `skip` bytes of that match are still ahead. -/
def countFrom (sub : List UInt8) : Nat → List UInt8 → Nat
  | _, [] => 0
  | skip + 1, _ :: rest => countFrom sub skip rest
  | 0, byte :: rest =>
      if sub.isPrefixOf (byte :: rest) then countFrom sub (sub.length - 1) rest + 1
      else countFrom sub 0 rest

/-- This is `data.count(sub)` for a nonempty `sub`. -/
def byteCount (data sub : List UInt8) : Nat := countFrom sub 0 data

/-- The bytes of an ASCII literal such as `b'org.apache'`. -/
def asciiBytes (text : String) : List UInt8 := text.toList.map fun c => c.toNat.toUInt8

/-- What `analyze_data_structure` returns. -/
structure StructureAnalysis where
  fileSize : Nat
  fileType : List Char
  patterns : List String
  deriving DecidableEq, Repr

/-- This is `analyze_data_structure`. -/
def analyzeDataStructure (data : List UInt8) (fileType : List Char) : StructureAnalysis :=
  ⟨data.length, fileType,
    if fileType = "Data.db".toList then
      ["ASCII sequences: " ++ toString (asciiSequences data),
        "Potential UUID patterns: " ++ toString (uuidPatterns data),
        "Length-prefixed strings: " ++ toString (lengthPrefixedStrings data)]
    else if fileType = "Statistics.db".toList then
      ["Java class references: " ++ toString (byteCount data (asciiBytes "org.apache"))] ++
        (if asciiBytes "Partitioner" <:+: data then ["Partitioner class found"] else []) ++
        (if 8 ≤ data.length ∧ bigEndian (data.take 8) < 1000000 then
          ["Potential row count: " ++ toString (bigEndian (data.take 8))]
        else [])
    else []⟩

end Cqlite.Validator
