import Cqlite.Construction.PyString
import Cqlite.Construction.VInt

/-!
The VInt scan and the summary of `scripts/validation/validate_cassandra_compatibility.py`:
`find_vint_patterns`, `analyze_magic_number`, `test_file_compatibility` and the counters of
`run_compatibility_tests`. Files are given by their names and by what reading them returns; the
structure analysis, which neither raises nor feeds a counter, is left out.
-/

namespace Cqlite.Validator

open VInt

/-- A lower-case hexadecimal digit. -/
def hexDigit (digit : Nat) : Char :=
  if digit < 10 then Char.ofNat (48 + digit) else Char.ofNat (87 + digit)

/-- This is `bytes.hex()`. -/
def hex (bytes : List UInt8) : List Char :=
  bytes.flatMap fun byte => [hexDigit (byte.toNat / 16), hexDigit (byte.toNat % 16)]

/-- One dictionary of the list that `find_vint_patterns` returns: the decoded value when `valid`,
and otherwise `str(e)` of what `decode_vint` raised. -/
structure VintSample where
  position : Nat
  length : Nat
  rawBytes : List Char
  decoded : Except String Int
  deriving Repr

/-- The `valid` field of a sample. -/
def VintSample.valid (sample : VintSample) : Bool :=
  match sample.decoded with
  | .ok _ => true
  | .error _ => false

/-- The scan loop of `find_vint_patterns` from `position`, with the samples found so far. The
leading-1-bit count is the loop of `decode_vint`, repeated in the scan. -/
def findVintPatternsFrom (data : List UInt8) (maxSamples : Int) (position : Nat)
    (vintSamples : List VintSample) : List VintSample :=
  if (position : Int) < data.length - 9 ∧ (vintSamples.length : Int) < maxSamples then
    match data[position]? with
    | none => findVintPatternsFrom data maxSamples (position + 1) vintSamples
    | some firstByte =>
        if firstByte = 0 then findVintPatternsFrom data maxSamples (position + 1) vintSamples
        else
          let totalLength := extraBytesOf firstByte + 1
          if position + totalLength ≤ data.length then
            let vintBytes := (data.drop position).take totalLength
            let sample : VintSample :=
              ⟨position, totalLength, hex vintBytes, (decodeVint vintBytes).mapError (·.message)⟩
            findVintPatternsFrom data maxSamples (position + totalLength) (vintSamples ++ [sample])
          else findVintPatternsFrom data maxSamples (position + 1) vintSamples
  else vintSamples
termination_by data.length - position
decreasing_by all_goals omega

/-- This is `find_vint_patterns`. -/
def findVintPatterns (data : List UInt8) (maxSamples : Int := 10) : List VintSample :=
  findVintPatternsFrom data maxSamples 0 []

/-- The table `known_formats` of `analyze_magic_number`. -/
def knownFormats : List (Nat × String) :=
  [(0x6F610000, "Cassandra 'oa' format"), (0x6E620000, "Cassandra 'nb' format"),
    (0x6D630000, "Cassandra 'mc' format"), (0x6C640000, "Cassandra 'ld' format")]

/-- What `analyze_magic_number` returns; `magic_hex` and `version_bytes` are kept as the numbers
they print. -/
inductive MagicAnalysis where
  | tooShort
  | header (magic : Nat) (formatRecognized : Bool) (formatName : String) (versionBytes : Nat)
  deriving Repr

/-- This is `analyze_magic_number`. -/
def analyzeMagicNumber (data : List UInt8) : MagicAnalysis :=
  if data.length < 4 then .tooShort
  else
    let magic := (data.take 4).foldl (fun value byte => value * 256 + byte.toNat) 0
    let formatCheck := magic &&& 0xFFFF0000
    let formatName := ((knownFormats.lookup formatCheck).getD "Unknown format")
    .header magic (knownFormats.any (·.1 = formatCheck)) formatName (magic &&& 0xFFFF)

/-- The `format_recognized` entry, read with `.get("format_recognized", False)`. -/
def MagicAnalysis.formatRecognized : MagicAnalysis → Bool
  | .tooShort => false
  | .header _ recognized _ _ => recognized

/-- The `vint_analysis` entry of a file result. -/
structure VintAnalysis where
  samplesFound : Nat
  validSamples : Nat
  samples : List VintSample
  deriving Repr

/-- What `test_file_compatibility` returns. -/
inductive FileResult where
  | success (fileType : List Char) (sizeBytes : Nat) (magicAnalysis : Option MagicAnalysis)
      (vintAnalysis : VintAnalysis)
  | failure (fileType : List Char) (error : String)
  deriving Repr

/-- The component after the last `-` of a file name, `name.split('-')[-1]`. -/
def fileTypeOf (name : List Char) : List Char := ((PyStr.splitOn '-' name).getLast?).getD []

/-- This is `test_file_compatibility`: `contents` is what reading the file returns. -/
def testFileCompatibility (name : List Char) (contents : Except PyException (List UInt8)) :
    FileResult :=
  match contents with
  | .error error => .failure (fileTypeOf name) error.message
  | .ok data =>
      let fileType := fileTypeOf name
      let vintPatterns := findVintPatterns data
      .success fileType data.length
        (if fileType = "Data.db".toList then some (analyzeMagicNumber data) else none)
        ⟨vintPatterns.length, (vintPatterns.filter (·.valid)).length, vintPatterns.take 5⟩

/-- The counters of the `summary` entry of `run_compatibility_tests`. -/
structure Summary where
  totalFiles : Nat
  successfulTests : Nat
  failedTests : Nat
  magicNumbersValid : Nat
  vintSamplesValid : Nat
  totalVintSamples : Nat
  deriving Repr

/-- The counters before any file is tested. -/
def Summary.initial : Summary := ⟨0, 0, 0, 0, 0, 0⟩

/-- The counter updates after one file result. -/
def Summary.record (summary : Summary) : FileResult → Summary
  | .success _ _ magic vint =>
      { summary with
        totalFiles := summary.totalFiles + 1
        successfulTests := summary.successfulTests + 1
        magicNumbersValid := summary.magicNumbersValid +
          if (magic.map MagicAnalysis.formatRecognized).getD false then 1 else 0
        vintSamplesValid := summary.vintSamplesValid + vint.validSamples
        totalVintSamples := summary.totalVintSamples + vint.samplesFound }
  | .failure _ _ =>
      { summary with
        totalFiles := summary.totalFiles + 1
        failedTests := summary.failedTests + 1 }

/-- A directory entry: its name, whether it is a regular file, and what reading it returns. -/
structure DirectoryEntry where
  name : List Char
  isFile : Bool
  contents : Except PyException (List UInt8)

/-- An entry of the test-data directory: a table directory when `isDir`. -/
structure TableDirectory where
  name : List Char
  isDir : Bool
  entries : List DirectoryEntry

/-- The files that `run_compatibility_tests` tests in a table directory. -/
def isCriticalFile (entry : DirectoryEntry) : Bool :=
  entry.isFile &&
    ["Data.db".toList, "Statistics.db".toList].any fun pattern => decide (pattern <:+: entry.name)

/-- One entry of a table directory: a critical file is tested and recorded. -/
def testEntry (state : List FileResult × Summary) (entry : DirectoryEntry) :
    List FileResult × Summary :=
  if isCriticalFile entry then
    let fileResult := testFileCompatibility entry.name entry.contents
    (state.1 ++ [fileResult], state.2.record fileResult)
  else state

/-- One entry of the test-data directory: a table directory's files are tested, and the table is
listed when it had any. -/
def testTableDirectory (state : List (List Char × List FileResult) × Summary)
    (table : TableDirectory) : List (List Char × List FileResult) × Summary :=
  if table.isDir then
    let (files, summary) := table.entries.foldl testEntry ([], state.2)
    (if files.isEmpty then state.1 else state.1 ++ [(table.name, files)], summary)
  else state

/-- What `run_compatibility_tests` returns. -/
inductive CompatibilityResults where
  | notFound (error : String)
  | tested (tablesTested : List (List Char × List FileResult)) (summary : Summary)
  deriving Repr

/-- This is `run_compatibility_tests`: `pathExists` is `test_path.exists()` and `tables` what
`iterdir()` lists. -/
def runCompatibilityTests (testDataPath : String) (pathExists : Bool)
    (tables : List TableDirectory) : CompatibilityResults :=
  if pathExists then
    let (tablesTested, summary) := tables.foldl testTableDirectory ([], Summary.initial)
    .tested tablesTested summary
  else .notFound s!"Test data path not found: {testDataPath}"

end Cqlite.Validator
