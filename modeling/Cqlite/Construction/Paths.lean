import Cqlite.Construction.PyString

/-!
`validate_sstable_path` of `cqlite/utils.py`: the checks on the path of a `Data.db` file and on the
companion files beside it, over a file system given by what it reports for each path.
-/

namespace Cqlite.Utils

open PyStr

/-- A path as `pathlib.PurePosixPath` keeps it: its root (empty, `/`, or the `//` that POSIX keeps
apart) and its parts other than the root. -/
structure PyPath where
  root : List Char
  parts : List (List Char)
  deriving DecidableEq, Repr

/-- This is `Path(s)`: the parts between slashes, without empty parts and `.`. -/
def PyPath.parse (s : List Char) : PyPath :=
  let root :=
    if startsWith s "//".toList && !startsWith s "///".toList then "//".toList
    else if startsWith s "/".toList then "/".toList
    else []
  ⟨root, (splitOn '/' s).filter fun part => part ≠ [] ∧ part ≠ ".".toList⟩

/-- This is `path.name`: the last part, or the empty string for a path without parts. -/
def PyPath.name (path : PyPath) : List Char := path.parts.getLast?.getD []

/-- This is `path.parent / name`, for a name without slashes. -/
def PyPath.sibling (path : PyPath) (name : List Char) : PyPath :=
  ⟨path.root, path.parts.dropLast ++ [name]⟩

/-- What `stat` reports for a path: a regular file or another entry, and its size. -/
inductive Entry where
  | file (size : Nat)
  | other (size : Nat)
  deriving DecidableEq, Repr

/-- This is `path.is_file()` of an existing path. -/
def Entry.isFile : Entry → Bool
  | .file _ => true
  | .other _ => false

/-- This is `path.stat().st_size`. -/
def Entry.size : Entry → Nat
  | .file size | .other size => size

/-- A file system: the entry at each path, or none where `path.exists()` is false. -/
structure FileSystem where
  entry : PyPath → Option Entry

/-- The keys of `companion_files`, in the order of its dict literal; the file of each key is the
base name, a hyphen and the key. -/
def companionKinds : List String :=
  ["Index.db", "Statistics.db", "CompressionInfo.db", "Filter.db", "Summary.db"]

/-- What `validate_sstable_path` returns; the early return for a missing path has neither
`file_size_bytes` nor `missing_companions`. -/
structure PathValidation where
  valid : Bool
  errors : List String
  warnings : List String
  fileSizeBytes : Option Nat
  missingCompanions : Option (List String)
  deriving DecidableEq, Repr

/-- The size warnings of `validate_sstable_path`. -/
def sizeWarnings (size : Nat) : List String :=
  if size = 0 then ["SSTable file is empty"]
  else if size < 1024 then ["SSTable file is very small (< 1KB)"]
  else []

/-- The kinds whose companion file is missing beside `path`; `path.name[:-8]` is the base name. -/
def missingCompanions (fs : FileSystem) (path : PyPath) : List String :=
  companionKinds.filter fun kind =>
    (fs.entry (path.sibling (slice path.name 0 (-8) ++ '-' :: kind.toList))).isNone

/-- The warning that lists the missing companions, when there are any. -/
def companionWarning (missing : List String) : List String :=
  if missing = [] then [] else ["Missing companion files: " ++ ", ".intercalate missing]

/-- This is `validate_sstable_path`. In a file system that does not change while it runs, `stat`
succeeds on a path that exists, so its `except OSError` is never taken. -/
def validateSstablePath (fs : FileSystem) (sstablePath : List Char) : PathValidation :=
  let path := PyPath.parse sstablePath
  match fs.entry path with
  | none => ⟨false, ["File does not exist: " ++ String.mk sstablePath], [], none, none⟩
  | some entry =>
      let errors :=
        (if entry.isFile then [] else ["Path is not a file: " ++ String.mk sstablePath]) ++
        (if endsWith path.name "-Data.db".toList then []
          else ["File does not have SSTable Data.db extension"])
      let missing := missingCompanions fs path
      ⟨errors.length = 0, errors, sizeWarnings entry.size ++ companionWarning missing, some entry.size,
        some missing⟩

end Cqlite.Utils
