import Cqlite.Construction.Paths
import Cqlite.Proof.PyString.Methods

/-!
What `validate_sstable_path` accepts, and which companion files it looks for. A path is valid
exactly when it is a regular file whose name ends with `-Data.db`; the companion files beside it
only ever add a warning. For a `Data.db` file the companions are the files of the same base name in
the same directory, as the strings of their paths name them.
-/

namespace Cqlite.Utils

open PyStr

/-! ### Paths -/

/-- A root made of slashes reads the same whatever name follows the directory. -/
theorem isPrefixOf_slashes {slashes : List Char} (onlySlashes : ∀ c ∈ slashes, c = '/') :
    ∀ (dir : List Char) {c d : Char}, c ≠ '/' → d ≠ '/' → ∀ rest more : List Char,
      slashes.isPrefixOf (dir ++ c :: rest) = slashes.isPrefixOf (dir ++ d :: more) := by
  induction slashes with
  | nil => intros; simp [List.isPrefixOf]
  | cons s tail ih =>
      have slash : s = '/' := onlySlashes s (List.mem_cons_self _ _)
      subst slash
      intro dir c d notSlash other rest more
      cases dir with
      | nil =>
          simp only [List.nil_append, List.isPrefixOf]
          rw [beq_false_of_ne (Ne.symm notSlash), beq_false_of_ne (Ne.symm other)]
          rfl
      | cons e dir =>
          exact congrArg ('/' == e && ·)
            (ih (fun c member => onlySlashes c (List.mem_cons_of_mem _ member)) dir notSlash other _ _)

/-- The root of `Path(dir + name)` does not depend on a name that does not start with a slash. -/
theorem PyPath.parse_root (dir : List Char) {c d : Char} (notSlash : c ≠ '/') (other : d ≠ '/')
    (rest more : List Char) :
    (PyPath.parse (dir ++ c :: rest)).root = (PyPath.parse (dir ++ d :: more)).root := by
  simp only [PyPath.parse, startsWith,
    @isPrefixOf_slashes "//".toList (by decide) dir c d notSlash other rest more,
    @isPrefixOf_slashes "///".toList (by decide) dir c d notSlash other rest more,
    @isPrefixOf_slashes "/".toList (by decide) dir c d notSlash other rest more]

/-- A name of a file: not empty, without slashes, and not `.`. -/
structure FileName (name : List Char) : Prop where
  nonempty : name ≠ []
  noSlash : '/' ∉ name
  notDot : name ≠ ".".toList

/-- A directory prefix of a path string: empty, or ending with a slash. -/
def DirectoryPrefix (dir : List Char) : Prop := dir = [] ∨ dir.getLast? = some '/'

/-- The parts of `Path(dir + name)` are those of the directory and the name. -/
theorem PyPath.parse_parts {dir name : List Char} (directory : DirectoryPrefix dir)
    (file : FileName name) : (PyPath.parse (dir ++ name)).parts = (PyPath.parse dir).parts ++ [name] := by
  have kept : (fun part : List Char => decide (part ≠ [] ∧ part ≠ ".".toList)) name = true :=
    decide_eq_true ⟨file.nonempty, file.notDot⟩
  rcases directory with rfl | ending
  · simp only [PyPath.parse, List.nil_append, splitOn_of_not_mem file.noSlash, List.filter_cons,
      kept]
    rfl
  · obtain ⟨front, rfl⟩ : ∃ front, dir = front ++ ['/'] := by
      rcases List.eq_nil_or_concat dir with rfl | ⟨front, last, rfl⟩
      · cases ending
      · rw [List.concat_eq_append, List.getLast?_concat, Option.some_inj] at ending
        exact ⟨front, by rw [List.concat_eq_append, ending]⟩
    simp only [PyPath.parse, List.append_assoc, List.singleton_append, splitOn_append_sep,
      splitOn_of_not_mem file.noSlash, List.filter_append, List.filter_cons, kept]
    rfl

theorem PyPath.parse_name {dir name : List Char} (directory : DirectoryPrefix dir)
    (file : FileName name) : (PyPath.parse (dir ++ name)).name = name := by
  rw [PyPath.name, PyPath.parse_parts directory file, List.getLast?_concat, Option.getD_some]

/-- The sibling that `path.parent / other` names is the path string with the other name. -/
theorem PyPath.parse_sibling {dir name other : List Char} (directory : DirectoryPrefix dir)
    (file : FileName name) (otherFile : FileName other) :
    (PyPath.parse (dir ++ name)).sibling other = PyPath.parse (dir ++ other) := by
  obtain ⟨c, rest, rfl⟩ := List.exists_cons_of_ne_nil file.nonempty
  obtain ⟨d, more, rfl⟩ := List.exists_cons_of_ne_nil otherFile.nonempty
  have notSlash : c ≠ '/' := fun same => file.noSlash (same ▸ List.mem_cons_self _ _)
  have other : d ≠ '/' := fun same => otherFile.noSlash (same ▸ List.mem_cons_self _ _)
  show PyPath.mk _ _ =
    PyPath.mk (PyPath.parse (dir ++ d :: more)).root (PyPath.parse (dir ++ d :: more)).parts
  rw [PyPath.parse_parts directory file, PyPath.parse_parts directory otherFile,
    List.dropLast_concat, PyPath.parse_root dir notSlash other]

/-! ### The checks -/

/-- `name[:-8]` of a name that ends with `-Data.db` is the name without it. -/
theorem slice_dataName (base : List Char) : slice (base ++ "-Data.db".toList) 0 (-8) = base := by
  have suffixLength : "-Data.db".toList.length = 8 := rfl
  have start : sliceIndex (base ++ "-Data.db".toList).length 0 = 0 := by simp [sliceIndex]
  have stop : sliceIndex (base ++ "-Data.db".toList).length (-8) = base.length := by
    rw [sliceIndex, if_pos (by decide), List.length_append, suffixLength]
    omega
  rw [PyStr.slice, start, stop, List.drop_zero, Nat.sub_zero, List.take_left' rfl]

/-- The name of a `Data.db` file is a file name. -/
theorem FileName.dataFile {base : List Char} (noSlash : '/' ∉ base) :
    FileName (base ++ "-Data.db".toList) where
  nonempty := by simp
  noSlash member := (List.mem_append.mp member).elim noSlash (by decide)
  notDot same := by
    have lengths := congrArg List.length same
    simp at lengths

/-- The name of a companion file is a file name. -/
theorem FileName.companion {base : List Char} (noSlash : '/' ∉ base) {kind : String}
    (listed : kind ∈ companionKinds) : FileName (base ++ '-' :: kind.toList) where
  nonempty := by simp
  noSlash member := by
    rcases List.mem_append.mp member with inBase | inKind
    · exact noSlash inBase
    · rcases List.mem_cons.mp inKind with wrong | inKind
      · cases wrong
      · have slashFree : ∀ kind ∈ companionKinds, '/' ∉ kind.toList := by decide
        exact slashFree kind listed inKind
  notDot same := by
    rcases base with _ | ⟨c, rest⟩ <;> simp at same

/-- A directory `data/` with `users-Data.db` and only its `Index.db` beside it. -/
def indexOnlyFileSystem : FileSystem :=
  ⟨fun path =>
    if path = PyPath.parse "data/users-Data.db".toList then some (.file 2048)
    else if path = PyPath.parse "data/users-Index.db".toList then some (.file 64)
    else none⟩

end Cqlite.Utils
