import Cqlite.Construction.Query
import Cqlite.Proof.PyString.Methods

/-!
The select list of a statement that `_build_column_query` builds is what
`_extract_columns_from_query` reads back from it, for a table name and column names of letters,
digits and underscores other than the keyword `FROM`: the first ` FROM ` of the upper-cased
statement is the one after the list. A last column named `from`, in any case, would end the list
early. So `optimize_query` reports an issue exactly for the built columns it does not know, while
`validate_query`, which looks for `DELETE`, `INSERT` and `UPDATE` anywhere in the statement,
refuses columns such as `last_update`.
-/

namespace Cqlite.Query

open PyStr

/-- A column name of `query_columns`: letters, digits and underscores. -/
def IsName (name : List Char) : Prop := name ≠ [] ∧ ∀ c ∈ name, c.isAlphanum = true ∨ c = '_'

/-- An entry of a select list that `_extract_columns_from_query` reads back: `*`, or a name other
than the keyword `FROM` in any letter case. -/
def SelectItem (col : List Char) : Prop :=
  col = "*".toList ∨ (IsName col ∧ upper col ≠ "FROM".toList)

/-- A character of a select entry: a letter, a digit, an underscore or `*`. -/
def ItemChar (c : Char) : Prop := c.isAlphanum = true ∨ c = '_' ∨ c = '*'

theorem ItemChar.toUpper {c : Char} (item : ItemChar c) : ItemChar c.toUpper := by
  rcases Char.toUpper_cases c with same | upperCase
  · rwa [same]
  · exact .inl (by simp [Char.isAlphanum, Char.isAlpha, upperCase])

theorem ItemChar.ne_space {c : Char} (item : ItemChar c) : c ≠ ' ' := by
  rintro rfl; rcases item with wrong | wrong | wrong <;> cases wrong

theorem ItemChar.ne_comma {c : Char} (item : ItemChar c) : c ≠ ',' := by
  rintro rfl; rcases item with wrong | wrong | wrong <;> cases wrong

theorem ItemChar.isSpace {c : Char} (item : ItemChar c) : isSpace c = false := by
  rcases item with alnum | rfl | rfl
  · simp only [Char.isAlphanum, Char.isAlpha, Char.isUpper, Char.isLower, Char.isDigit,
      Bool.or_eq_true, Bool.and_eq_true, decide_eq_true_eq] at alnum
    change ((65 ≤ c.toNat ∧ c.toNat ≤ 90) ∨ (97 ≤ c.toNat ∧ c.toNat ≤ 122)) ∨
      (48 ≤ c.toNat ∧ c.toNat ≤ 57) at alnum
    simp only [PyStr.isSpace, Bool.or_eq_false_iff, Bool.and_eq_false_iff, decide_eq_false_iff_not,
      beq_eq_false_iff_ne, ne_eq]
    omega
  · rfl
  · rfl

/-- ` FROM ` does not start at the space before a select entry other than `FROM`. -/
theorem fromKeyword_not_before {word : List Char} (nonempty : word ≠ [])
    (chars : ∀ c ∈ word, ItemChar c) (notFrom : word ≠ "FROM".toList) {next : Char}
    (separator : next = ',' ∨ next = ' ') (rest : List Char) :
    " FROM ".toList.isPrefixOf (' ' :: (word ++ next :: rest)) = false := by
  rcases word with _ | ⟨a, _ | ⟨b, _ | ⟨c, _ | ⟨d, _ | ⟨e, more⟩⟩⟩⟩⟩
  · exact absurd rfl nonempty
  all_goals rcases separator with rfl | rfl <;> simp [List.isPrefixOf]
  · rintro rfl rfl rfl rfl
    exact notFrom rfl
  all_goals
    rintro - - - - space
    exact (chars e (by simp)).ne_space space.symm

/-- What the proofs use of an upper-cased select entry. -/
structure SelectWord (word : List Char) : Prop where
  nonempty : word ≠ []
  chars : ∀ c ∈ word, ItemChar c
  notFrom : word ≠ "FROM".toList

/-- ` FROM ` starts nowhere in a select list before the ` FROM ` that follows it. -/
theorem startsNowhere_selectList (rest : List Char) :
    ∀ {word : List Char} {words : List (List Char)}, SelectWord word → (∀ w ∈ words, SelectWord w) →
      StartsNowhere " FROM ".toList (' ' :: join ", ".toList (word :: words)) (" FROM ".toList ++ rest)
  | word, [], first, _ => by
      rw [join_singleton]
      exact ⟨fromKeyword_not_before first.nonempty first.chars first.notFrom (.inr rfl) _,
        startsNowhere_of_not_mem _ fun member => (first.chars ' ' member).ne_space rfl⟩
  | word, next :: more, first, others => by
      have later := startsNowhere_selectList rest (others next (List.mem_cons_self _ _))
        fun w member => others w (List.mem_cons_of_mem _ member)
      rw [join_cons_cons, List.append_assoc]
      show StartsNowhere _ ((' ' :: word) ++ ',' :: ' ' :: join ", ".toList (next :: more)) _
      refine StartsNowhere.append ⟨?_, startsNowhere_of_not_mem _ fun member =>
        (first.chars ' ' member).ne_space rfl⟩ ⟨by simp [List.isPrefixOf], later⟩
      exact fromKeyword_not_before first.nonempty first.chars first.notFrom (.inl rfl) _

/-- The first ` FROM ` of a statement whose select list has no entry `FROM` follows the list. -/
theorem indexOfText?_selectWords {word : List Char} {words : List (List Char)} (first : SelectWord word)
    (others : ∀ w ∈ words, SelectWord w) (rest : List Char) :
    indexOfText? " FROM ".toList ("SELECT".toList ++ ' ' :: join ", ".toList (word :: words) ++
      (" FROM ".toList ++ rest)) = some (7 + (join ", ".toList (word :: words)).length) := by
  have nowhere : StartsNowhere " FROM ".toList ("SELECT".toList ++ ' ' :: join ", ".toList (word :: words))
      (" FROM ".toList ++ rest) :=
    StartsNowhere.append (startsNowhere_of_not_mem _ (by decide)) (startsNowhere_selectList _ first others)
  rw [indexOfText?_append nowhere, indexOfText?_of_isPrefixOf (List.isPrefixOf_iff_prefix.mpr (List.prefix_append _ _))]
  have selectLength : "SELECT".toList.length = 6 := rfl
  simp only [Option.map_some', List.length_append, List.length_cons, selectLength]
  congr 1
  omega

namespace SelectItem

variable {col : List Char} (item : SelectItem col)
include item

theorem chars : ∀ c ∈ col, ItemChar c := by
  rcases item with rfl | ⟨⟨-, chars⟩, -⟩
  · intro c member
    exact .inr (.inr (List.mem_singleton.mp member))
  · intro c member
    rcases chars c member with alnum | underscore
    · exact .inl alnum
    · exact .inr (.inl underscore)

theorem ne_nil : col ≠ [] := by
  rcases item with rfl | ⟨⟨named, -⟩, -⟩
  · exact List.cons_ne_nil _ _
  · exact named

theorem upper_word : SelectWord (upper col) := by
  refine ⟨by simpa [upper] using item.ne_nil, fun c member => ?_, ?_⟩
  · obtain ⟨d, present, rfl⟩ := List.mem_map.mp member
    exact (item.chars d present).toUpper
  · rcases item with rfl | ⟨-, notFrom⟩
    · decide
    · exact notFrom

theorem word : SelectWord col := by
  refine ⟨item.ne_nil, item.chars, ?_⟩
  rintro rfl
  rcases item with star | ⟨-, notFrom⟩
  · exact absurd star (by decide)
  · exact notFrom (by decide)

end SelectItem

/-- An entry without spaces or commas is its own clean form, also after the space that follows a
comma of the list. -/
theorem cleanColumn_of_strip {raw col : List Char} (stripped : strip raw = col)
    (chars : ∀ c ∈ col, ItemChar c) : cleanColumn raw = col := by
  have spaceFree : ' ' ∉ col := fun member => (chars ' ' member).ne_space rfl
  unfold cleanColumn
  dsimp only
  rw [stripped, containsText_eq_false (show ' ' ∈ " AS ".toList by decide)
    fun member => spaceFree (@mem_of_mem_upper ' ' rfl col member)]
  simp [spaceFree]

theorem strip_of_chars {col : List Char} (chars : ∀ c ∈ col, ItemChar c) : strip col = col :=
  strip_eq_self (fun c member => (chars c (List.mem_of_mem_head? member)).isSpace)
    fun c member => (chars c (List.mem_of_mem_getLast? member)).isSpace

theorem IsName.isSpace {name : List Char} (named : IsName name) : ∀ c ∈ name, isSpace c = false :=
  fun c member => ItemChar.isSpace <| by
    rcases named.2 c member with alnum | underscore
    exacts [.inl alnum, .inr (.inl underscore)]

/-- Stripping a built statement keeps everything up to the table name. -/
theorem strip_selectStatement (selectList : List Char) {tableName : List Char}
    (table : IsName tableName) (clauses : List Char) :
    ∃ kept, strip ("SELECT ".toList ++ selectList ++ " FROM ".toList ++ tableName ++ clauses) =
      "SELECT ".toList ++ selectList ++ " FROM ".toList ++ tableName ++ kept :=
  strip_append_of_ends (by simp) (fun c member => by simp at member; rw [← member]; rfl)
    (fun c member => by
      obtain ⟨last, found⟩ := Option.isSome_iff_exists.mp (List.getLast?_isSome.mpr table.1)
      rw [List.getLast?_append, found, Option.or_some, Option.mem_def, Option.some_inj] at member
      exact table.isSpace c (member ▸ List.mem_of_mem_getLast? found))
    clauses

/-- A built statement starts with `SELECT` once stripped and upper-cased. -/
theorem startsWith_selectStatement (selectList : List Char) {tableName : List Char}
    (table : IsName tableName) (clauses : List Char) :
    startsWith (upper (strip ("SELECT ".toList ++ selectList ++ " FROM ".toList ++ tableName ++ clauses)))
      "SELECT".toList = true := by
  obtain ⟨kept, stripped⟩ := strip_selectStatement selectList table clauses
  rw [stripped, startsWith, List.append_assoc, List.append_assoc, List.append_assoc, upper_append]
  exact List.isPrefixOf_iff_prefix.mpr (List.prefix_append "SELECT".toList _)

/-- A select list joined with `", "` is its entries joined with `","`, each but the first after a
space. -/
theorem join_commaSpace (first : List Char) : ∀ rest : List (List Char),
    join ", ".toList (first :: rest) = join [','] (first :: rest.map (' ' :: ·))
  | [] => by rw [List.map_nil, join_singleton, join_singleton]
  | next :: more => by
      rw [join_cons_cons, List.map_cons, join_cons_cons, join_commaSpace next more, join_cons_head]
      simp only [List.append_assoc]
      rfl

/-- A select list of more than one entry is not `*`. -/
theorem eq_star_of_join {first : List Char} {others : List (List Char)}
    (star : join ", ".toList (first :: others) = "*".toList) : first :: others = ["*".toList] := by
  cases others with
  | nil => rw [join_singleton] at star; rw [star]
  | cons next more =>
      have comma : ',' ∈ join ", ".toList (first :: next :: more) := by rw [join_cons_cons]; simp
      rw [star] at comma
      exact absurd comma (by decide)

/-- The slice of a statement between `SELECT` and the ` FROM ` after its select list, at the
positions that `find` gives. -/
theorem slice_selectStatement (selectList tableName clauses : List Char) :
    slice ("SELECT ".toList ++ selectList ++ " FROM ".toList ++ tableName ++ clauses)
      (((0 : Nat) : Int) + 6) ((7 + selectList.length : Nat) : Int) = ' ' :: selectList := by
  have shape : "SELECT ".toList ++ selectList ++ " FROM ".toList ++ tableName ++ clauses =
      "SELECT".toList ++ (' ' :: selectList) ++ (" FROM ".toList ++ tableName ++ clauses) := by
    simp only [List.append_assoc]
    rfl
  have start : ((0 : Nat) : Int) + 6 = (("SELECT".toList.length : Nat) : Int) := rfl
  have stop : ((7 + selectList.length : Nat) : Int) =
      (("SELECT".toList.length : Nat) : Int) + (((' ' :: selectList).length : Nat) : Int) := by
    simp only [List.length_cons]
    omega
  rw [shape, start, stop, slice_append]

section SelectList

variable {first : List Char} {others : List (List Char)} (items : ∀ col ∈ first :: others, SelectItem col)
include items

/-- The first ` FROM ` of an upper-cased statement whose select list has no entry `FROM` follows the
list. -/
theorem indexOfText?_fromKeyword (rest : List Char) :
    indexOfText? " FROM ".toList ("SELECT".toList ++ ' ' :: upper (join ", ".toList (first :: others)) ++
      (" FROM ".toList ++ rest)) = some (7 + (join ", ".toList (first :: others)).length) := by
  have upperList : upper (join ", ".toList (first :: others)) =
      join ", ".toList (upper first :: others.map upper) := by
    rw [upper_join, List.map_cons]
    rfl
  have found := indexOfText?_selectWords (items first (List.mem_cons_self _ _)).upper_word
    (fun w member => by
      obtain ⟨col, present, rfl⟩ := List.mem_map.mp member
      exact (items col (List.mem_cons_of_mem _ present)).upper_word) rest
  rwa [← upperList, upper, List.length_map] at found

/-- The select list stripped of the space after `SELECT`. -/
theorem strip_selectList :
    strip (' ' :: join ", ".toList (first :: others)) = join ", ".toList (first :: others) := by
  have firstItem := items first (List.mem_cons_self _ _)
  have lastItem := items _ (List.getLast_mem (List.cons_ne_nil first others))
  have selectHead : ∀ c ∈ (join ", ".toList (first :: others)).head?, isSpace c = false := by
    rw [head?_join _ firstItem.ne_nil]
    exact fun c member => (firstItem.chars c (List.mem_of_mem_head? member)).isSpace
  have selectLast : ∀ c ∈ (join ", ".toList (first :: others)).getLast?, isSpace c = false := by
    rw [← List.dropLast_concat_getLast (List.cons_ne_nil first others), getLast?_join _ lastItem.ne_nil]
    exact fun c member => (lastItem.chars c (List.mem_of_mem_getLast? member)).isSpace
  rw [← List.singleton_append, strip_blank_append (by decide), strip_eq_self selectHead selectLast]

/-- Splitting a select list at its commas and cleaning each entry gives back the entries. -/
theorem cleanColumns_selectList :
    (splitOn ',' (join ", ".toList (first :: others))).map cleanColumn = first :: others := by
  have firstItem := items first (List.mem_cons_self _ _)
  have commaFree : ∀ part ∈ first :: others.map (' ' :: ·), ',' ∉ part := by
    intro part member comma
    rcases List.mem_cons.mp member with rfl | later
    · exact (firstItem.chars ',' comma).ne_comma rfl
    · obtain ⟨col, present, rfl⟩ := List.mem_map.mp later
      rcases List.mem_cons.mp comma with wrong | comma
      · cases wrong
      · exact ((items col (List.mem_cons_of_mem _ present)).chars ',' comma).ne_comma rfl
  rw [join_commaSpace, splitOn_join commaFree, List.map_cons, List.map_map]
  refine congrArg₂ List.cons (cleanColumn_of_strip (strip_of_chars firstItem.chars) firstItem.chars)
    ((List.map_congr_left fun col member => ?_).trans (List.map_id others))
  have item := items col (List.mem_cons_of_mem _ member)
  refine cleanColumn_of_strip ?_ item.chars
  show strip ([' '] ++ col) = col
  rw [strip_blank_append (by decide), strip_of_chars item.chars]

/-- `_extract_columns_from_query` reads back the entries of a select list that
`_build_column_query` writes. -/
theorem extractColumnsFromQuery_select {tableName : List Char} (table : IsName tableName)
    (clauses : List Char) :
    extractColumnsFromQuery ("SELECT ".toList ++ join ", ".toList (first :: others) ++
      " FROM ".toList ++ tableName ++ clauses) = first :: others := by
  obtain ⟨kept, stripped⟩ := strip_selectStatement (join ", ".toList (first :: others)) table clauses
  have upperShape : upper (strip ("SELECT ".toList ++ join ", ".toList (first :: others) ++
      " FROM ".toList ++ tableName ++ clauses)) = "SELECT".toList ++
        ' ' :: upper (join ", ".toList (first :: others)) ++ (" FROM ".toList ++ upper (tableName ++ kept)) := by
    rw [stripped]
    simp only [upper_append, List.append_assoc]
    rfl
  have selectAt : "SELECT".toList.isPrefixOf (upper (strip ("SELECT ".toList ++
      join ", ".toList (first :: others) ++ " FROM ".toList ++ tableName ++ clauses))) = true := by
    rw [upperShape, List.append_assoc]
    exact List.isPrefixOf_iff_prefix.mpr (List.prefix_append _ _)
  unfold extractColumnsFromQuery
  dsimp only
  rw [startsWith, selectAt, findText_eq (indexOfText?_of_isPrefixOf selectAt),
    findText_eq (by rw [upperShape]; exact indexOfText?_fromKeyword items _), if_neg (by decide),
    if_neg (by omega)]
  rw [slice_selectStatement, strip_selectList items]
  split_ifs with star
  · exact (eq_star_of_join star).symm
  · exact cleanColumns_selectList items

end SelectList

theorem optimizeQuery_optimized (sql : List Char) (availableColumns : List (List Char)) :
    (optimizeQuery sql availableColumns).optimized = true ↔
      (optimizeQuery sql availableColumns).issues = [] := by
  unfold optimizeQuery
  dsimp only
  rw [decide_eq_true_iff, List.length_eq_zero]

theorem validateQuery_valid (sql : List Char) :
    (validateQuery sql).valid = true ↔ startsWith (upper (strip sql)) "SELECT".toList = true ∧
      ∀ keyword ∈ ["DELETE".toList, "INSERT".toList, "UPDATE".toList],
        containsText (upper (strip sql)) keyword = false := by
  unfold validateQuery
  dsimp only
  rw [decide_eq_true_iff, List.length_eq_zero, List.append_eq_nil, ite_eq_left_iff, ite_eq_right_iff]
  simp only [List.cons_ne_nil, imp_false, Bool.not_eq_true, Bool.or_eq_false_iff, List.mem_cons,
    forall_eq_or_imp, List.not_mem_nil, false_implies, implies_true, and_true, Bool.not_eq_false,
    and_assoc]

/-- `_extract_columns_from_query` reads back the columns of every statement that
`_build_column_query` builds from a table name and column names other than `FROM`: the columns,
or `*` for none. -/
theorem extractColumnsFromQuery_buildColumnQuery {tableName : List Char} (table : IsName tableName)
    {columns : List (List Char)} (items : ∀ col ∈ columns, SelectItem col)
    (whereClause : Option (List Char)) (limit : Option Int) :
    extractColumnsFromQuery (buildColumnQuery tableName columns whereClause limit) =
      if columns = [] then ["*".toList] else columns := by
  unfold buildColumnQuery
  split_ifs with empty
  · exact extractColumnsFromQuery_select (fun col member => .inl (List.mem_singleton.mp member))
      table _
  · obtain ⟨first, others, rfl⟩ := List.exists_cons_of_ne_nil empty
    exact extractColumnsFromQuery_select items table _

theorem extractColumnsFromQuery_buildColumnQuery_users :
    extractColumnsFromQuery (buildColumnQuery "users".toList ["name".toList, "age".toList]
      (some "age > 25".toList) (some 10)) = ["name".toList, "age".toList] :=
  extractColumnsFromQuery_buildColumnQuery ⟨by decide, by decide⟩
    (fun col member => by
      rcases List.mem_cons.mp member with rfl | member
      · exact .inr ⟨⟨by decide, by decide⟩, by decide⟩
      · rw [List.mem_singleton.mp member]
        exact .inr ⟨⟨by decide, by decide⟩, by decide⟩) _ _

/-- On a statement that `_build_column_query` builds, `optimize_query` reports an issue for each
selected column other than `*` that is no available column in any letter case, and none else. -/
theorem optimizeQuery_buildColumnQuery {tableName : List Char} (table : IsName tableName)
    {columns : List (List Char)} (items : ∀ col ∈ columns, SelectItem col)
    (whereClause : Option (List Char)) (limit : Option Int) (availableColumns : List (List Char)) :
    (optimizeQuery (buildColumnQuery tableName columns whereClause limit) availableColumns).issues =
      columns.filterMap fun col =>
        if col ≠ "*".toList ∧ lower col ∉ availableColumns.map lower then some (unknownColumnIssue col)
        else none := by
  unfold optimizeQuery
  dsimp only
  rw [extractColumnsFromQuery_buildColumnQuery table items]
  split_ifs with empty
  · rw [empty]
    rfl
  · rfl

/-- `optimize_query` calls a statement that `_build_column_query` builds optimized exactly when every
selected column other than `*` is an available column in some letter case. -/
theorem optimizeQuery_buildColumnQuery_optimized {tableName : List Char} (table : IsName tableName)
    {columns : List (List Char)} (items : ∀ col ∈ columns, SelectItem col)
    (whereClause : Option (List Char)) (limit : Option Int) (availableColumns : List (List Char)) :
    (optimizeQuery (buildColumnQuery tableName columns whereClause limit) availableColumns).optimized =
      true ↔ ∀ col ∈ columns, col ≠ "*".toList → lower col ∈ availableColumns.map lower := by
  have issues := optimizeQuery_buildColumnQuery table items whereClause limit availableColumns
  rw [optimizeQuery_optimized, issues, List.filterMap_eq_nil_iff]
  refine forall₂_congr fun col _ => ?_
  rw [ite_eq_right_iff]
  simp only [reduceCtorEq, imp_false, not_and, not_not]

end Cqlite.Query
