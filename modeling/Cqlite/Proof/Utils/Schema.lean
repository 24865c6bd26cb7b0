import Cqlite.Construction.Utils
import Cqlite.Proof.Types.Grammar

/-!
What `create_schema_from_cql` reads from a `CREATE TABLE` statement laid out one column per line:
every column name exactly, and as each column's type the type text up to its first whitespace,
which is the whole type exactly when the type has no whitespace.
-/

namespace Cqlite.Utils

open PyStr Types

/-- A lower-case CQL identifier: lower-case letters, digits and underscores. -/
def IsIdentifier (s : List Char) : Prop :=
  s ≠ [] ∧ ∀ c ∈ s, c.isLower = true ∨ c.isDigit = true ∨ c = '_'

instance (s : List Char) : Decidable (IsIdentifier s) := inferInstanceAs (Decidable (_ ∧ _))

/-- The definition line of a column. -/
def columnLine (column : List Char × List Char) : List Char :=
  "    ".toList ++ column.1 ++ ' ' :: column.2 ++ [',']

/-- The first line of the statement. -/
def headerLine (keyspace table : List Char) : List Char :=
  "CREATE TABLE ".toList ++ keyspace ++ '.' :: table ++ " (".toList

/-- The line that declares the first column as primary key. -/
def primaryKeyLine (name : List Char) : List Char := "    PRIMARY KEY (".toList ++ name ++ [')']

/-- A `CREATE TABLE` statement with one column per line and the first column as primary key. -/
def createTableStatement (keyspace table : List Char) (first : List Char × List Char)
    (rest : List (List Char × List Char)) : List Char :=
  join ['\n'] (headerLine keyspace table ::
    ((first :: rest).map columnLine ++ [primaryKeyLine first.1, [')']]))

/-- The type that `create_schema_from_cql` keeps of a column type: the text up to its first
whitespace, without the commas at its end. -/
def typeHead (type : List Char) : List Char :=
  (type.takeWhile fun c => !isSpace c).rdropWhile (· = ',')

/-! ### Characters -/

/-- A digit is not whitespace. -/
theorem isSpace_of_isDigit {c : Char} (digit : c.isDigit = true) : isSpace c = false := by
  simp only [Char.isDigit, Bool.and_eq_true, decide_eq_true_eq] at digit
  change 48 ≤ c.toNat ∧ c.toNat ≤ 57 at digit
  simp only [isSpace, Bool.or_eq_false_iff, Bool.and_eq_false_iff, decide_eq_false_iff_not,
    beq_eq_false_iff_ne, ne_eq]
  omega

/-- The characters of an identifier are neither whitespace nor the punctuation of a statement. -/
theorem identifierChar {c : Char} (char : c.isLower = true ∨ c.isDigit = true ∨ c = '_') :
    isSpace c = false ∧ c ≠ ',' ∧ c ≠ ')' ∧ c ≠ '\n' ∧ c ≠ 'P' := by
  rcases char with lower | digit | rfl
  · refine ⟨isSpace_of_isAlpha (by simp [Char.isAlpha, lower]), ?_, ?_, ?_, ?_⟩ <;> rintro rfl <;>
      exact absurd lower (by decide)
  · refine ⟨isSpace_of_isDigit digit, ?_, ?_, ?_, ?_⟩ <;> rintro rfl <;>
      exact absurd digit (by decide)
  · decide

/-- A type character is not a closing parenthesis. -/
theorem typeChar_ne_close {c : Char} (char : IsTypeChar c) : c ≠ ')' := by
  rintro rfl
  rcases char with wrong | wrong | wrong | wrong | wrong <;> exact absurd wrong (by decide)

/-! ### The lines of the statement -/

/-- The identifier conditions give each line of the statement the facts the loops read. -/
theorem IsIdentifier.chars {name : List Char} (named : IsIdentifier name) :
    ∀ c ∈ name, isSpace c = false ∧ c ≠ ',' ∧ c ≠ ')' ∧ c ≠ '\n' ∧ c ≠ 'P' :=
  fun c member => identifierChar (named.2 c member)

/-- A definition line strips to the name, a space, the type and a comma. -/
theorem strip_columnLine {name type : List Char} (named : IsIdentifier name) :
    strip (columnLine (name, type)) = name ++ ' ' :: (type ++ [',']) := by
  obtain ⟨c, more, rfl⟩ := List.exists_cons_of_ne_nil named.1
  rw [columnLine, List.append_assoc, List.append_assoc, strip_blank_append (by decide)]
  refine strip_eq_self (fun d member => ?_) (fun d member => ?_)
  · simp only [List.cons_append, List.head?_cons, Option.mem_def, Option.some.injEq] at member
    exact member ▸ (named.chars c (List.mem_cons_self _ _)).1
  · simp only [← List.cons_append, ← List.append_assoc, List.getLast?_concat, Option.mem_def,
      Option.some.injEq] at member
    exact member ▸ rfl

/-- The type read from a definition line: `parts[1]`, stripped of `,`, is the type's head. -/
theorem stripChars_token {type : List Char} (printed : WellPrinted type) :
    stripChars [','] ((type ++ [',']).takeWhile fun c => !isSpace c) = typeHead type := by
  have startsAlpha : ∀ c ∈ type.head?, c.isAlpha = true := printed.startsAlpha
  have sameKeep : (fun c => decide (c ∈ [','])) = fun c => decide (c = ',') := by
    funext c; simp
  have firstKept : ∀ c ∈ ((type ++ [',']).takeWhile fun c => !isSpace c).head?,
      decide (c ∈ [',']) = false := by
    obtain ⟨c, more, rfl⟩ := List.exists_cons_of_ne_nil printed.nonempty
    have alpha := startsAlpha c rfl
    simp only [List.cons_append, List.takeWhile_cons, isSpace_of_isAlpha alpha, Bool.not_false,
      if_true, List.head?_cons, Option.mem_def, Option.some.injEq]
    rintro d rfl
    simp only [List.mem_singleton, decide_eq_false_iff_not]
    rintro rfl
    exact absurd alpha (by decide)
  rw [stripChars, stripBy_of_head firstKept, typeHead, sameKeep, List.takeWhile_append]
  split
  · rename_i whole
    have all : type.takeWhile (fun c => !isSpace c) = type :=
      (List.takeWhile_prefix _).eq_of_length whole
    rw [all, List.takeWhile_cons_of_pos (by decide), List.takeWhile_nil,
      List.rdropWhile_concat_pos _ _ _ (by decide)]
  · rfl

/-- `typeHead` keeps the whole type exactly when the type has no whitespace. -/
theorem typeHead_eq_self_iff {type : List Char} (printed : WellPrinted type) :
    typeHead type = type ↔ ∀ c ∈ type, isSpace c = false := by
  constructor
  · intro same
    have longest : type.length ≤ (type.takeWhile fun c => !isSpace c).length :=
      calc type.length = (typeHead type).length := by rw [same]
        _ ≤ _ := (List.rdropWhile_prefix _ _).length_le
    have whole : type.takeWhile (fun c => !isSpace c) = type :=
      (List.takeWhile_prefix _).eq_of_length
        (le_antisymm (List.takeWhile_prefix _).length_le longest)
    intro c member
    simpa using List.takeWhile_eq_self_iff.mp whole c member
  · intro noSpace
    rw [typeHead, List.takeWhile_eq_self_iff.mpr (by simpa using noSpace), List.rdropWhile_eq_self_iff]
    intro nonempty
    rcases printed.endsClosed _ (List.getLast?_eq_getLast type nonempty) with alpha | closing
    · simp only [decide_eq_true_eq]
      rintro comma
      exact absurd (comma ▸ alpha) (by decide)
    · simp [closing]

/-- A column as the statement writes it: an identifier and a well-printed type on one line. -/
structure ColumnText (column : List Char × List Char) : Prop where
  named : IsIdentifier column.1
  printed : WellPrinted column.2
  oneLine : '\n' ∉ column.2

theorem ColumnText.newline_not_mem {column : List Char × List Char} (text : ColumnText column) :
    '\n' ∉ columnLine column := by
  have nameFree : '\n' ∉ column.1 := fun member => (text.named.chars _ member).2.2.2.1 rfl
  simp [columnLine, nameFree, text.oneLine]

theorem IsIdentifier.stripChars_comma {name : List Char} (named : IsIdentifier name) :
    stripChars [','] name = name := by
  have kept : ∀ c ∈ name, decide (c ∈ [',']) = false := fun c member => by
    simpa using (named.chars c member).2.1
  exact stripBy_eq_self (fun c member => kept c (List.mem_of_mem_head? member))
    (fun c member => kept c (List.mem_of_getLast?_eq_some member))

/-- The header opens the column block. -/
theorem columnLines_header (keyspace table : List Char) (lines : List (List Char)) :
    columnLines false (headerLine keyspace table :: lines) = columnLines true lines := by
  have shape : headerLine keyspace table =
      ("CREATE TABLE ".toList ++ keyspace ++ '.' :: table ++ [' ']) ++ ['('] := by
    simp [headerLine]
  have stripped : strip (headerLine keyspace table) = headerLine keyspace table :=
    strip_eq_self (by simp [headerLine, isSpace])
      (by rw [shape, List.getLast?_concat]; rintro _ ⟨⟩; decide)
  rw [columnLines, if_pos ⟨by rw [stripped, shape]; simp, rfl⟩]

/-- Each definition line adds its column, with the type's head as type. -/
theorem columnLines_columnLine {column : List Char × List Char} (text : ColumnText column)
    (lines : List (List Char)) :
    columnLines true (columnLine column :: lines) =
      ⟨column.1, typeHead column.2, "str".toList, true, false, false⟩ :: columnLines true lines := by
  obtain ⟨name, type⟩ := column
  obtain ⟨c, more, rfl⟩ := List.exists_cons_of_ne_nil text.named.1
  have nameChars : ∀ d ∈ c :: more, isSpace d = false ∧ d ≠ ',' ∧ d ≠ ')' ∧ d ≠ '\n' ∧ d ≠ 'P' :=
    text.named.chars
  have noClose : ')' ∉ (c :: more) ++ ' ' :: (type ++ [',']) := by
    simp only [List.mem_append, List.mem_cons, List.mem_singleton, not_or]
    exact ⟨⟨fun same => (nameChars c (List.mem_cons_self _ _)).2.2.1 same.symm,
      fun member => (nameChars _ (List.mem_cons_of_mem _ member)).2.2.1 rfl⟩, by decide,
      fun member => typeChar_ne_close (text.printed.chars _ member) rfl, by decide⟩
  have notKey : startsWith ((c :: more) ++ ' ' :: (type ++ [','])) "PRIMARY KEY".toList = false :=
    startsWith_cons_of_ne (nameChars c (List.mem_cons_self _ _)).2.2.2.2 _ _
  obtain ⟨words, typeWords⟩ := split_of_head
    (s := type ++ [',']) (fun d member => by
      obtain ⟨e, rest, rfl⟩ := List.exists_cons_of_ne_nil text.printed.nonempty
      simp only [List.cons_append, List.head?_cons, Option.mem_def, Option.some.injEq] at member
      exact member ▸ isSpace_of_isAlpha (text.printed.startsAlpha e rfl)) (by simp)
  rw [columnLines, strip_columnLine text.named, if_neg (by simp), if_neg fun closing => noClose closing.2,
    if_pos ⟨rfl, List.cons_ne_nil _ _, by rw [notKey]; rfl⟩,
    split_append_space (List.cons_ne_nil _ _) (fun d member => (nameChars d member).1) (by decide),
    typeWords]
  simp only [columnOf, text.named.stripChars_comma, stripChars_token text.printed]

/-- The primary-key line closes the column block. -/
theorem columnLines_primaryKey (name : List Char) (lines : List (List Char)) :
    columnLines true (primaryKeyLine name :: lines) = [] := by
  have stripped : strip (primaryKeyLine name) = "PRIMARY KEY (".toList ++ name ++ [')'] := by
    rw [primaryKeyLine, show "    PRIMARY KEY (".toList = "    ".toList ++ "PRIMARY KEY (".toList from rfl,
      List.append_assoc, List.append_assoc, strip_blank_append (by decide), ← List.append_assoc]
    exact strip_eq_self (by simp [isSpace]) (by rw [List.getLast?_concat]; rintro _ ⟨⟩; decide)
  rw [columnLines, if_neg (by simp), if_pos ⟨rfl, by rw [stripped]; simp⟩]

/-- The column loop over the definition lines of well-written columns. -/
theorem columnLines_columns {columns : List (List Char × List Char)}
    (texts : ∀ column ∈ columns, ColumnText column) (name : List Char) (lines : List (List Char)) :
    columnLines true (columns.map columnLine ++ primaryKeyLine name :: lines) =
      columns.map fun column => ⟨column.1, typeHead column.2, "str".toList, true, false, false⟩ := by
  induction columns with
  | nil => exact columnLines_primaryKey name lines
  | cons column rest ih =>
      rw [List.map_cons, List.cons_append, columnLines_columnLine (texts column (List.mem_cons_self _ _)),
        ih fun column member => texts column (List.mem_cons_of_mem _ member), List.map_cons]

/-! ### The statement -/

/-- The column list is the column loop over the lines of the stripped statement. -/
theorem createSchemaFromCql_columns (cqlStatement : List Char) :
    (createSchemaFromCql cqlStatement).columns =
      columnLines false (splitOn '\n' (strip cqlStatement)) := rfl

theorem IsIdentifier.newline_not_mem {name : List Char} (named : IsIdentifier name) : '\n' ∉ name :=
  fun member => (named.chars _ member).2.2.2.1 rfl

/-- The statement starts with `C` and ends with `)`, so stripping it changes nothing. -/
theorem strip_createTableStatement (keyspace table : List Char) (first : List Char × List Char)
    (rest : List (List Char × List Char)) :
    strip (createTableStatement keyspace table first rest) =
      createTableStatement keyspace table first rest := by
  have shape : createTableStatement keyspace table first rest =
      join ['\n'] (headerLine keyspace table :: ((first :: rest).map columnLine ++
        [primaryKeyLine first.1])) ++ ['\n'] ++ [')'] := by
    rw [createTableStatement, ← join_append_singleton _ (List.cons_ne_nil _ _)]
    simp
  refine strip_eq_self ?_ (by rw [shape, List.getLast?_concat]; rintro _ ⟨⟩; decide)
  rw [createTableStatement, List.map_cons, List.cons_append, join_cons_cons]
  simp [headerLine, isSpace]

/-- The lines of the statement: the header, one line per column, the primary key and `)`. -/
theorem splitOn_createTableStatement {keyspace table : List Char} (keyspaceName : IsIdentifier keyspace)
    (tableName : IsIdentifier table) {first : List Char × List Char}
    {rest : List (List Char × List Char)} (texts : ∀ column ∈ first :: rest, ColumnText column) :
    splitOn '\n' (createTableStatement keyspace table first rest) =
      headerLine keyspace table :: ((first :: rest).map columnLine ++ [primaryKeyLine first.1, [')']]) := by
  refine splitOn_join fun part member => ?_
  simp only [List.mem_cons, List.mem_append, List.mem_map, List.mem_singleton] at member
  rcases member with rfl | ⟨column, listed, rfl⟩ | rfl | rfl | nothing
  · simp [headerLine, keyspaceName.newline_not_mem, tableName.newline_not_mem]
  · exact (texts column (List.mem_cons.mpr listed)).newline_not_mem
  · simp [primaryKeyLine, (texts first (List.mem_cons_self _ _)).named.newline_not_mem]
  · decide
  · exact absurd nothing (List.not_mem_nil _)

/-- The columns read back from a statement of well-written columns: every name exactly, and the
head of every type. -/
theorem createSchemaFromCql_columnTexts {keyspace table : List Char} (keyspaceName : IsIdentifier keyspace)
    (tableName : IsIdentifier table) {first : List Char × List Char}
    {rest : List (List Char × List Char)} (texts : ∀ column ∈ first :: rest, ColumnText column) :
    (createSchemaFromCql (createTableStatement keyspace table first rest)).columns =
      (first :: rest).map fun column => ⟨column.1, typeHead column.2, "str".toList, true, false, false⟩ := by
  rw [createSchemaFromCql_columns, strip_createTableStatement,
    splitOn_createTableStatement keyspaceName tableName texts, columnLines_header, columnLines_columns texts]

/-- `create_schema_from_cql` reads back from a rendered statement every column name exactly, and as
each column's type the printed type up to its first whitespace, without trailing commas; that is the
whole printed type exactly when the type has no whitespace. -/
theorem createSchemaFromCql_columnTypes (keyspace table : List Char) (first : List Char × PrintedType)
    (rest : List (List Char × PrintedType)) (keyspaceName : IsIdentifier keyspace)
    (tableName : IsIdentifier table) (names : ∀ column ∈ first :: rest, IsIdentifier column.1)
    (oneLine : ∀ column ∈ first :: rest, '\n' ∉ column.2.text) :
    (createSchemaFromCql (createTableStatement keyspace table (first.1, first.2.text)
        (rest.map fun column => (column.1, column.2.text)))).columns =
      (first :: rest).map (fun column =>
        ⟨column.1, typeHead column.2.text, "str".toList, true, false, false⟩) ∧
    ∀ column ∈ first :: rest,
      typeHead column.2.text = column.2.text ↔ ∀ c ∈ column.2.text, isSpace c = false := by
  have texts : ∀ column ∈ (first :: rest).map fun column => (column.1, column.2.text),
      ColumnText column := by
    simp only [List.mem_map]
    rintro _ ⟨column, listed, rfl⟩
    exact ⟨names column listed, column.2.wellPrinted, oneLine column listed⟩
  refine ⟨?_, fun column _ => typeHead_eq_self_iff column.2.wellPrinted⟩
  rw [createSchemaFromCql_columnTexts keyspaceName tableName texts]
  simp only [List.map_cons, List.map_map, Function.comp_def]

theorem createSchemaFromCql_columnTypes_spacedMap :
    (createSchemaFromCql (createTableStatement "ks".toList "tb".toList
        ("id".toList, (PrintedType.simple ⟨.int, rfl⟩ (.lowerCase .int)).text)
        [("m".toList, (PrintedType.map (.lowerCase .map)
          (.padded .none (.simple ⟨.text, rfl⟩ (.lowerCase .text)) .none)
          (.padded ⟨[' '], by decide⟩ (.simple ⟨.int, rfl⟩ (.lowerCase .int)) .none)).text)])).columns =
      [⟨"id".toList, typeHead "int".toList, "str".toList, true, false, false⟩,
        ⟨"m".toList, typeHead "map<text, int>".toList, "str".toList, true, false, false⟩] ∧
    (typeHead "map<text, int>".toList = "map<text, int>".toList ↔
      ∀ c ∈ "map<text, int>".toList, isSpace c = false) :=
  let columns := createSchemaFromCql_columnTypes "ks".toList "tb".toList
    ("id".toList, PrintedType.simple ⟨.int, rfl⟩ (.lowerCase .int))
    [("m".toList, PrintedType.map (.lowerCase .map)
      (.padded .none (.simple ⟨.text, rfl⟩ (.lowerCase .text)) .none)
      (.padded ⟨[' '], by decide⟩ (.simple ⟨.int, rfl⟩ (.lowerCase .int)) .none))]
    (by decide) (by decide) (by decide) (by decide)
  ⟨columns.1, columns.2 _ (List.mem_cons_of_mem _ (List.mem_singleton_self _))⟩

/-- A rendered map type with a space after its comma is read back cut at the space. -/
theorem createSchemaFromCql_spacedMap :
    (createSchemaFromCql (createTableStatement "ks".toList "tb".toList ("id".toList, "int".toList)
        [("m".toList, "map<text, int>".toList)])).columns.map (fun column => (column.name, column.cqlType)) ≠
      [("id".toList, "int".toList), ("m".toList, "map<text, int>".toList)] := by
  decide

end Cqlite.Utils
