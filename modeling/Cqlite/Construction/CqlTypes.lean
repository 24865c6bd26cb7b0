import Cqlite.Construction.PyString

/-!
The CQL type strings of `cqlite/types.py`: the `CQLType` enumeration, the base-type parse shared by
`infer_python_type`, `convert_cql_value` and `create_type_hint_string`, the parameter extraction
`_extract_element_type`, `_extract_map_types`, `_extract_tuple_types` and `_split_type_params`, and
`create_type_hint_string` itself.
-/

namespace Cqlite.Types

open PyStr

/-- The enumeration `CQLType`. -/
inductive CQLType where
  | text | varchar | ascii | int | smallint | tinyint | bigint | varint | float | double | decimal
  | boolean | blob | uuid | timeuuid | timestamp | date | time | duration | inet | list | set | map
  | tuple | udt | counter
  deriving DecidableEq, Repr

/-- The value of a `CQLType` member. -/
def CQLType.value : CQLType → List Char
  | .text => "text".toList
  | .varchar => "varchar".toList
  | .ascii => "ascii".toList
  | .int => "int".toList
  | .smallint => "smallint".toList
  | .tinyint => "tinyint".toList
  | .bigint => "bigint".toList
  | .varint => "varint".toList
  | .float => "float".toList
  | .double => "double".toList
  | .decimal => "decimal".toList
  | .boolean => "boolean".toList
  | .blob => "blob".toList
  | .uuid => "uuid".toList
  | .timeuuid => "timeuuid".toList
  | .timestamp => "timestamp".toList
  | .date => "date".toList
  | .time => "time".toList
  | .duration => "duration".toList
  | .inet => "inet".toList
  | .list => "list".toList
  | .set => "set".toList
  | .map => "map".toList
  | .tuple => "tuple".toList
  | .udt => "udt".toList
  | .counter => "counter".toList

/-- The members of `CQLType` in declaration order. -/
def CQLType.members : List CQLType :=
  [.text, .varchar, .ascii, .int, .smallint, .tinyint, .bigint, .varint, .float, .double, .decimal,
    .boolean, .blob, .uuid, .timeuuid, .timestamp, .date, .time, .duration, .inet, .list, .set, .map,
    .tuple, .udt, .counter]

/-- This is `CQLType(value)`: the member with that value, or `none` where it raises `ValueError`. -/
def CQLType.ofValue? (value : List Char) : Option CQLType :=
  CQLType.members.find? (·.value = value)

/-- This is `cql_type_string.split('<')[0].lower().strip()`. -/
def baseTypeOf (cqlTypeString : List Char) : List Char :=
  strip (lower ((splitOn '<' cqlTypeString).headD []))

/-- One character of the loop of `_split_type_params`: the finished `parts`, the `current`
parameter and the bracket `depth`. -/
structure SplitState where
  parts : List (List Char)
  current : List Char
  depth : Int

/-- The body of the loop of `_split_type_params`. -/
def SplitState.step (state : SplitState) (char : Char) : SplitState :=
  if char = '<' then ⟨state.parts, state.current ++ [char], state.depth + 1⟩
  else if char = '>' then ⟨state.parts, state.current ++ [char], state.depth - 1⟩
  else if char = ',' ∧ state.depth = 0 then ⟨state.parts ++ [strip state.current], [], state.depth⟩
  else ⟨state.parts, state.current ++ [char], state.depth⟩

/-- This is `_split_type_params`. -/
def splitTypeParams (paramsString : List Char) : List (List Char) :=
  let final := paramsString.foldl SplitState.step ⟨[], [], 0⟩
  if (strip final.current).isEmpty then final.parts else final.parts ++ [strip final.current]

/-- The part of a type string inside its outermost brackets, stripped: the
`cql_type_string[start:end].strip()` that the three extraction functions compute when
`'<' in cql_type_string and '>' in cql_type_string`. -/
def innerTypeString? (cqlTypeString : List Char) : Option (List Char) :=
  if '<' ∈ cqlTypeString ∧ '>' ∈ cqlTypeString then
    some (strip (slice cqlTypeString (find cqlTypeString '<' + 1) (rfind cqlTypeString '>')))
  else none

/-- This is `_extract_element_type`. -/
def extractElementType (cqlTypeString : List Char) : List Char :=
  (innerTypeString? cqlTypeString).getD "text".toList

/-- This is `_extract_map_types`. -/
def extractMapTypes (cqlTypeString : List Char) : List Char × List Char :=
  match innerTypeString? cqlTypeString with
  | some inner =>
      match splitTypeParams inner with
      | keyType :: valueType :: _ => (strip keyType, strip valueType)
      | _ => ("text".toList, "text".toList)
  | none => ("text".toList, "text".toList)

/-- This is `_extract_tuple_types`. -/
def extractTupleTypes (cqlTypeString : List Char) : List (List Char) :=
  match innerTypeString? cqlTypeString with
  | some inner => (splitTypeParams inner).map strip
  | none => ["text".toList]

/-- The table `simple_mappings` of `create_type_hint_string`. -/
def simpleMappings : List (List Char × List Char) :=
  [("text".toList, "str".toList), ("varchar".toList, "str".toList), ("ascii".toList, "str".toList),
    ("int".toList, "int".toList), ("smallint".toList, "int".toList),
    ("tinyint".toList, "int".toList), ("bigint".toList, "int".toList),
    ("varint".toList, "int".toList), ("counter".toList, "int".toList),
    ("float".toList, "float".toList), ("double".toList, "float".toList),
    ("decimal".toList, "decimal.Decimal".toList), ("boolean".toList, "bool".toList),
    ("blob".toList, "bytes".toList), ("uuid".toList, "uuid.UUID".toList),
    ("timeuuid".toList, "uuid.UUID".toList), ("timestamp".toList, "datetime.datetime".toList),
    ("date".toList, "datetime.date".toList), ("time".toList, "datetime.time".toList),
    ("inet".toList, "Union[ipaddress.IPv4Address, ipaddress.IPv6Address]".toList)]

/-! ### Termination of `create_type_hint_string`

A type string whose base type is in `simple_mappings` is answered at once; any other one recurses
only on strictly shorter strings or on the default `"text"`. -/

/-- The measure that decreases along the recursion of `create_type_hint_string`. -/
def hintMeasure (cqlTypeString : List Char) : Nat :=
  if (simpleMappings.lookup (baseTypeOf cqlTypeString)).isSome then 0 else cqlTypeString.length + 1

/-- A recursive call on the default or on a shorter string decreases the measure. -/
theorem hintMeasure_lt {cqlTypeString other : List Char}
    (notSimple : simpleMappings.lookup (baseTypeOf cqlTypeString) = none)
    (smaller : other = "text".toList ∨ other.length < cqlTypeString.length) :
    hintMeasure other < hintMeasure cqlTypeString := by
  have measured : hintMeasure cqlTypeString = cqlTypeString.length + 1 := by
    simp [hintMeasure, notSimple]
  rw [measured]
  rcases smaller with rfl | shorter
  · rw [show hintMeasure "text".toList = 0 by decide]; omega
  · unfold hintMeasure; split <;> omega

/-- The state's strings never outgrow the characters read. -/
theorem SplitState.step_bounded {state : SplitState} {read : Nat}
    (bounded : (∀ part ∈ state.parts, part.length ≤ read) ∧ state.current.length ≤ read)
    (char : Char) :
    (∀ part ∈ (state.step char).parts, part.length ≤ read + 1) ∧
      (state.step char).current.length ≤ read + 1 := by
  obtain ⟨partsBounded, currentBounded⟩ := bounded
  unfold step
  split_ifs <;> simp only [List.mem_append, List.mem_singleton, List.length_append,
    List.length_singleton, List.length_nil] <;> refine ⟨?_, by omega⟩ <;>
    first
    | exact fun part member => by have := partsBounded part member; omega
    | rintro part (member | rfl)
      · have := partsBounded part member; omega
      · have := (strip_sublist state.current).length_le; omega

/-- Every part of `_split_type_params` is at most as long as its argument. -/
theorem length_le_of_mem_splitTypeParams {paramsString part : List Char}
    (member : part ∈ splitTypeParams paramsString) : part.length ≤ paramsString.length := by
  have run : ∀ (rest : List Char) (state : SplitState) (read : Nat),
      (∀ part ∈ state.parts, part.length ≤ read) ∧ state.current.length ≤ read →
      (∀ part ∈ (rest.foldl SplitState.step state).parts, part.length ≤ read + rest.length) ∧
        (rest.foldl SplitState.step state).current.length ≤ read + rest.length := by
    intro rest
    induction rest with
    | nil => intro state read bounded; simpa using bounded
    | cons char rest ih =>
        intro state read bounded
        rw [List.foldl_cons, List.length_cons, ← Nat.add_assoc, Nat.add_right_comm]
        exact ih _ _ (SplitState.step_bounded bounded char)
  obtain ⟨parts, current⟩ := run paramsString ⟨[], [], 0⟩ 0 (by simp)
  rw [Nat.zero_add] at parts current
  unfold splitTypeParams at member
  dsimp only at member
  split at member
  · exact parts part member
  · rcases List.mem_append.mp member with old | new
    · exact parts part old
    · rw [List.mem_singleton.mp new]; exact (strip_sublist _).length_le.trans current

/-- The bracketed part is shorter than the type string. -/
theorem length_lt_of_innerTypeString {cqlTypeString inner : List Char}
    (extracted : innerTypeString? cqlTypeString = some inner) :
    inner.length < cqlTypeString.length := by
  unfold innerTypeString? at extracted
  split at extracted
  · rename_i brackets
    cases extracted
    have nonempty := List.length_pos_of_mem brackets.1
    have start := one_le_sliceIndex
      (show 1 ≤ find cqlTypeString '<' + 1 by have := find_nonneg brackets.1; omega) nonempty
    calc (strip _).length ≤ (slice _ _ _).length := (strip_sublist _).length_le
      _ ≤ cqlTypeString.length - 1 :=
        (length_slice_le _ _ _).trans (Nat.sub_le_sub_left start _)
      _ < cqlTypeString.length := by omega
  · cases extracted

/-- The element type is the default or shorter than the type string. -/
theorem extractElementType_smaller (cqlTypeString : List Char) :
    extractElementType cqlTypeString = "text".toList ∨
      (extractElementType cqlTypeString).length < cqlTypeString.length := by
  unfold extractElementType
  cases extracted : innerTypeString? cqlTypeString with
  | none => exact .inl rfl
  | some inner => exact .inr (length_lt_of_innerTypeString extracted)

/-- The key and value types are the default or shorter than the type string. -/
theorem extractMapTypes_smaller (cqlTypeString : List Char) :
    ∀ parameter ∈ [(extractMapTypes cqlTypeString).1, (extractMapTypes cqlTypeString).2],
      parameter = "text".toList ∨ parameter.length < cqlTypeString.length := by
  unfold extractMapTypes
  split
  · rename_i inner extracted
    have shorter := length_lt_of_innerTypeString extracted
    split
    · rename_i keyType valueType rest parts
      have bound : ∀ part ∈ splitTypeParams inner, (strip part).length < cqlTypeString.length :=
        fun part member => by
          have := (strip_sublist part).length_le
          have := length_le_of_mem_splitTypeParams member
          omega
      simp only [List.mem_cons, List.mem_singleton, List.not_mem_nil, or_false]
      rintro parameter (rfl | rfl)
      · exact .inr (bound keyType (by rw [parts]; simp))
      · exact .inr (bound valueType (by rw [parts]; simp))
    · simp
  · simp

/-- Every tuple element type is the default or shorter than the type string. -/
theorem extractTupleTypes_smaller {cqlTypeString parameter : List Char}
    (member : parameter ∈ extractTupleTypes cqlTypeString) :
    parameter = "text".toList ∨ parameter.length < cqlTypeString.length := by
  unfold extractTupleTypes at member
  split at member
  · rename_i inner extracted
    obtain ⟨part, partMember, rfl⟩ := List.mem_map.mp member
    have := (strip_sublist part).length_le
    have := length_le_of_mem_splitTypeParams partMember
    have := length_lt_of_innerTypeString extracted
    exact .inr (by omega)
  · exact .inl (List.mem_singleton.mp member)

/-- This is `create_type_hint_string`; `baseTypeOf cqlTypeString` is its `base_type`. -/
def createTypeHintString (cqlTypeString : List Char) : List Char :=
  if simple : (simpleMappings.lookup (baseTypeOf cqlTypeString)).isSome then
    (simpleMappings.lookup (baseTypeOf cqlTypeString)).get simple
  else if baseTypeOf cqlTypeString = "list".toList then
    "List[".toList ++ createTypeHintString (extractElementType cqlTypeString) ++ "]".toList
  else if baseTypeOf cqlTypeString = "set".toList then
    "Set[".toList ++ createTypeHintString (extractElementType cqlTypeString) ++ "]".toList
  else if baseTypeOf cqlTypeString = "map".toList then
    "Dict[".toList ++ createTypeHintString (extractMapTypes cqlTypeString).1 ++ ", ".toList ++
      createTypeHintString (extractMapTypes cqlTypeString).2 ++ "]".toList
  else if baseTypeOf cqlTypeString = "tuple".toList then
    "Tuple[".toList ++
      join ", ".toList ((extractTupleTypes cqlTypeString).attach.map fun elementType =>
        createTypeHintString elementType.1) ++ "]".toList
  else if baseTypeOf cqlTypeString = "udt".toList then "Dict[str, Any]".toList
  else "Any".toList
termination_by hintMeasure cqlTypeString
decreasing_by
  all_goals refine hintMeasure_lt (Option.not_isSome_iff_eq_none.mp simple) ?_
  · exact extractElementType_smaller _
  · exact extractElementType_smaller _
  · exact extractMapTypes_smaller _ _ (by simp)
  · exact extractMapTypes_smaller _ _ (by simp)
  · exact extractTupleTypes_smaller elementType.2

end Cqlite.Types
