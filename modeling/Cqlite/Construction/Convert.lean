import Cqlite.Construction.CqlTypes
import Cqlite.Construction.PyValue

/-!
`convert_cql_value` of `cqlite/types.py`: the base-type dispatch, the scalar branches, and the
collection branches that convert each member at the parameter types that the extraction functions
read from the type string, with the `list(value)`, `set(value)`, `dict(value)` and `tuple(value)`
fallbacks for other values. Also `PYTHON_TYPE_MAPPING` and `infer_python_type`.
-/

namespace Cqlite.Types

open PyStr

/-- The table `PYTHON_TYPE_MAPPING`; `duration` has no entry. -/
def pythonTypeMapping : CQLType → Option PyType
  | .text | .varchar | .ascii => some .str
  | .int | .smallint | .tinyint | .bigint | .varint | .counter => some .int
  | .float | .double => some .float
  | .decimal => some .decimal
  | .boolean => some .bool
  | .blob => some .bytes
  | .uuid | .timeuuid => some .uuid
  | .timestamp => some .datetime
  | .date => some .date
  | .time => some .time
  | .inet => some .ipAddress
  | .list => some .list
  | .set => some .set
  | .map => some .dict
  | .tuple => some .tuple
  | .udt => some .dict
  | .duration => none

/-- This is `infer_python_type`: the mapped class of the base type, `str` for a base type without
an entry or outside `CQLType`. -/
def inferPythonType (cqlTypeString : List Char) : PyType :=
  match CQLType.ofValue? (baseTypeOf cqlTypeString) with
  | some cqlType => (pythonTypeMapping cqlType).getD .str
  | none => .str

/-- The strings that the `boolean` branch reads as true, after `lower()`. -/
def trueWords : List (List Char) := ["true".toList, "1".toList, "yes".toList, "on".toList]

/-- The branches of `convert_cql_value` for the members of `CQLType` other than the four
collections; `duration` has none and reaches the default, which returns the value as it is. -/
def convertScalar (runtime : Runtime) (cqlType : CQLType) (value : PyValue) :
    Except PyException PyValue :=
  match cqlType with
  | .text | .varchar | .ascii => .ok (.str (runtime.str value))
  | .int | .smallint | .tinyint | .bigint | .counter => PyValue.int <$> runtime.int value
  | .varint => PyValue.int <$> runtime.int value
  | .float => PyValue.float <$> runtime.float value
  | .double => PyValue.float <$> runtime.float value
  | .decimal =>
      match value with
      | .str text => PyValue.decimal <$> runtime.decimal text
      | _ => PyValue.decimal <$> runtime.decimal (runtime.str value)
  | .boolean =>
      match value with
      | .str text => .ok (.bool (trueWords.contains (lower text)))
      | _ => .ok (.bool value.truthy)
  | .blob =>
      match value with
      | .str text => PyValue.bytes <$> runtime.fromhex text
      | _ => PyValue.bytes <$> runtime.bytes value
  | .uuid | .timeuuid =>
      match value with
      | .str text => PyValue.uuid <$> runtime.uuid text
      | _ => .ok value
  | .timestamp =>
      match value with
      | .str text =>
          match runtime.fromisoformat (replaceChar text 'Z' "+00:00".toList) with
          | .ok stamp => .ok (.datetime stamp)
          | .error error =>
              if error.kind = .valueError then do
                let seconds ← runtime.float value
                PyValue.datetime <$> runtime.fromtimestamp (.float seconds)
              else .error error
      | .bool _ | .int _ | .float _ => PyValue.datetime <$> runtime.fromtimestamp value
      | _ => .ok value
  | .date =>
      match value with
      | .str text => PyValue.date <$> runtime.strptimeDate text
      | _ => .ok value
  | .time =>
      match value with
      | .str text => PyValue.time <$> runtime.strptimeTime text
      | _ => .ok value
  | .inet =>
      match value with
      | .str text => PyValue.ipAddress <$> runtime.ipAddress text
      | _ => .ok value
  | .udt => PyValue.dict <$> dictOf value
  | _ => .ok value

/-- The type of item `i` in the `tuple` branch: `element_types[i]`, or `"text"` past the last
one. -/
def tupleElementType (elementTypes : List (List Char)) (i : Nat) : List Char :=
  if h : i < elementTypes.length then elementTypes[i] else "text".toList

/-- This is `convert_cql_value`. The comprehensions of the collection branches convert the
members in order: each member of a `set` is added to the set built so far as it is converted, and
each key of a `dict` is converted before its value. -/
def convertCqlValue (runtime : Runtime) (value : PyValue) (cqlTypeString : List Char) :
    Except PyException PyValue :=
  if value.isNone then .ok .none
  else
    match CQLType.ofValue? (baseTypeOf cqlTypeString) with
    | none => .ok value
    | some .list =>
        match sequence : value.sequenceItems? with
        | some items =>
            PyValue.list <$> items.attach.mapM fun item =>
              convertCqlValue runtime item.1 (extractElementType cqlTypeString)
        | none => PyValue.list <$> value.iterate
    | some .set =>
        match collection : value.collectionItems? with
        | some items =>
            PyValue.set <$> items.attach.foldlM (fun built item => do
              let converted ← convertCqlValue runtime item.1 (extractElementType cqlTypeString)
              setAdd built converted) []
        | none => PyValue.set <$> setOf value
    | some .map =>
        match mapping : value.dictItems? with
        | some items =>
            PyValue.dict <$> items.attach.foldlM (fun built entry => do
              let key ← convertCqlValue runtime entry.1.1 (extractMapTypes cqlTypeString).1
              let converted ← convertCqlValue runtime entry.1.2 (extractMapTypes cqlTypeString).2
              dictSet built key converted) []
        | none => PyValue.dict <$> dictOf value
    | some .tuple =>
        match sequence : value.sequenceItems? with
        | some items =>
            PyValue.tuple <$> items.enum.attach.mapM fun entry =>
              convertCqlValue runtime entry.1.2
                (tupleElementType (extractTupleTypes cqlTypeString) entry.1.1)
        | none => PyValue.tuple <$> value.iterate
    | some cqlType => convertScalar runtime cqlType value
termination_by sizeOf value
decreasing_by
  · exact PyValue.sizeOf_lt_of_sequenceItems sequence item.2
  · exact PyValue.sizeOf_lt_of_collectionItems collection item.2
  · exact (PyValue.sizeOf_lt_of_dictItems mapping entry.2).1
  · exact (PyValue.sizeOf_lt_of_dictItems mapping entry.2).2
  · exact PyValue.sizeOf_lt_of_sequenceItems sequence (List.snd_mem_of_mem_enum entry.2)

/-! ### `get_cql_type_info` -/

/-- This is `cls.__name__` of a class of `PYTHON_TYPE_MAPPING`; the `Union` of the two address
classes is named `Union`. -/
def typeName : PyType → List Char
  | .str => "str".toList
  | .int => "int".toList
  | .float => "float".toList
  | .decimal => "Decimal".toList
  | .bool => "bool".toList
  | .bytes => "bytes".toList
  | .uuid => "UUID".toList
  | .datetime => "datetime".toList
  | .date => "date".toList
  | .time => "time".toList
  | .ipAddress => "Union".toList
  | .list => "list".toList
  | .set => "set".toList
  | .dict => "dict".toList
  | .tuple => "tuple".toList

/-- The base types that `get_cql_type_info` reports as collections. -/
def collectionTypes : List (List Char) := ["list".toList, "set".toList, "map".toList, "tuple".toList]

/-- The base types that `get_cql_type_info` reports as numeric. -/
def numericTypes : List (List Char) :=
  ["int".toList, "smallint".toList, "tinyint".toList, "bigint".toList, "varint".toList, "float".toList,
    "double".toList, "decimal".toList, "counter".toList]

/-- The base types that `get_cql_type_info` reports as temporal. -/
def temporalTypes : List (List Char) := ["timestamp".toList, "date".toList, "time".toList]

/-- What `get_cql_type_info` returns. -/
structure CqlTypeInfo where
  cqlType : List Char
  baseType : List Char
  pythonType : List Char
  typeHint : List Char
  isCollection : Bool
  isNumeric : Bool
  isTemporal : Bool
  nullable : Bool
  deriving DecidableEq, Repr

/-- This is `get_cql_type_info`. -/
def getCqlTypeInfo (cqlTypeString : List Char) : CqlTypeInfo :=
  let baseType := baseTypeOf cqlTypeString
  ⟨cqlTypeString, baseType, typeName (inferPythonType cqlTypeString), createTypeHintString cqlTypeString,
    collectionTypes.contains baseType, numericTypes.contains baseType, temporalTypes.contains baseType,
    true⟩

end Cqlite.Types
