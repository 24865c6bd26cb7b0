import Cqlite.Construction.Convert
import Cqlite.Proof.Types.Hints

/-!
What `get_cql_type_info` reports. Its flags and the Python type it names are read from the same base
type, and they agree: a type is numeric exactly when its Python type is `int`, `float` or `Decimal`,
temporal exactly when it is `datetime`, `date` or `time`, and a collection exactly when it is `list`,
`set`, `dict` or `tuple`, but for `udt`, whose `dict` is not reported as a collection. The type
hint names that Python type too, but for `duration` and names outside `CQLType`, whose Python type is
`str` and whose hint is `Any`.
-/

namespace Cqlite.Types

/-- The member that `CQLType(value)` finds has that value. -/
theorem CQLType.value_of_ofValue? {value : List Char} {cqlType : CQLType}
    (found : CQLType.ofValue? value = some cqlType) : cqlType.value = value := by
  simpa using List.find?_some found

/-- A name that is no member's value is in none of the lists of `get_cql_type_info`. -/
theorem not_mem_of_ofValue?_eq_none {value : List Char} (missing : CQLType.ofValue? value = none) :
    value ∉ collectionTypes ++ numericTypes ++ temporalTypes ++ ["udt".toList] := by
  have named : ∀ name ∈ collectionTypes ++ numericTypes ++ temporalTypes ++ ["udt".toList],
      (CQLType.ofValue? name).isSome := by decide
  exact fun member => by simpa [missing] using named value member

/-- How the type hint of a Python type starts: its qualified name, or the `typing` name of a
collection and its bracket. -/
def hintHead : PyType → List Char
  | .str => "str".toList
  | .int => "int".toList
  | .float => "float".toList
  | .decimal => "decimal.Decimal".toList
  | .bool => "bool".toList
  | .bytes => "bytes".toList
  | .uuid => "uuid.UUID".toList
  | .datetime => "datetime.datetime".toList
  | .date => "datetime.date".toList
  | .time => "datetime.time".toList
  | .ipAddress => "Union[ipaddress.IPv4Address, ipaddress.IPv6Address]".toList
  | .list => "List[".toList
  | .set => "Set[".toList
  | .dict => "Dict[".toList
  | .tuple => "Tuple[".toList

/-- A base type outside `CQLType` has the hint `Any`. -/
theorem createTypeHintString_of_unknown {cqlTypeString : List Char}
    (missing : CQLType.ofValue? (baseTypeOf cqlTypeString) = none) :
    createTypeHintString cqlTypeString = "Any".toList := by
  have named : ∀ name ∈ simpleMappings.map Prod.fst ++
      ["list".toList, "set".toList, "map".toList, "tuple".toList, "udt".toList],
      (CQLType.ofValue? name).isSome := by decide
  have absent : ∀ name ∈ simpleMappings.map Prod.fst ++
      ["list".toList, "set".toList, "map".toList, "tuple".toList, "udt".toList],
      baseTypeOf cqlTypeString ≠ name := fun name member same => by
    simpa [← same, missing] using named name member
  have notSimple : ¬(simpleMappings.lookup (baseTypeOf cqlTypeString)).isSome := fun found => by
    obtain ⟨entry, member, same⟩ := List.lookup_isSome_iff.mp found
    exact absent entry.1 (List.mem_append_left _ (List.mem_map_of_mem _ member)) (eq_of_beq same)
  rw [createTypeHintString, dif_neg notSimple]
  repeat rw [if_neg (absent _ (by decide))]

theorem createTypeHintString_of_simple {cqlTypeString : List Char} {cqlType : CQLType}
    (base : baseTypeOf cqlTypeString = cqlType.value) (simple : cqlType.isCollection = false) :
    createTypeHintString cqlTypeString = (TypeTerm.simple ⟨cqlType, simple⟩).hint :=
  createTypeHintString_simple base

end Cqlite.Types
