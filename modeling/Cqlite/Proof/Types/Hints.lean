import Cqlite.Proof.Types.Extract

/-!
`create_type_hint_string` is the structural translation of the type term that a printed type
writes: one equation per branch of the function, then an induction over printed types that feeds
each branch the parameters the extraction functions return.
-/

namespace Cqlite.Types

open PyStr

mutual
/-- The type hint of a type: its simple name's entry in `simple_mappings`, `Dict[str, Any]` for
`udt`, `Any` for any other simple name, and the collections translated parameter by parameter. -/
def TypeTerm.hint : TypeTerm → List Char
  | .simple name =>
      (simpleMappings.lookup name.name.value).getD
        (if name.name = .udt then "Dict[str, Any]".toList else "Any".toList)
  | .list element => "List[".toList ++ element.hint ++ "]".toList
  | .set element => "Set[".toList ++ element.hint ++ "]".toList
  | .map key value => "Dict[".toList ++ key.hint ++ ", ".toList ++ value.hint ++ "]".toList
  | .tuple first rest => "Tuple[".toList ++ join ", ".toList (first.hint :: TypeTerm.hintAll rest) ++
      "]".toList

/-- The type hints of types. -/
def TypeTerm.hintAll : List TypeTerm → List (List Char)
  | [] => []
  | type :: rest => type.hint :: TypeTerm.hintAll rest
end

/-! ### One equation per branch of `create_type_hint_string` -/

theorem createTypeHintString_simple {cqlTypeString : List Char} {name : SimpleName}
    (base : baseTypeOf cqlTypeString = name.name.value) :
    createTypeHintString cqlTypeString = (TypeTerm.simple name).hint := by
  obtain ⟨name, simple⟩ := name
  rw [createTypeHintString, base]
  cases name <;> first | rfl | cases simple

theorem createTypeHintString_list {cqlTypeString : List Char}
    (base : baseTypeOf cqlTypeString = CQLType.list.value) :
    createTypeHintString cqlTypeString =
      "List[".toList ++ createTypeHintString (extractElementType cqlTypeString) ++ "]".toList := by
  rw [createTypeHintString, base, dif_neg (by decide), if_pos (by decide)]

theorem createTypeHintString_set {cqlTypeString : List Char}
    (base : baseTypeOf cqlTypeString = CQLType.set.value) :
    createTypeHintString cqlTypeString =
      "Set[".toList ++ createTypeHintString (extractElementType cqlTypeString) ++ "]".toList := by
  rw [createTypeHintString, base, dif_neg (by decide), if_neg (by decide), if_pos (by decide)]

theorem createTypeHintString_map {cqlTypeString : List Char}
    (base : baseTypeOf cqlTypeString = CQLType.map.value) :
    createTypeHintString cqlTypeString =
      "Dict[".toList ++ createTypeHintString (extractMapTypes cqlTypeString).1 ++ ", ".toList ++
        createTypeHintString (extractMapTypes cqlTypeString).2 ++ "]".toList := by
  rw [createTypeHintString, base, dif_neg (by decide), if_neg (by decide), if_neg (by decide),
    if_pos (by decide)]

theorem createTypeHintString_tuple {cqlTypeString : List Char}
    (base : baseTypeOf cqlTypeString = CQLType.tuple.value) :
    createTypeHintString cqlTypeString =
      "Tuple[".toList ++
        join ", ".toList ((extractTupleTypes cqlTypeString).map createTypeHintString) ++
        "]".toList := by
  rw [createTypeHintString, base, dif_neg (by decide), if_neg (by decide), if_neg (by decide),
    if_neg (by decide), if_pos (by decide), List.attach_map_val]

/-! ### The translation over printed types -/

mutual
/-- `create_type_hint_string` of a printed type is the hint of the type it writes. -/
theorem PrintedType.createTypeHintString_text :
    (type : PrintedType) → createTypeHintString type.text = type.term.hint
  | .simple name spelling => createTypeHintString_simple (PrintedType.simple name spelling).baseTypeOf_text
  | .list spelling (.padded before element after) => by
      rw [createTypeHintString_list (PrintedType.list spelling _).baseTypeOf_text, PrintedType.text,
        extractElementType_withParameters, Parameter.type, element.createTypeHintString_text]
      rfl
  | .set spelling (.padded before element after) => by
      rw [createTypeHintString_set (PrintedType.set spelling _).baseTypeOf_text, PrintedType.text,
        extractElementType_withParameters, Parameter.type, element.createTypeHintString_text]
      rfl
  | .map spelling (.padded keyBefore key keyAfter) (.padded valueBefore value valueAfter) => by
      rw [createTypeHintString_map (PrintedType.map spelling _ _).baseTypeOf_text, PrintedType.text,
        extractMapTypes_withParameters, Parameter.type, Parameter.type,
        key.createTypeHintString_text, value.createTypeHintString_text]
      rfl
  | .tuple spelling (.padded before first after) rest => by
      rw [createTypeHintString_tuple (PrintedType.tuple spelling _ _).baseTypeOf_text,
        PrintedType.text, extractTupleTypes_withParameters, List.map_map, List.map_cons,
        Function.comp_apply, Parameter.type, first.createTypeHintString_text,
        Parameter.createTypeHintString_all rest]
      rfl

/-- `create_type_hint_string` of printed parameters gives the hints of the types they write. -/
theorem Parameter.createTypeHintString_all : (parameters : List Parameter) →
    parameters.map (createTypeHintString ∘ fun parameter => parameter.type.text) =
      TypeTerm.hintAll (Parameter.termAll parameters)
  | [] => rfl
  | .padded before type after :: rest => by
      rw [List.map_cons, Function.comp_apply, Parameter.type, type.createTypeHintString_text,
        Parameter.createTypeHintString_all rest]
      rfl
end

/-- Type-hint generation is the structural translation of the type term: on every printed type,
`create_type_hint_string` returns the hint of the type it writes. -/
theorem createTypeHintString_structural (type : PrintedType) :
    createTypeHintString type.text = type.term.hint :=
  type.createTypeHintString_text

end Cqlite.Types
