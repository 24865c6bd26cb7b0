import Cqlite.Proof.Types.Grammar

/-!
The type-string parameter extraction undoes printing for the whole grammar: the base-type parse
reads a printed type's constructor or simple name, and `_extract_element_type`,
`_extract_map_types` and `_extract_tuple_types` return the printed parameters, whatever their
nesting, letter case and padding.
-/

namespace Cqlite.Types

open PyStr

/-- The base-type parse reads a spelled name that is alone or followed by `'<'`. -/
theorem baseTypeOf_spelled {name : CQLType} (spelling : Spelling name.value) {rest : List Char}
    (bracketNext : ∀ c ∈ rest.head?, c = '<') : baseTypeOf (spelling.text ++ rest) = name.value := by
  have stops : rest.takeWhile (· ≠ '<') = [] := by
    cases rest with
    | nil => rfl
    | cons c rest => simp [bracketNext c rfl]
  have notOpen : ∀ c ∈ spelling.text, decide (c ≠ '<') = true := fun c member => by
    simpa using fun isOpen : c = '<' => spelling.not_mem_open (isOpen ▸ member)
  rw [baseTypeOf, headD_splitOn, List.takeWhile_append_of_pos notOpen, stops, List.append_nil,
    spelling.lower_text]
  exact (wellPrinted_spelling (.lowerCase name)).trimmed

/-- The base-type parse of a printed type is its constructor or simple name in lower case. -/
theorem PrintedType.baseTypeOf_text (type : PrintedType) : baseTypeOf type.text = type.term.name := by
  cases type with
  | simple name spelling =>
      simpa using baseTypeOf_spelled spelling (show ∀ c ∈ ([] : List Char).head?, c = '<' by simp)
  | list spelling => rw [text, withParameters_eq]; exact baseTypeOf_spelled spelling (by simp)
  | set spelling => rw [text, withParameters_eq]; exact baseTypeOf_spelled spelling (by simp)
  | map spelling => rw [text, withParameters_eq]; exact baseTypeOf_spelled spelling (by simp)
  | tuple spelling => rw [text, withParameters_eq]; exact baseTypeOf_spelled spelling (by simp)

/-- The bracketed part of a spelled constructor with parameters is its parameters, stripped. -/
theorem innerTypeString?_withParameters {name : CQLType} (spelling : Spelling name.value)
    (first : List Char) (rest : List (List Char)) :
    innerTypeString? (withParameters spelling.text first rest) =
      some (strip (commaSeparated first rest)) := by
  have shape : withParameters spelling.text first rest =
      spelling.text ++ ['<'] ++ commaSeparated first rest ++ ['>'] := by simp [withParameters]
  have opening : find (withParameters spelling.text first rest) '<' + 1 =
      ((spelling.text ++ ['<']).length : Int) := by
    rw [withParameters_eq, find_append_cons spelling.not_mem_open]; simp
  have closing : rfind (withParameters spelling.text first rest) '>' =
      ((spelling.text ++ ['<']).length : Int) + (commaSeparated first rest).length := by
    rw [withParameters, rfind_append_singleton]; simp; omega
  rw [innerTypeString?, if_pos (by simp [withParameters]), opening, closing, shape, slice_append]

/-- Printed parameters separated by commas are cut at those commas. -/
theorem topLevelCut_commaSeparated (first : Parameter) (rest : List Parameter) :
    TopLevelCut (commaSeparated first.text (rest.map Parameter.text))
      ((first :: rest).map Parameter.text) := by
  induction rest generalizing first with
  | nil => exact .last _ first.wellPadded.2.1
  | cons next rest ih =>
      obtain ⟨text, noComma, -⟩ := first.wellPadded
      exact .comma _ _ _ noComma ((balanced_iff _).mp text.balanced).2 (ih next)

/-- `_split_type_params` returns the types of printed parameters separated by commas. -/
theorem splitTypeParams_commaSeparated (first : Parameter) (rest : List Parameter) :
    splitTypeParams (commaSeparated first.text (rest.map Parameter.text)) =
      (first :: rest).map fun parameter => parameter.type.text := by
  have stripped : ((first :: rest).map Parameter.text).map strip =
      (first :: rest).map fun parameter => parameter.type.text := by
    simp only [List.map_map]
    exact List.map_congr_left fun parameter _ => parameter.wellPadded.2.2
  have notBlank : ∀ part ∈ (first :: rest).map fun parameter => parameter.type.text, part ≠ [] := by
    simp only [List.mem_map]
    rintro part ⟨parameter, -, rfl⟩
    exact parameter.type.wellPrinted.nonempty
  rw [splitTypeParams_eq_of_cut (topLevelCut_commaSeparated first rest), strippedSegments, stripped,
    if_neg fun lastBlank => notBlank [] (List.mem_of_getLast?_eq_some lastBlank) rfl]

/-- The element type of a printed list or set is its printed parameter. -/
theorem extractElementType_withParameters {name : CQLType} (spelling : Spelling name.value)
    (element : Parameter) :
    extractElementType (withParameters spelling.text element.text []) = element.type.text := by
  rw [extractElementType, innerTypeString?_withParameters, commaSeparated, Option.getD_some,
    element.wellPadded.2.2]

/-- The key and value types of a printed map are its printed parameters. -/
theorem extractMapTypes_withParameters {name : CQLType} (spelling : Spelling name.value)
    (key value : Parameter) :
    extractMapTypes (withParameters spelling.text key.text [value.text]) =
      (key.type.text, value.type.text) := by
  have split := splitTypeParams_commaSeparated key [value]
  rw [List.map_singleton] at split
  rw [extractMapTypes, innerTypeString?_withParameters]
  dsimp only
  rw [splitTypeParams_strip, split]
  simp only [List.map_cons, List.map_nil]
  rw [(key.type.wellPrinted).trimmed, (value.type.wellPrinted).trimmed]

/-- The element types of a printed tuple are its printed parameters. -/
theorem extractTupleTypes_withParameters {name : CQLType} (spelling : Spelling name.value)
    (first : Parameter) (rest : List Parameter) :
    extractTupleTypes (withParameters spelling.text first.text (Parameter.textAll rest)) =
      (first :: rest).map fun parameter => parameter.type.text := by
  rw [extractTupleTypes, innerTypeString?_withParameters]
  dsimp only
  rw [splitTypeParams_strip, Parameter.textAll_eq, splitTypeParams_commaSeparated, List.map_map]
  exact List.map_congr_left fun parameter _ => parameter.type.wellPrinted.trimmed

/-- The type-string parameter extraction undoes printing: on every printed type the base-type parse
is its constructor or simple name in lower case, and the extraction functions return the printed
parameters of lists, sets, maps and tuples. -/
theorem typeString_extraction :
    (∀ type : PrintedType, baseTypeOf type.text = type.term.name) ∧
      (∀ spelling element,
        extractElementType (PrintedType.list spelling element).text = element.type.text) ∧
      (∀ spelling element,
        extractElementType (PrintedType.set spelling element).text = element.type.text) ∧
      (∀ spelling key value, extractMapTypes (PrintedType.map spelling key value).text =
        (key.type.text, value.type.text)) ∧
      (∀ spelling first rest, extractTupleTypes (PrintedType.tuple spelling first rest).text =
        (first :: rest).map fun parameter => parameter.type.text) :=
  ⟨PrintedType.baseTypeOf_text,
    fun spelling element => extractElementType_withParameters spelling element,
    fun spelling element => extractElementType_withParameters spelling element,
    fun spelling key value => extractMapTypes_withParameters spelling key value,
    fun spelling first rest => extractTupleTypes_withParameters spelling first rest⟩

end Cqlite.Types
