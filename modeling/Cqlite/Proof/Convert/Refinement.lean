import Cqlite.Proof.Convert.Equations

/-!
String-directed conversion refines term-directed conversion. `TypeTerm.conv` converts a value
against a type term as the refinement describes it; on every printed type, `convert_cql_value`
given the printed string computes the same result, or raises the same exception, for every value
whose containers have the shape of the type.
-/

namespace Cqlite.Types

/-- The simple name `text`: the type of the tuple items past the last element type. -/
def textName : SimpleName := ⟨.text, rfl⟩

/-- What the term-directed conversion raises on a value whose container does not match its type. -/
def shapeMismatch : PyException := .typeError "the value does not have the shape of the type"

/-- Term-directed conversion: `None` stays `None`; at a simple name the value takes that name's
scalar branch of `convert_cql_value`; at `list<u>`, `set<u>` and `map<k,v>` a list, set or dict is
rebuilt from the conversion of each member, each key and each value at the parameter types; at
`tuple<u1,...,un>` item `i` is converted at `ui`, or at `text` past the last one. -/
def TypeTerm.conv (runtime : Runtime) (value : PyValue) (type : TypeTerm) :
    Except PyException PyValue :=
  if value.isNone then .ok .none
  else
    match type with
    | .simple name => convertScalar runtime name.name value
    | .list element =>
        match sequence : value.sequenceItems? with
        | some items => PyValue.list <$> items.attach.mapM fun item => conv runtime item.1 element
        | none => .error shapeMismatch
    | .set element =>
        match collection : value.collectionItems? with
        | some items =>
            PyValue.set <$> items.attach.foldlM (fun built item =>
              conv runtime item.1 element >>= setAdd built) []
        | none => .error shapeMismatch
    | .map key valueType =>
        match mapping : value.dictItems? with
        | some items =>
            PyValue.dict <$> items.attach.foldlM (fun built entry => do
              let convertedKey ← conv runtime entry.1.1 key
              let converted ← conv runtime entry.1.2 valueType
              dictSet built convertedKey converted) []
        | none => .error shapeMismatch
    | .tuple first rest =>
        match sequence : value.sequenceItems? with
        | some items =>
            PyValue.tuple <$> items.enum.attach.mapM fun entry =>
              conv runtime entry.1.2 ((first :: rest).getD entry.1.1 (.simple textName))
        | none => .error shapeMismatch
termination_by sizeOf value
decreasing_by
  · exact PyValue.sizeOf_lt_of_sequenceItems sequence item.2
  · exact PyValue.sizeOf_lt_of_collectionItems collection item.2
  · exact (PyValue.sizeOf_lt_of_dictItems mapping entry.2).1
  · exact (PyValue.sizeOf_lt_of_dictItems mapping entry.2).2
  · exact PyValue.sizeOf_lt_of_sequenceItems sequence (List.snd_mem_of_mem_enum entry.2)

/-- The values whose containers have the shape of a type: a `list` or `tuple` at `list<u>` and at
`tuple<u1,...,un>`, a `list`, `tuple` or `set` at `set<u>`, a `dict` at `map<k,v>`, whose members,
keys, values and first `n` items have the shapes of the parameter types; `None` has every shape,
and at a simple name the value must satisfy `leaf`. -/
inductive Fits (leaf : CQLType → PyValue → Prop) : PyValue → TypeTerm → Prop
  | none (type : TypeTerm) : Fits leaf .none type
  | simple {value : PyValue} (name : SimpleName) (fits : leaf name.name value) :
      Fits leaf value (.simple name)
  | list {value : PyValue} {items : List PyValue} (element : TypeTerm)
      (sequence : value.sequenceItems? = some items) (members : ∀ item ∈ items, Fits leaf item element) :
      Fits leaf value (.list element)
  | set {value : PyValue} {items : List PyValue} (element : TypeTerm)
      (collection : value.collectionItems? = some items)
      (members : ∀ item ∈ items, Fits leaf item element) : Fits leaf value (.set element)
  | map {value : PyValue} {items : List (PyValue × PyValue)} (key valueType : TypeTerm)
      (mapping : value.dictItems? = some items) (keys : ∀ entry ∈ items, Fits leaf entry.1 key)
      (values : ∀ entry ∈ items, Fits leaf entry.2 valueType) : Fits leaf value (.map key valueType)
  | tuple {value : PyValue} {items : List PyValue} (first : TypeTerm) (rest : List TypeTerm)
      (sequence : value.sequenceItems? = some items)
      (positions : ∀ entry ∈ items.zip (first :: rest), Fits leaf entry.1 entry.2) :
      Fits leaf value (.tuple first rest)

/-! ### The branches of the term-directed conversion -/

section Conv

variable (runtime : Runtime) {value : PyValue}

theorem conv_none (type : TypeTerm) : type.conv runtime .none = .ok .none := by
  cases type <;> rw [TypeTerm.conv] <;> rfl

theorem conv_simple (present : value.isNone = false) (name : SimpleName) :
    (TypeTerm.simple name).conv runtime value = convertScalar runtime name.name value := by
  rw [TypeTerm.conv, if_neg (by simp [present])]

theorem conv_list {items : List PyValue} (sequence : value.sequenceItems? = some items)
    (element : TypeTerm) :
    (TypeTerm.list element).conv runtime value =
      PyValue.list <$> items.mapM (TypeTerm.conv runtime · element) := by
  rw [TypeTerm.conv, if_neg (by simp [PyValue.isNone_of_sequenceItems sequence])]
  split <;> rename_i found <;> rw [sequence] at found <;> cases found
  rw [mapM_attach items fun item => TypeTerm.conv runtime item element]

theorem conv_set {items : List PyValue} (collection : value.collectionItems? = some items)
    (element : TypeTerm) :
    (TypeTerm.set element).conv runtime value =
      PyValue.set <$> items.foldlM (fun built item =>
        TypeTerm.conv runtime item element >>= setAdd built) [] := by
  rw [TypeTerm.conv, if_neg (by simp [PyValue.isNone_of_collectionItems collection])]
  split <;> rename_i found <;> rw [collection] at found <;> cases found
  rw [foldlM_attach items fun built item => TypeTerm.conv runtime item element >>= setAdd built]

theorem conv_map {items : List (PyValue × PyValue)} (mapping : value.dictItems? = some items)
    (key valueType : TypeTerm) :
    (TypeTerm.map key valueType).conv runtime value =
      PyValue.dict <$> items.foldlM (fun built entry => do
        let convertedKey ← TypeTerm.conv runtime entry.1 key
        let converted ← TypeTerm.conv runtime entry.2 valueType
        dictSet built convertedKey converted) [] := by
  rw [TypeTerm.conv, if_neg (by simp [PyValue.isNone_of_dictItems mapping])]
  split <;> rename_i found <;> rw [mapping] at found <;> cases found
  rw [foldlM_attach items fun built entry => do
      let convertedKey ← TypeTerm.conv runtime entry.1 key
      let converted ← TypeTerm.conv runtime entry.2 valueType
      dictSet built convertedKey converted]

theorem conv_tuple {items : List PyValue} (sequence : value.sequenceItems? = some items)
    (first : TypeTerm) (rest : List TypeTerm) :
    (TypeTerm.tuple first rest).conv runtime value =
      PyValue.tuple <$> items.enum.mapM fun entry =>
        TypeTerm.conv runtime entry.2 ((first :: rest).getD entry.1 (.simple textName)) := by
  rw [TypeTerm.conv, if_neg (by simp [PyValue.isNone_of_sequenceItems sequence])]
  split <;> rename_i found <;> rw [sequence] at found <;> cases found
  rw [mapM_attach items.enum fun entry =>
      TypeTerm.conv runtime entry.2 ((first :: rest).getD entry.1 (.simple textName))]

end Conv

/-! ### Positions of a tuple -/

theorem tupleElementType_of_lt {elementTypes : List (List Char)} {i : Nat}
    (within : i < elementTypes.length) : tupleElementType elementTypes i = elementTypes[i] :=
  dif_pos within

theorem tupleElementType_of_le {elementTypes : List (List Char)} {i : Nat}
    (past : elementTypes.length ≤ i) : tupleElementType elementTypes i = "text".toList :=
  dif_neg (Nat.not_lt.mpr past)

/-- Item `i` of a list and the type at position `i` are paired by `zip`. -/
theorem mem_zip_of_mem_enum {α β : Type} {items : List α} {types : List β} {entry : Nat × α}
    (member : entry ∈ items.enum) (within : entry.1 < types.length) :
    (entry.2, types[entry.1]) ∈ items.zip types := by
  obtain ⟨index, item⟩ := entry
  obtain ⟨inside, same⟩ := List.mem_enum member
  exact List.mem_iff_getElem.mpr ⟨index, by rw [List.length_zip]; exact Nat.lt_min.mpr ⟨inside, within⟩,
    by simp [List.getElem_zip, same]⟩

theorem Parameter.terms_eq (first : Parameter) (rest : List Parameter) :
    first.term :: Parameter.termAll rest = (first :: rest).map fun parameter => parameter.type.term := by
  rw [Parameter.termAll_eq, List.map_cons, Parameter.term_eq]
  exact congrArg _ (List.map_congr_left fun parameter _ => Parameter.term_eq parameter)

/-- Item `i` of a tuple at a printed tuple type: before the last element type both conversions
use parameter `i`, whose type `zip` pairs with the item, and past it both use `text`. -/
theorem printedTuple_position {α : Type} {items : List α} {parameters : List Parameter}
    {entry : Nat × α} (member : entry ∈ items.enum) :
    (∃ parameter : Parameter,
        (entry.2, parameter.type.term) ∈ items.zip (parameters.map fun p => p.type.term) ∧
        tupleElementType (parameters.map fun p => p.type.text) entry.1 = parameter.type.text ∧
        (parameters.map fun p => p.type.term).getD entry.1 (.simple textName) = parameter.type.term) ∨
      (tupleElementType (parameters.map fun p => p.type.text) entry.1 = "text".toList ∧
        (parameters.map fun p => p.type.term).getD entry.1 (.simple textName) = .simple textName) := by
  by_cases within : entry.1 < parameters.length
  · have paired := mem_zip_of_mem_enum member
      (show entry.1 < (parameters.map fun p => p.type.term).length by simpa using within)
    rw [List.getElem_map] at paired
    refine .inl ⟨parameters[entry.1], paired, ?_, ?_⟩
    · rw [tupleElementType_of_lt (by simpa using within), List.getElem_map]
    · rw [List.getD_eq_getElem?_getD, List.getElem?_eq_getElem (by simpa using within),
        Option.getD_some, List.getElem_map]
  · have past : parameters.length ≤ entry.1 := Nat.le_of_not_lt within
    exact .inr ⟨tupleElementType_of_le (by simpa using past), by
      rw [List.getD_eq_getElem?_getD, List.getElem?_eq_none (by simpa using past), Option.getD_none]⟩

/-- Past the last element type both conversions convert with `str`. -/
theorem convertCqlValue_text_eq_conv (runtime : Runtime) (value : PyValue) :
    convertCqlValue runtime value "text".toList = (TypeTerm.simple textName).conv runtime value := by
  cases present : value.isNone
  · rw [convertCqlValue_text runtime present, conv_simple runtime present]; rfl
  · rw [PyValue.isNone_iff.mp present, convertCqlValue_none, conv_none]

/-! ### The refinement -/

/-- On a printed type, `convert_cql_value` computes the term-directed conversion of every value
whose containers have the shape of the type. -/
theorem convertCqlValue_eq_conv (runtime : Runtime) {leaf : CQLType → PyValue → Prop}
    {value : PyValue} {term : TypeTerm} (fits : Fits leaf value term) (type : PrintedType)
    (same : type.term = term) : convertCqlValue runtime value type.text = term.conv runtime value := by
  induction fits generalizing type with
  | none =>
      rw [convertCqlValue_none, conv_none]
  | @simple value name _ =>
      cases type with
      | simple name spelling =>
          cases same
          cases present : value.isNone
          · rw [convertCqlValue_printedSimple runtime present, conv_simple runtime present]
          · rw [PyValue.isNone_iff.mp present, convertCqlValue_none, conv_none]
      | _ => cases same
  | list element sequence _ members =>
      cases type with
      | list spelling parameter =>
          cases same
          rw [convertCqlValue_printedList runtime sequence, conv_list runtime sequence]
          exact congrArg _ (mapM_congr_mem fun item member =>
            members item member parameter.type (Parameter.term_eq parameter).symm)
      | _ => cases same
  | set element collection _ members =>
      cases type with
      | set spelling parameter =>
          cases same
          rw [convertCqlValue_printedSet runtime collection, conv_set runtime collection]
          refine congrArg _ (foldlM_congr_mem _ fun built item member => ?_)
          rw [members item member parameter.type (Parameter.term_eq parameter).symm]
      | _ => cases same
  | map key valueType mapping _ _ keys values =>
      cases type with
      | map spelling keyParameter valueParameter =>
          cases same
          rw [convertCqlValue_printedMap runtime mapping, conv_map runtime mapping]
          refine congrArg _ (foldlM_congr_mem _ fun built entry member => ?_)
          rw [keys entry member keyParameter.type (Parameter.term_eq keyParameter).symm,
            values entry member valueParameter.type (Parameter.term_eq valueParameter).symm]
      | _ => cases same
  | tuple first rest sequence _ positions =>
      cases type with
      | tuple spelling parameter parameters =>
          cases same
          rw [Parameter.terms_eq] at positions
          rw [convertCqlValue_printedTuple runtime sequence, conv_tuple runtime sequence,
            Parameter.terms_eq]
          refine congrArg _ (mapM_congr_mem fun entry member => ?_)
          rcases printedTuple_position member with ⟨parameter, paired, texts, terms⟩ | ⟨texts, terms⟩
          · rw [texts, terms]
            exact positions _ paired parameter.type rfl
          · rw [texts, terms]
            exact convertCqlValue_text_eq_conv runtime entry.2
      | _ => cases same

/-- String-directed conversion agrees with term-directed conversion on nested collections: for
every printed type and every value whose containers have the shape of the type, with anything at
the simple names, `convert_cql_value` returns the term-directed conversion, or raises what it
raises. -/
theorem convertCqlValue_refines (runtime : Runtime) (type : PrintedType) (value : PyValue)
    (shape : Fits (fun _ _ => True) value type.term) :
    convertCqlValue runtime value type.text = type.term.conv runtime value :=
  convertCqlValue_eq_conv runtime shape type rfl

/-- A dict at `map<text,list<int>>`: the values are converted at `list<int>`. -/
theorem convertCqlValue_refines_nestedMap :
    Fits (fun _ _ => True) (.dict [(.str ['a'], .list [.int 1, .bool true])])
        (TypeTerm.map (.simple ⟨.text, rfl⟩) (.list (.simple ⟨.int, rfl⟩))).print.term ∧
      convertCqlValue Runtime.strict (.dict [(.str ['a'], .list [.int 1, .bool true])])
          (TypeTerm.map (.simple ⟨.text, rfl⟩) (.list (.simple ⟨.int, rfl⟩))).print.text =
        (TypeTerm.map (.simple ⟨.text, rfl⟩) (.list (.simple ⟨.int, rfl⟩))).print.term.conv
          Runtime.strict (.dict [(.str ['a'], .list [.int 1, .bool true])]) := by
  have fits : Fits (fun _ _ => True) (.dict [(.str ['a'], .list [.int 1, .bool true])])
      (TypeTerm.map (.simple ⟨.text, rfl⟩) (.list (.simple ⟨.int, rfl⟩))).print.term := by
    rw [TypeTerm.print_term]
    refine .map _ _ rfl (fun _ _ => .simple _ trivial) fun entry member => ?_
    rw [List.mem_singleton.mp member]
    exact .list _ rfl fun _ _ => .simple _ trivial
  exact ⟨fits, convertCqlValue_refines Runtime.strict _ _ fits⟩

end Cqlite.Types
