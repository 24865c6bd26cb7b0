import Cqlite.Construction.Convert
import Cqlite.Proof.PyValue.Collections
import Cqlite.Proof.Types.Extract

/-!
One lemma per branch of `convert_cql_value`, with the comprehensions over the members written as
`mapM` and `foldlM` over the members themselves, and the branch it takes on each printed type,
whose parameter types the extraction functions return.
-/

namespace Cqlite

/-! ### Loops over attached members -/

section Attach

variable {ε α β γ : Type}

theorem mapM_map {g : α → β} {f : β → Except ε γ} :
    ∀ items : List α, (items.map g).mapM f = items.mapM (f ∘ g)
  | [] => rfl
  | item :: rest => by rw [List.map_cons, List.mapM_cons, List.mapM_cons, mapM_map rest]; rfl

theorem mapM_attach (items : List α) (f : α → Except ε β) :
    (items.attach.mapM fun item => f item.1) = items.mapM f := by
  rw [show (fun item : { item // item ∈ items } => f item.1) = f ∘ Subtype.val from rfl, ← mapM_map,
    List.attach_map_subtype_val]

theorem foldlM_attach (items : List α) (f : β → α → Except ε β) (init : β) :
    (items.attach.foldlM (fun built item => f built item.1) init) = items.foldlM f init := by
  rw [← List.foldlM_map, List.attach_map_subtype_val]

end Attach

theorem PyValue.isNone_iff {value : PyValue} : value.isNone = true ↔ value = .none := by
  cases value <;> simp [PyValue.isNone]

theorem PyValue.sequenceItems?_list (items : List PyValue) :
    (PyValue.list items).sequenceItems? = some items := rfl

theorem PyValue.sequenceItems?_tuple (items : List PyValue) :
    (PyValue.tuple items).sequenceItems? = some items := rfl

theorem PyValue.collectionItems?_set (items : List PyValue) :
    (PyValue.set items).collectionItems? = some items := rfl

theorem PyValue.dictItems?_dict (items : List (PyValue × PyValue)) :
    (PyValue.dict items).dictItems? = some items := rfl

theorem PyValue.isNone_of_sequenceItems {value : PyValue} {items : List PyValue}
    (sequence : value.sequenceItems? = some items) : value.isNone = false := by
  cases value <;> simp_all [PyValue.sequenceItems?, PyValue.isNone]

theorem PyValue.isNone_of_collectionItems {value : PyValue} {items : List PyValue}
    (collection : value.collectionItems? = some items) : value.isNone = false := by
  cases value <;> simp_all [PyValue.collectionItems?, PyValue.isNone]

theorem PyValue.isNone_of_dictItems {value : PyValue} {items : List (PyValue × PyValue)}
    (mapping : value.dictItems? = some items) : value.isNone = false := by
  cases value <;> simp_all [PyValue.dictItems?, PyValue.isNone]

namespace Types

theorem CQLType.ofValue?_text : CQLType.ofValue? (baseTypeOf "text".toList) = some .text := by decide

/-! ### The branches of `convert_cql_value` -/

section Branches

variable (runtime : Runtime) {value : PyValue} {cqlTypeString : List Char}

theorem convertCqlValue_none (cqlTypeString : List Char) :
    convertCqlValue runtime .none cqlTypeString = .ok .none := by
  rw [convertCqlValue]; rfl

theorem convertCqlValue_unknown (present : value.isNone = false)
    (unknown : CQLType.ofValue? (baseTypeOf cqlTypeString) = none) :
    convertCqlValue runtime value cqlTypeString = .ok value := by
  rw [convertCqlValue, if_neg (by simp [present]), unknown]

theorem convertCqlValue_scalar {cqlType : CQLType} (present : value.isNone = false)
    (base : CQLType.ofValue? (baseTypeOf cqlTypeString) = some cqlType)
    (scalar : cqlType.isCollection = false) :
    convertCqlValue runtime value cqlTypeString = convertScalar runtime cqlType value := by
  rw [convertCqlValue, if_neg (by simp [present]), base]
  cases cqlType <;> first | rfl | cases scalar

theorem convertCqlValue_list {items : List PyValue}
    (base : CQLType.ofValue? (baseTypeOf cqlTypeString) = some .list)
    (sequence : value.sequenceItems? = some items) :
    convertCqlValue runtime value cqlTypeString =
      PyValue.list <$> items.mapM (convertCqlValue runtime · (extractElementType cqlTypeString)) := by
  rw [convertCqlValue, if_neg (by simp [PyValue.isNone_of_sequenceItems sequence]), base]
  dsimp only
  split
  · rename_i found
    rw [sequence, Option.some.injEq] at found
    rw [← found, mapM_attach items fun item => convertCqlValue runtime item _]
  · rename_i missing
    rw [sequence] at missing
    cases missing

/-- The `list(value)` fallback of the `list` branch. -/
theorem convertCqlValue_listFallback (present : value.isNone = false)
    (base : CQLType.ofValue? (baseTypeOf cqlTypeString) = some .list)
    (other : value.sequenceItems? = none) :
    convertCqlValue runtime value cqlTypeString = PyValue.list <$> value.iterate := by
  rw [convertCqlValue, if_neg (by simp [present]), base]
  dsimp only
  split
  · rename_i found
    rw [other] at found
    cases found
  · rfl

theorem convertCqlValue_set {items : List PyValue}
    (base : CQLType.ofValue? (baseTypeOf cqlTypeString) = some .set)
    (collection : value.collectionItems? = some items) :
    convertCqlValue runtime value cqlTypeString =
      PyValue.set <$> items.foldlM (fun built item =>
        convertCqlValue runtime item (extractElementType cqlTypeString) >>= setAdd built) [] := by
  rw [convertCqlValue, if_neg (by simp [PyValue.isNone_of_collectionItems collection]), base]
  dsimp only
  split
  · rename_i found
    rw [collection, Option.some.injEq] at found
    rw [← found, foldlM_attach items fun built item =>
      convertCqlValue runtime item _ >>= setAdd built]
  · rename_i missing
    rw [collection] at missing
    cases missing

theorem convertCqlValue_map {items : List (PyValue × PyValue)}
    (base : CQLType.ofValue? (baseTypeOf cqlTypeString) = some .map)
    (mapping : value.dictItems? = some items) :
    convertCqlValue runtime value cqlTypeString =
      PyValue.dict <$> items.foldlM (fun built entry => do
        let key ← convertCqlValue runtime entry.1 (extractMapTypes cqlTypeString).1
        let converted ← convertCqlValue runtime entry.2 (extractMapTypes cqlTypeString).2
        dictSet built key converted) [] := by
  rw [convertCqlValue, if_neg (by simp [PyValue.isNone_of_dictItems mapping]), base]
  dsimp only
  split
  · rename_i found
    rw [mapping, Option.some.injEq] at found
    rw [← found, foldlM_attach items fun built entry => do
      let key ← convertCqlValue runtime entry.1 (extractMapTypes cqlTypeString).1
      let converted ← convertCqlValue runtime entry.2 (extractMapTypes cqlTypeString).2
      dictSet built key converted]
  · rename_i missing
    rw [mapping] at missing
    cases missing

theorem convertCqlValue_tuple {items : List PyValue}
    (base : CQLType.ofValue? (baseTypeOf cqlTypeString) = some .tuple)
    (sequence : value.sequenceItems? = some items) :
    convertCqlValue runtime value cqlTypeString =
      PyValue.tuple <$> items.enum.mapM fun entry =>
        convertCqlValue runtime entry.2 (tupleElementType (extractTupleTypes cqlTypeString) entry.1) := by
  rw [convertCqlValue, if_neg (by simp [PyValue.isNone_of_sequenceItems sequence]), base]
  dsimp only
  split
  · rename_i found
    rw [sequence, Option.some.injEq] at found
    rw [← found, mapM_attach items.enum fun entry =>
      convertCqlValue runtime entry.2 (tupleElementType (extractTupleTypes cqlTypeString) entry.1)]
  · rename_i missing
    rw [sequence] at missing
    cases missing

/-- The `"text"` default of `_extract_element_type` and of the tuple items past the last element
type converts with `str`. -/
theorem convertCqlValue_text (present : value.isNone = false) :
    convertCqlValue runtime value "text".toList = .ok (.str (runtime.str value)) :=
  convertCqlValue_scalar runtime present CQLType.ofValue?_text rfl

end Branches

/-! ### The branch taken on a printed type -/

/-- The member of `CQLType` that a type's constructor or simple name is. -/
def TypeTerm.cqlType : TypeTerm → CQLType
  | .simple name => name.name
  | .list _ => .list
  | .set _ => .set
  | .map _ _ => .map
  | .tuple _ _ => .tuple

theorem CQLType.ofValue?_value (name : CQLType) : CQLType.ofValue? name.value = some name := by
  cases name <;> rfl

theorem PrintedType.ofValue?_baseTypeOf (type : PrintedType) :
    CQLType.ofValue? (baseTypeOf type.text) = some type.term.cqlType := by
  rw [type.baseTypeOf_text, ← CQLType.ofValue?_value type.term.cqlType]
  cases type <;> rfl

section Printed

variable (runtime : Runtime) {value : PyValue}

theorem convertCqlValue_printedSimple (present : value.isNone = false) (name : SimpleName)
    (spelling : Spelling name.name.value) :
    convertCqlValue runtime value (PrintedType.simple name spelling).text =
      convertScalar runtime name.name value :=
  convertCqlValue_scalar runtime present (PrintedType.simple name spelling).ofValue?_baseTypeOf
    name.simple

theorem convertCqlValue_printedList {items : List PyValue} (sequence : value.sequenceItems? = some items)
    (spelling : Spelling CQLType.list.value) (element : Parameter) :
    convertCqlValue runtime value (PrintedType.list spelling element).text =
      PyValue.list <$> items.mapM (convertCqlValue runtime · element.type.text) := by
  rw [convertCqlValue_list runtime (PrintedType.list spelling element).ofValue?_baseTypeOf sequence,
    PrintedType.text, extractElementType_withParameters]

theorem convertCqlValue_printedSet {items : List PyValue}
    (collection : value.collectionItems? = some items) (spelling : Spelling CQLType.set.value)
    (element : Parameter) :
    convertCqlValue runtime value (PrintedType.set spelling element).text =
      PyValue.set <$> items.foldlM (fun built item =>
        convertCqlValue runtime item element.type.text >>= setAdd built) [] := by
  rw [convertCqlValue_set runtime (PrintedType.set spelling element).ofValue?_baseTypeOf collection,
    PrintedType.text, extractElementType_withParameters]

theorem convertCqlValue_printedMap {items : List (PyValue × PyValue)}
    (mapping : value.dictItems? = some items) (spelling : Spelling CQLType.map.value)
    (key valueType : Parameter) :
    convertCqlValue runtime value (PrintedType.map spelling key valueType).text =
      PyValue.dict <$> items.foldlM (fun built entry => do
        let convertedKey ← convertCqlValue runtime entry.1 key.type.text
        let converted ← convertCqlValue runtime entry.2 valueType.type.text
        dictSet built convertedKey converted) [] := by
  rw [convertCqlValue_map runtime (PrintedType.map spelling key valueType).ofValue?_baseTypeOf mapping,
    PrintedType.text, extractMapTypes_withParameters]

theorem convertCqlValue_printedTuple {items : List PyValue}
    (sequence : value.sequenceItems? = some items) (spelling : Spelling CQLType.tuple.value)
    (first : Parameter) (rest : List Parameter) :
    convertCqlValue runtime value (PrintedType.tuple spelling first rest).text =
      PyValue.tuple <$> items.enum.mapM fun entry =>
        convertCqlValue runtime entry.2
          (tupleElementType ((first :: rest).map fun parameter => parameter.type.text) entry.1) := by
  rw [convertCqlValue_tuple runtime (PrintedType.tuple spelling first rest).ofValue?_baseTypeOf
    sequence, PrintedType.text, extractTupleTypes_withParameters]

end Printed

end Types

end Cqlite
