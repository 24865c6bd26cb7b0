import Cqlite.Proof.Convert.Refinement

/-!
The types of converted values. The branches of `uuid`, `timeuuid`, `timestamp`, `date`, `time` and
`inet` return a value that is not a string as it is, and the `list(value)`, `set(value)`,
`dict(value)` and `tuple(value)` fallbacks keep the members unconverted, so a converted value has
its column's type exactly when the raw value's containers have the type's shape and its leaves at
those names are strings, numbers at `timestamp`, or already of the type.
-/

namespace Cqlite.Types

/-- The simple names whose branch returns every value other than a string as it is, apart from the
numbers that `timestamp` converts. -/
def passesThrough : CQLType → Bool
  | .uuid | .timeuuid | .timestamp | .date | .time | .inet => true
  | _ => false

/-- The raw values that the branch of a simple name turns into an instance of its class: the name
has an entry in `PYTHON_TYPE_MAPPING`, and where the branch passes values through, the value is a
string, a number at `timestamp`, or already an instance. -/
def LeafConvertible (cqlType : CQLType) (value : PyValue) : Prop :=
  ∃ cls, pythonTypeMapping cqlType = some cls ∧
    (passesThrough cqlType = true → (∃ text, value = .str text) ∨ value.isInstance cls = true ∨
      (cqlType = .timestamp ∧ (value.isInstance .int = true ∨ value.isInstance .float = true)))

/-- A value has a type: `None` at every level; at a simple name an instance of its class in
`PYTHON_TYPE_MAPPING`; at a collection the matching container whose members, keys and values have
the parameter types, and whose first `n` items have the `n` element types of a tuple. -/
inductive HasType : PyValue → TypeTerm → Prop
  | none (type : TypeTerm) : HasType .none type
  | simple {value : PyValue} {cls : PyType} (name : SimpleName)
      (mapped : pythonTypeMapping name.name = some cls) (belongs : value.isInstance cls = true) :
      HasType value (.simple name)
  | list {items : List PyValue} (element : TypeTerm) (members : ∀ item ∈ items, HasType item element) :
      HasType (.list items) (.list element)
  | set {items : List PyValue} (element : TypeTerm) (members : ∀ item ∈ items, HasType item element) :
      HasType (.set items) (.set element)
  | map {items : List (PyValue × PyValue)} (key valueType : TypeTerm)
      (keys : ∀ entry ∈ items, HasType entry.1 key) (values : ∀ entry ∈ items, HasType entry.2 valueType) :
      HasType (.dict items) (.map key valueType)
  | tuple {items : List PyValue} (first : TypeTerm) (rest : List TypeTerm)
      (positions : ∀ entry ∈ items.zip (first :: rest), HasType entry.1 entry.2) :
      HasType (.tuple items) (.tuple first rest)

section Leaves

variable (runtime : Runtime) {value result : PyValue}

/-- A branch whose results are built by one constructor returns an instance of its class. -/
theorem isInstance_of_map {α : Type} {build : α → PyValue} {computed : Except PyException α}
    {cls : PyType} (converted : build <$> computed = .ok result)
    (always : ∀ a, (build a).isInstance cls = true) : result.isInstance cls = true := by
  obtain ⟨a, -, rfl⟩ := map_eq_ok.mp converted
  exact always a

theorem PyValue.isInstance_int {value : PyValue} (number : value.isInstance .int = true) :
    (∃ flag, value = .bool flag) ∨ ∃ integer, value = .int integer := by
  cases value <;> first | exact .inl ⟨_, rfl⟩ | exact .inr ⟨_, rfl⟩ | cases number

theorem PyValue.isInstance_float {value : PyValue} (number : value.isInstance .float = true) :
    ∃ float, value = .float float := by
  cases value <;> first | exact ⟨_, rfl⟩ | cases number

/-- The scalar branch of a simple name returns an instance of its class on the values it
converts. -/
theorem convertScalar_isInstance {cqlType : CQLType} (simple : cqlType.isCollection = false)
    (leaf : LeafConvertible cqlType value)
    (converted : convertScalar runtime cqlType value = .ok result) :
    ∃ cls, pythonTypeMapping cqlType = some cls ∧ result.isInstance cls = true := by
  obtain ⟨cls, mapped, through⟩ := leaf
  refine ⟨cls, mapped, ?_⟩
  cases cqlType <;> simp only [pythonTypeMapping, Option.some.injEq, reduceCtorEq] at mapped <;>
    subst mapped <;> simp only [convertScalar] at converted
  case list | set | map | tuple => cases simple
  case text | varchar | ascii => cases converted; rfl
  case int | smallint | tinyint | bigint | varint | counter | float | double =>
    exact isInstance_of_map converted fun _ => rfl
  case decimal | blob => split at converted <;> exact isInstance_of_map converted fun _ => rfl
  case boolean => split at converted <;> (cases converted; rfl)
  case udt => exact isInstance_of_map converted fun _ => rfl
  case uuid | timeuuid | date | time | inet =>
    split at converted
    · exact isInstance_of_map converted fun _ => rfl
    · cases converted
      rcases through rfl with ⟨text, rfl⟩ | belongs | ⟨wrong, -⟩
      · rename_i notText; exact absurd rfl (notText text)
      · exact belongs
      · cases wrong
  case timestamp =>
    split at converted
    · split at converted
      · cases converted; rfl
      · split at converted
        · obtain ⟨_, -, converted⟩ := bind_eq_ok.mp converted
          exact isInstance_of_map converted fun _ => rfl
        · cases converted
    case' h_2 | h_3 | h_4 => exact isInstance_of_map converted fun _ => rfl
    · cases converted
      rename_i notText notBool notInt notFloat
      rcases through rfl with ⟨text, rfl⟩ | belongs | ⟨-, number | number⟩
      · exact absurd rfl (notText text)
      · exact belongs
      · obtain ⟨flag, rfl⟩ | ⟨integer, rfl⟩ := PyValue.isInstance_int number
        · exact absurd rfl (notBool flag)
        · exact absurd rfl (notInt integer)
      · obtain ⟨float, rfl⟩ := PyValue.isInstance_float number
        exact absurd rfl (notFloat float)

end Leaves

/-! ### Types at every level -/

/-- The term-directed conversion of a value that fits a type, with its leaves convertible, has
the type. -/
theorem conv_hasType (runtime : Runtime) {value : PyValue} {term : TypeTerm}
    (fits : Fits LeafConvertible value term) {result : PyValue}
    (converted : term.conv runtime value = .ok result) : HasType result term := by
  induction fits generalizing result with
  | none term =>
      rw [conv_none] at converted
      cases converted
      exact .none term
  | @simple value name leaf =>
      cases present : value.isNone
      · rw [conv_simple runtime present] at converted
        obtain ⟨cls, mapped, belongs⟩ := convertScalar_isInstance runtime name.simple leaf converted
        exact .simple name mapped belongs
      · rw [PyValue.isNone_iff.mp present, conv_none] at converted
        cases converted
        exact .none _
  | list element sequence _ members =>
      rw [conv_list runtime sequence] at converted
      obtain ⟨results, mapped, rfl⟩ := map_eq_ok.mp converted
      refine .list element fun member present => ?_
      obtain ⟨item, source, conversion⟩ := exists_of_mapM_eq_ok mapped present
      exact members item source conversion
  | set element collection _ members =>
      rw [conv_set runtime collection] at converted
      obtain ⟨built, done, rfl⟩ := map_eq_ok.mp converted
      refine .set element fun member present => ?_
      obtain ⟨item, source, conversion⟩ := mem_of_foldlM_setAdd done member present
      exact members item source conversion
  | map key valueType mapping _ _ keys values =>
      rw [conv_map runtime mapping] at converted
      obtain ⟨built, done, rfl⟩ := map_eq_ok.mp converted
      have stored := mem_of_foldlM_dictSet done
      refine .map key valueType (fun entry present => ?_) (fun entry present => ?_)
      · obtain ⟨item, source, conversion⟩ := (stored entry present).1
        exact keys item source conversion
      · obtain ⟨item, source, conversion⟩ := (stored entry present).2
        exact values item source conversion
  | tuple first rest sequence _ positions =>
      rw [conv_tuple runtime sequence] at converted
      obtain ⟨results, mapped, rfl⟩ := map_eq_ok.mp converted
      refine .tuple first rest fun entry present => ?_
      obtain ⟨i, item, pair, typeAt, conversion⟩ := exists_of_mapM_enum_eq_ok mapped present
      rw [List.getD_eq_getElem?_getD, typeAt, Option.getD_some] at conversion
      exact positions _ pair conversion

/-- Every converted value carries the type its column declares, at every nesting level, when the
raw value's containers have the type's shape and its leaves at the names whose branch passes
values through are strings, numbers at `timestamp`, or already of the type: whenever
`convert_cql_value` returns a value, it is `None` or has the type. -/
theorem convertCqlValue_hasType (runtime : Runtime) (type : PrintedType) {value result : PyValue}
    (fits : Fits LeafConvertible value type.term)
    (converted : convertCqlValue runtime value type.text = .ok result) : HasType result type.term :=
  conv_hasType runtime fits (convertCqlValue_eq_conv runtime fits type rfl ▸ converted)

/-- `infer_python_type` names the class of every value other than `None` that has a printed
type. -/
theorem HasType.isInstance_inferPythonType {result : PyValue} {type : PrintedType}
    (typed : HasType result type.term) :
    result = .none ∨ result.isInstance (inferPythonType type.text) = true := by
  rw [inferPythonType, type.ofValue?_baseTypeOf]
  generalize type.term = term at typed
  cases typed with
  | none => exact .inl rfl
  | simple name mapped belongs =>
      refine .inr ?_
      dsimp only [TypeTerm.cqlType]
      rw [mapped]
      exact belongs
  | list | set | map | tuple => exact .inr rfl

/-- A converted value other than `None` is an instance of the class that `infer_python_type`
names for its column, on the values that `convert_cql_value` gives their column's type. -/
theorem convertCqlValue_isInstance_inferPythonType (runtime : Runtime) (type : PrintedType)
    {value result : PyValue} (fits : Fits LeafConvertible value type.term)
    (converted : convertCqlValue runtime value type.text = .ok result) :
    result = .none ∨ result.isInstance (inferPythonType type.text) = true :=
  (conv_hasType runtime fits (convertCqlValue_eq_conv runtime fits type rfl ▸ converted)
    ).isInstance_inferPythonType

/-- A list of a UUID and `None` at `list<uuid>` passes through with its type. -/
theorem convertCqlValue_hasType_uuidList :
    Fits LeafConvertible (.list [.uuid 5, .none]) (TypeTerm.list (.simple ⟨.uuid, rfl⟩)).print.term ∧
      convertCqlValue Runtime.strict (.list [.uuid 5, .none])
          (TypeTerm.list (.simple ⟨.uuid, rfl⟩)).print.text = .ok (.list [.uuid 5, .none]) ∧
      HasType (.list [.uuid 5, .none]) (TypeTerm.list (.simple ⟨.uuid, rfl⟩)).print.term := by
  have fits : Fits LeafConvertible (.list [.uuid 5, .none])
      (TypeTerm.list (.simple ⟨.uuid, rfl⟩)).print.term := by
    refine .list _ rfl fun item member => ?_
    rcases List.mem_cons.mp member with rfl | member
    · exact .simple _ ⟨.uuid, rfl, fun _ => .inr (.inl rfl)⟩
    · rw [List.mem_singleton.mp member]; exact .none _
  have converted : convertCqlValue Runtime.strict (.list [.uuid 5, .none])
      (TypeTerm.list (.simple ⟨.uuid, rfl⟩)).print.text = .ok (.list [.uuid 5, .none]) := by
    rw [show (TypeTerm.list (.simple ⟨.uuid, rfl⟩)).print =
        .list (.lowerCase .list) (.padded .none (.simple ⟨.uuid, rfl⟩ (.lowerCase .uuid)) .none) from rfl,
      @convertCqlValue_printedList Runtime.strict (.list _) _ rfl, List.mapM_cons, List.mapM_cons,
      List.mapM_nil, Parameter.type, @convertCqlValue_printedSimple Runtime.strict (.uuid 5) rfl,
      convertCqlValue_none]
    rfl
  exact ⟨fits, converted, convertCqlValue_hasType Runtime.strict _ fits converted⟩

/-- A string at `list<int>` takes the `list(value)` fallback, which returns a list of its
characters. -/
theorem convertCqlValue_stringAsIntList :
    convertCqlValue Runtime.strict (.str "ab".toList)
        (TypeTerm.list (.simple ⟨.int, rfl⟩)).print.text = .ok (.list [.str ['a'], .str ['b']]) ∧
      ¬HasType (.list [.str ['a'], .str ['b']]) (TypeTerm.list (.simple ⟨.int, rfl⟩)).print.term := by
  refine ⟨?_, ?_⟩
  · rw [@convertCqlValue_listFallback Runtime.strict (.str _) _ rfl
      (TypeTerm.list (.simple ⟨.int, rfl⟩)).print.ofValue?_baseTypeOf rfl]
    rfl
  · rintro (_ | _ | ⟨_, members⟩)
    obtain (_ | ⟨_, mapped, belongs⟩) := members (.str ['a']) (List.mem_cons_self _ _)
    cases mapped
    cases belongs

end Cqlite.Types
