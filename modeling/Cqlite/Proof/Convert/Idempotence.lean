import Cqlite.Proof.Convert.Refinement

/-!
Converting a converted value again at the same type string. Every scalar branch returns a value
that it gives back as it is, and the collection branches rebuild their containers from members
that are converted already, so a second pass changes nothing when the first took no fallback. The
fallbacks `list(value)`, `set(value)`, `dict(value)` and `tuple(value)` keep the members of the
value unconverted, and a second pass converts them.
-/

namespace Cqlite.Types

/-- The values on which `convert_cql_value` takes no fallback at a type string: `None`; any value
at a base type outside `CQLType` or at a simple name; at `list` and `tuple` a `list` or `tuple`, at
`set` a `list`, `tuple` or `set`, and at `map` a `dict`, whose members, keys, values and items take
no fallback at the parameter types that the extraction functions read from the string. -/
inductive NoFallback : PyValue → List Char → Prop
  | none (cqlTypeString : List Char) : NoFallback .none cqlTypeString
  | unknown {cqlTypeString : List Char} (value : PyValue)
      (unknown : CQLType.ofValue? (baseTypeOf cqlTypeString) = none) : NoFallback value cqlTypeString
  | scalar {cqlTypeString : List Char} {cqlType : CQLType} (value : PyValue)
      (base : CQLType.ofValue? (baseTypeOf cqlTypeString) = some cqlType)
      (scalar : cqlType.isCollection = false) : NoFallback value cqlTypeString
  | list {cqlTypeString : List Char} {value : PyValue} {items : List PyValue}
      (base : CQLType.ofValue? (baseTypeOf cqlTypeString) = some .list)
      (sequence : value.sequenceItems? = some items)
      (members : ∀ item ∈ items, NoFallback item (extractElementType cqlTypeString)) :
      NoFallback value cqlTypeString
  | set {cqlTypeString : List Char} {value : PyValue} {items : List PyValue}
      (base : CQLType.ofValue? (baseTypeOf cqlTypeString) = some .set)
      (collection : value.collectionItems? = some items)
      (members : ∀ item ∈ items, NoFallback item (extractElementType cqlTypeString)) :
      NoFallback value cqlTypeString
  | map {cqlTypeString : List Char} {value : PyValue} {items : List (PyValue × PyValue)}
      (base : CQLType.ofValue? (baseTypeOf cqlTypeString) = some .map)
      (mapping : value.dictItems? = some items)
      (keys : ∀ entry ∈ items, NoFallback entry.1 (extractMapTypes cqlTypeString).1)
      (values : ∀ entry ∈ items, NoFallback entry.2 (extractMapTypes cqlTypeString).2) :
      NoFallback value cqlTypeString
  | tuple {cqlTypeString : List Char} {value : PyValue} {items : List PyValue}
      (base : CQLType.ofValue? (baseTypeOf cqlTypeString) = some .tuple)
      (sequence : value.sequenceItems? = some items)
      (positions : ∀ entry ∈ items.enum,
        NoFallback entry.2 (tupleElementType (extractTupleTypes cqlTypeString) entry.1)) :
      NoFallback value cqlTypeString

/-! ### The scalar branches -/

section Scalar

variable (runtime : Runtime) {value result : PyValue}

/-- A value that the branch of a simple name returns, the branch gives back as it is. -/
theorem convertScalar_fixed (cqlType : CQLType)
    (converted : convertScalar runtime cqlType value = .ok result) :
    convertScalar runtime cqlType result = .ok result := by
  cases cqlType <;> simp only [convertScalar] at converted ⊢
  case text | varchar | ascii => cases converted; rw [runtime.str_str]
  case int | smallint | tinyint | bigint | counter | varint =>
    obtain ⟨_, -, rfl⟩ := map_eq_ok.mp converted
    rw [runtime.int_int]; rfl
  case float | double =>
    obtain ⟨_, -, rfl⟩ := map_eq_ok.mp converted
    rw [runtime.float_float]; rfl
  case decimal =>
    split at converted <;> obtain ⟨_, parsed, rfl⟩ := map_eq_ok.mp converted <;> dsimp only <;>
      rw [runtime.decimal_str _ _ parsed] <;> rfl
  case boolean => split at converted <;> (cases converted; rfl)
  case blob =>
    split at converted <;> obtain ⟨_, -, rfl⟩ := map_eq_ok.mp converted <;> dsimp only <;>
      rw [runtime.bytes_bytes] <;> rfl
  case uuid | timeuuid | date | time | inet =>
    split at converted
    · obtain ⟨_, -, rfl⟩ := map_eq_ok.mp converted; rfl
    · cases converted
      rename_i notText
      split
      · exact absurd rfl (notText _)
      · rfl
  case timestamp =>
    split at converted
    · split at converted
      · cases converted; rfl
      · split at converted
        · obtain ⟨_, -, converted⟩ := bind_eq_ok.mp converted
          obtain ⟨_, -, rfl⟩ := map_eq_ok.mp converted; rfl
        · cases converted
    case' h_2 | h_3 | h_4 => obtain ⟨_, -, rfl⟩ := map_eq_ok.mp converted; rfl
    cases converted
    rename_i notText notBool notInt notFloat
    split <;> first | rfl | exact absurd rfl (notText _) | exact absurd rfl (notBool _) |
      exact absurd rfl (notInt _) | exact absurd rfl (notFloat _)
  case udt =>
    obtain ⟨items, built, rfl⟩ := map_eq_ok.mp converted
    rw [dictOf, foldlM_dictSet_self (show DictBuilt ([] ++ items) from DictBuilt.of_dictOf built)]
    rfl

end Scalar

/-! ### Every level -/

/-- `None` converts to `None` at every type string, and `None` converts to itself. -/
theorem convertCqlValue_fixed_of_isNone (runtime : Runtime) {value result : PyValue}
    {cqlTypeString : List Char} (present : value.isNone = true)
    (converted : convertCqlValue runtime value cqlTypeString = .ok result) :
    convertCqlValue runtime result cqlTypeString = .ok result := by
  rw [PyValue.isNone_iff.mp present, convertCqlValue_none] at converted
  cases converted
  exact convertCqlValue_none runtime _

/-- Where the first pass takes no fallback, `convert_cql_value` gives back what it returned, at every
nesting level: a set and a dict are rebuilt from members and entries that are given back, and
adding them again in order keeps them as they are. -/
theorem convertCqlValue_fixed (runtime : Runtime) {value : PyValue} {cqlTypeString : List Char}
    (noFallback : NoFallback value cqlTypeString) {result : PyValue}
    (converted : convertCqlValue runtime value cqlTypeString = .ok result) :
    convertCqlValue runtime result cqlTypeString = .ok result := by
  induction noFallback generalizing result with
  | none => exact convertCqlValue_fixed_of_isNone runtime (by rfl) converted
  | unknown value unknown =>
      cases present : value.isNone
      · rw [convertCqlValue_unknown runtime present unknown] at converted
        cases converted
        exact convertCqlValue_unknown runtime present unknown
      · exact convertCqlValue_fixed_of_isNone runtime present converted
  | scalar value base scalar =>
      cases present : value.isNone
      · rw [convertCqlValue_scalar runtime present base scalar] at converted
        cases again : result.isNone
        · rw [convertCqlValue_scalar runtime again base scalar]
          exact convertScalar_fixed runtime _ converted
        · rw [PyValue.isNone_iff.mp again, convertCqlValue_none]
      · exact convertCqlValue_fixed_of_isNone runtime present converted
  | list base sequence _ members =>
      rw [convertCqlValue_list runtime base sequence] at converted
      obtain ⟨results, mapped, rfl⟩ := map_eq_ok.mp converted
      rw [convertCqlValue_list runtime base (PyValue.sequenceItems?_list results),
        mapM_eq_ok_self fun member present => ?_]
      · rfl
      obtain ⟨item, source, conversion⟩ := exists_of_mapM_eq_ok mapped present
      exact members item source conversion
  | set base collection _ members =>
      rw [convertCqlValue_set runtime base collection] at converted
      obtain ⟨built, done, rfl⟩ := map_eq_ok.mp converted
      rw [convertCqlValue_set runtime base (PyValue.collectionItems?_set built),
        foldlM_setAdd_fixed (SetBuilt.of_foldlM done) fun member present => ?_]
      · rfl
      obtain ⟨item, source, conversion⟩ := mem_of_foldlM_setAdd done member present
      exact members item source conversion
  | @map cqlTypeString value items base mapping _ _ keys values =>
      rw [convertCqlValue_map runtime base mapping] at converted
      obtain ⟨built, done, rfl⟩ := map_eq_ok.mp converted
      have stored := mem_of_foldlM_dictSet done
      rw [convertCqlValue_map runtime base (PyValue.dictItems?_dict built),
        @foldlM_dictSet_fixed (convertCqlValue runtime · (extractMapTypes cqlTypeString).1)
          (convertCqlValue runtime · (extractMapTypes cqlTypeString).2) built
          (DictBuilt.of_foldlM done) (fun entry present => ?_) (fun entry present => ?_)]
      · rfl
      · obtain ⟨item, source, conversion⟩ := (stored entry present).1
        exact keys item source conversion
      · obtain ⟨item, source, conversion⟩ := (stored entry present).2
        exact values item source conversion
  | @tuple cqlTypeString value items base sequence _ positions =>
      rw [convertCqlValue_tuple runtime base sequence] at converted
      obtain ⟨results, mapped, rfl⟩ := map_eq_ok.mp converted
      rw [convertCqlValue_tuple runtime base (PyValue.sequenceItems?_tuple results),
        mapM_enum_eq_ok_self fun i inside => ?_]
      · rfl
      obtain ⟨early, conversion⟩ := mapM_enum_getElem mapped inside
      exact positions (i, items[i]) (List.mem_iff_getElem.mpr ⟨i, by simpa using early, by simp⟩)
        conversion

/-! ### Printed types -/

/-- A value whose containers have the shape of a printed type takes no fallback at its text. -/
theorem Fits.noFallback {leaf : CQLType → PyValue → Prop} {value : PyValue} {term : TypeTerm}
    (fits : Fits leaf value term) (type : PrintedType) (same : type.term = term) :
    NoFallback value type.text := by
  induction fits generalizing type with
  | none => exact .none _
  | @simple value name _ =>
      exact .scalar value type.ofValue?_baseTypeOf (by rw [same]; exact name.simple)
  | list element sequence _ members =>
      cases type with
      | list spelling parameter =>
          cases same
          refine .list (PrintedType.list spelling parameter).ofValue?_baseTypeOf sequence
            fun item member => ?_
          rw [PrintedType.text, extractElementType_withParameters]
          exact members item member parameter.type (Parameter.term_eq parameter).symm
      | _ => cases same
  | set element collection _ members =>
      cases type with
      | set spelling parameter =>
          cases same
          refine .set (PrintedType.set spelling parameter).ofValue?_baseTypeOf collection
            fun item member => ?_
          rw [PrintedType.text, extractElementType_withParameters]
          exact members item member parameter.type (Parameter.term_eq parameter).symm
      | _ => cases same
  | map key valueType mapping _ _ keys values =>
      cases type with
      | map spelling keyParameter valueParameter =>
          cases same
          refine .map (PrintedType.map spelling keyParameter valueParameter).ofValue?_baseTypeOf mapping
            (fun entry member => ?_) (fun entry member => ?_) <;>
            rw [PrintedType.text, extractMapTypes_withParameters]
          · exact keys entry member keyParameter.type (Parameter.term_eq keyParameter).symm
          · exact values entry member valueParameter.type (Parameter.term_eq valueParameter).symm
      | _ => cases same
  | tuple first rest sequence _ positions =>
      cases type with
      | tuple spelling parameter parameters =>
          cases same
          rw [Parameter.terms_eq] at positions
          refine .tuple (PrintedType.tuple spelling parameter parameters).ofValue?_baseTypeOf sequence
            fun entry member => ?_
          rw [PrintedType.text, extractTupleTypes_withParameters]
          rcases printedTuple_position member with ⟨parameter, paired, texts, -⟩ | ⟨texts, -⟩
          · rw [texts]
            exact positions _ paired parameter.type rfl
          · rw [texts]
            exact .scalar entry.2 CQLType.ofValue?_text rfl
      | _ => cases same

/-- At a printed type, converting again a value converted from one whose containers have the
type's shape gives it back. -/
theorem convertCqlValue_printed_fixed (runtime : Runtime) (type : PrintedType)
    {leaf : CQLType → PyValue → Prop} {value result : PyValue} (fits : Fits leaf value type.term)
    (converted : convertCqlValue runtime value type.text = .ok result) :
    convertCqlValue runtime result type.text = .ok result :=
  convertCqlValue_fixed runtime (fits.noFallback type rfl) converted

end Cqlite.Types
