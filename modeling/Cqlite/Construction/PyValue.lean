import Mathlib.Data.Rat.Defs
import Cqlite.Construction.PyException

/-!
The Python values that `convert_cql_value` of `cqlite/types.py` reads and returns, and the parts of
the Python runtime it relies on: `==`, `hash`, truth, iteration, the `set` and `dict` constructors,
`isinstance`, and the builtins it calls, given as a `Runtime` with the laws the development uses.
Object identity is not modelled: `==` alone decides membership in sets and dicts.
-/

namespace Cqlite

/-- A Python `float`: a finite value, an infinity or NaN. -/
inductive PyFloat where
  | finite (value : ℚ)
  | infinity (negative : Bool)
  | nan
  deriving DecidableEq, Repr

/-- A `decimal.Decimal`: `coefficient × 10 ^ exponent`, an infinity or NaN. -/
inductive PyDecimal where
  | finite (coefficient exponent : Int)
  | infinity (negative : Bool)
  | nan
  deriving DecidableEq, Repr

/-- An `ipaddress.IPv4Address` or `ipaddress.IPv6Address`. -/
inductive IpAddress where
  | v4 (value : Nat)
  | v6 (value : Nat)
  deriving DecidableEq, Repr

/-- The Python values of the model. A `uuid.UUID`, `datetime.datetime`, `datetime.date` or
`datetime.time` is given by the integer that identifies it; a `set` and a `dict` list their members
in iteration order. -/
inductive PyValue where
  | none
  | bool (value : Bool)
  | int (value : Int)
  | float (value : PyFloat)
  | decimal (value : PyDecimal)
  | str (value : List Char)
  | bytes (value : List UInt8)
  | uuid (value : Nat)
  | datetime (value : Int)
  | date (value : Int)
  | time (value : Nat)
  | ipAddress (value : IpAddress)
  | list (items : List PyValue)
  | tuple (items : List PyValue)
  | set (items : List PyValue)
  | dict (items : List (PyValue × PyValue))

namespace PyValue

/-- The name of a value's class, as error messages print it. -/
def typeName : PyValue → String
  | .none => "NoneType"
  | .bool _ => "bool"
  | .int _ => "int"
  | .float _ => "float"
  | .decimal _ => "decimal.Decimal"
  | .str _ => "str"
  | .bytes _ => "bytes"
  | .uuid _ => "UUID"
  | .datetime _ => "datetime.datetime"
  | .date _ => "datetime.date"
  | .time _ => "datetime.time"
  | .ipAddress (.v4 _) => "IPv4Address"
  | .ipAddress (.v6 _) => "IPv6Address"
  | .list _ => "list"
  | .tuple _ => "tuple"
  | .set _ => "set"
  | .dict _ => "dict"

/-- This is `value is None`. -/
def isNone : PyValue → Bool
  | .none => true
  | _ => false

/-- The members of a value for which `isinstance(value, (list, tuple))` holds. -/
def sequenceItems? : PyValue → Option (List PyValue)
  | .list items | .tuple items => some items
  | _ => Option.none

/-- The members of a value for which `isinstance(value, (list, tuple, set))` holds. -/
def collectionItems? : PyValue → Option (List PyValue)
  | .list items | .tuple items | .set items => some items
  | _ => Option.none

/-- The entries of a value for which `isinstance(value, dict)` holds. -/
def dictItems? : PyValue → Option (List (PyValue × PyValue))
  | .dict items => some items
  | _ => Option.none

theorem sizeOf_lt_of_sequenceItems {value item : PyValue} {items : List PyValue}
    (sequence : value.sequenceItems? = some items) (member : item ∈ items) :
    sizeOf item < sizeOf value := by
  have smaller := List.sizeOf_lt_of_mem member
  cases value <;> simp only [sequenceItems?, Option.some.injEq, reduceCtorEq] at sequence <;>
    subst sequence <;> simp only [PyValue.list.sizeOf_spec, PyValue.tuple.sizeOf_spec] <;> omega

theorem sizeOf_lt_of_collectionItems {value item : PyValue} {items : List PyValue}
    (collection : value.collectionItems? = some items) (member : item ∈ items) :
    sizeOf item < sizeOf value := by
  have smaller := List.sizeOf_lt_of_mem member
  cases value <;> simp only [collectionItems?, Option.some.injEq, reduceCtorEq] at collection <;>
    subst collection <;>
    simp only [PyValue.list.sizeOf_spec, PyValue.tuple.sizeOf_spec, PyValue.set.sizeOf_spec] <;> omega

theorem sizeOf_lt_of_dictItems {value : PyValue} {entry : PyValue × PyValue}
    {items : List (PyValue × PyValue)} (mapping : value.dictItems? = some items)
    (member : entry ∈ items) : sizeOf entry.1 < sizeOf value ∧ sizeOf entry.2 < sizeOf value := by
  have smaller := List.sizeOf_lt_of_mem member
  cases value <;> simp only [dictItems?, Option.some.injEq, reduceCtorEq] at mapping
  subst mapping
  obtain ⟨key, item⟩ := entry
  simp only [PyValue.dict.sizeOf_spec, Prod.mk.sizeOf_spec] at smaller ⊢
  omega

/-- The value of a finite decimal. -/
def decimalValue (coefficient exponent : Int) : ℚ :=
  if 0 ≤ exponent then coefficient * 10 ^ exponent.toNat
  else coefficient / 10 ^ (-exponent).toNat

/-- The number that a `bool`, `int`, `float` or `Decimal` stands for in `==`. -/
def number? : PyValue → Option PyFloat
  | .bool value => some (.finite (if value then 1 else 0))
  | .int value => some (.finite value)
  | .float value => some value
  | .decimal (.finite coefficient exponent) => some (.finite (decimalValue coefficient exponent))
  | .decimal (.infinity negative) => some (.infinity negative)
  | .decimal .nan => some .nan
  | _ => Option.none

end PyValue

/-- Numeric `==`: NaN equals nothing, not even itself. -/
def PyFloat.eq : PyFloat → PyFloat → Bool
  | .finite a, .finite b => a == b
  | .infinity a, .infinity b => a == b
  | _, _ => false

mutual
/-- Python's `==`. Numbers compare by value across `bool`, `int`, `float` and `Decimal`; a `set`
equals one of the same size that holds an equal of each of its members, a `dict` one of the same
size that maps an equal key to an equal value. -/
def PyValue.eq : PyValue → PyValue → Bool
  | .none, .none => true
  | .str a, .str b => a == b
  | .bytes a, .bytes b => a == b
  | .uuid a, .uuid b => a == b
  | .datetime a, .datetime b => a == b
  | .date a, .date b => a == b
  | .time a, .time b => a == b
  | .ipAddress a, .ipAddress b => a == b
  | .list xs, .list ys => PyValue.eqAll xs ys
  | .tuple xs, .tuple ys => PyValue.eqAll xs ys
  | .set xs, .set ys => xs.length == ys.length && PyValue.subset xs ys
  | .dict xs, .dict ys => xs.length == ys.length && PyValue.dictSubset xs ys
  | a, b =>
      match a.number?, b.number? with
      | some a, some b => a.eq b
      | _, _ => false
termination_by structural a => a

/-- Element-wise `==` of two sequences. -/
def PyValue.eqAll : List PyValue → List PyValue → Bool
  | [], [] => true
  | x :: xs, y :: ys => x.eq y && PyValue.eqAll xs ys
  | _, _ => false

/-- Each member of the first set has an equal in the second. -/
def PyValue.subset : List PyValue → List PyValue → Bool
  | [], _ => true
  | x :: xs, ys => ys.any (fun y => x.eq y) && PyValue.subset xs ys

/-- Each entry of the first dict has an entry with an equal key and an equal value in the second. -/
def PyValue.dictSubset : List (PyValue × PyValue) → List (PyValue × PyValue) → Bool
  | [], _ => true
  | (key, value) :: xs, ys =>
      ys.any (fun entry => key.eq entry.1 && value.eq entry.2) && PyValue.dictSubset xs ys
end

mutual
/-- This is `hash(value)`, which raises `TypeError` on a `list`, `set` or `dict`, also inside a
`tuple`; only whether it raises matters here. -/
def PyValue.hashCheck : PyValue → Except PyException Unit
  | .list _ => .error (.typeError "unhashable type: 'list'")
  | .set _ => .error (.typeError "unhashable type: 'set'")
  | .dict _ => .error (.typeError "unhashable type: 'dict'")
  | .tuple items => PyValue.hashCheckAll items
  | _ => .ok ()
termination_by structural value => value

/-- Hashing the members of a `tuple` in order. -/
def PyValue.hashCheckAll : List PyValue → Except PyException Unit
  | [] => .ok ()
  | item :: rest => do
      item.hashCheck
      PyValue.hashCheckAll rest
end

namespace PyValue

/-- This is `bool(value)`. -/
def truthy : PyValue → Bool
  | .none => false
  | .bool value => value
  | .int value => value != 0
  | .float value => value != .finite 0
  | .decimal (.finite coefficient _) => coefficient != 0
  | .str value => !value.isEmpty
  | .bytes value => !value.isEmpty
  | .list items | .tuple items | .set items => !items.isEmpty
  | .dict items => !items.isEmpty
  | _ => true

/-- The items that iterating over a value yields, as `list(value)` collects them: the characters
of a `str`, the integers of `bytes`, the members of a `list`, `tuple` or `set`, and the keys of a
`dict`. -/
def iterate : PyValue → Except PyException (List PyValue)
  | .str text => .ok (text.map fun char => .str [char])
  | .bytes content => .ok (content.map fun byte => .int byte.toNat)
  | .list items | .tuple items | .set items => .ok items
  | .dict items => .ok (items.map Prod.fst)
  | value => .error (.typeError ("'" ++ value.typeName ++ "' object is not iterable"))

end PyValue

/-- Adding to a set: a value equal to a member leaves the set as it is, another one goes last. -/
def setInsert : List PyValue → PyValue → List PyValue
  | [], value => [value]
  | item :: rest, value => if item.eq value then item :: rest else item :: setInsert rest value

/-- This is `s.add(value)`, which hashes the value first. -/
def setAdd (items : List PyValue) (value : PyValue) : Except PyException (List PyValue) := do
  value.hashCheck
  pure (setInsert items value)

/-- This is `set(value)`. -/
def setOf (value : PyValue) : Except PyException (List PyValue) := do
  let items ← value.iterate
  items.foldlM setAdd []

/-- Storing into a dict: a key equal to a stored one keeps the stored key and takes the new value,
another one goes last. -/
def dictInsert : List (PyValue × PyValue) → PyValue → PyValue → List (PyValue × PyValue)
  | [], key, value => [(key, value)]
  | (storedKey, storedValue) :: rest, key, value =>
      if storedKey.eq key then (storedKey, value) :: rest
      else (storedKey, storedValue) :: dictInsert rest key value

/-- This is `d[key] = value`, which hashes the key first. -/
def dictSet (items : List (PyValue × PyValue)) (key value : PyValue) :
    Except PyException (List (PyValue × PyValue)) := do
  key.hashCheck
  pure (dictInsert items key value)

/-- One element of the argument of `dict(iterable)`: it must iterate to exactly a key and a
value. -/
def dictUpdate (items : List (PyValue × PyValue)) (index : Nat) (element : PyValue) :
    Except PyException (List (PyValue × PyValue)) :=
  match element.iterate with
  | .ok [key, value] => dictSet items key value
  | .ok pair =>
      .error (.valueError ("dictionary update sequence element #" ++ toString index ++
        " has length " ++ toString pair.length ++ "; 2 is required"))
  | .error _ =>
      .error (.typeError ("cannot convert dictionary update sequence element #" ++
        toString index ++ " to a sequence"))

/-- This is `dict(value)`: a copy of a `dict`, or the pairs that iterating over the value yields. -/
def dictOf : PyValue → Except PyException (List (PyValue × PyValue))
  | .dict items => items.foldlM (fun built entry => dictSet built entry.1 entry.2) []
  | value => do
      let elements ← value.iterate
      elements.enum.foldlM (fun built entry => dictUpdate built entry.1 entry.2) []

/-- The Python classes that `PYTHON_TYPE_MAPPING` names; `ipAddress` stands for
`Union[ipaddress.IPv4Address, ipaddress.IPv6Address]`. -/
inductive PyType where
  | str | int | float | decimal | bool | bytes | uuid | datetime | date | time | ipAddress
  | list | set | dict | tuple
  deriving DecidableEq, Repr

/-- This is `isinstance(value, cls)`: `bool` is a subclass of `int`, and `datetime.datetime` of
`datetime.date`. -/
def PyValue.isInstance : PyValue → PyType → Bool
  | .str _, .str | .int _, .int | .bool _, .int | .float _, .float | .decimal _, .decimal
  | .bool _, .bool | .bytes _, .bytes | .uuid _, .uuid | .datetime _, .datetime
  | .datetime _, .date | .date _, .date | .time _, .time | .ipAddress _, .ipAddress
  | .list _, .list | .set _, .set | .dict _, .dict | .tuple _, .tuple => true
  | _, _ => false

/-- The builtins that `convert_cql_value` calls, with the laws of them that the development uses:
converting a value that already has the result type gives it back. -/
structure Runtime where
  /-- `str(value)` -/
  str : PyValue → List Char
  /-- `int(value)` -/
  int : PyValue → Except PyException Int
  /-- `float(value)` -/
  float : PyValue → Except PyException PyFloat
  /-- `decimal.Decimal(text)` -/
  decimal : List Char → Except PyException PyDecimal
  /-- `bytes.fromhex(text)` -/
  fromhex : List Char → Except PyException (List UInt8)
  /-- `bytes(value)` -/
  bytes : PyValue → Except PyException (List UInt8)
  /-- `uuid.UUID(text)` -/
  uuid : List Char → Except PyException Nat
  /-- `datetime.datetime.fromisoformat(text)` -/
  fromisoformat : List Char → Except PyException Int
  /-- `datetime.datetime.fromtimestamp(number)` -/
  fromtimestamp : PyValue → Except PyException Int
  /-- `datetime.datetime.strptime(text, '%Y-%m-%d').date()` -/
  strptimeDate : List Char → Except PyException Int
  /-- `datetime.datetime.strptime(text, '%H:%M:%S').time()` -/
  strptimeTime : List Char → Except PyException Nat
  /-- `ipaddress.ip_address(text)` -/
  ipAddress : List Char → Except PyException IpAddress
  str_str : ∀ text, str (.str text) = text
  int_int : ∀ value, int (.int value) = .ok value
  float_float : ∀ value, float (.float value) = .ok value
  decimal_str : ∀ text value, decimal text = .ok value → decimal (str (.decimal value)) = .ok value
  bytes_bytes : ∀ value, bytes (.bytes value) = .ok value

/-- The error of a builtin given an argument it does not take. -/
def PyException.invalidArgument (value : PyValue) : PyException :=
  .valueError ("invalid argument of type " ++ value.typeName)

/-- A runtime whose builtins take only arguments that already have their result type and raise
`ValueError` on every other one, and whose `str` prints `None`, booleans, integers and strings:
it shows that the laws of `Runtime` can all hold. -/
def Runtime.strict : Runtime where
  str
    | .none => "None".toList
    | .bool value => (if value then "True" else "False").toList
    | .int value => (toString value).toList
    | .str text => text
    | _ => []
  int
    | .bool value => .ok (if value then 1 else 0)
    | .int value => .ok value
    | value => .error (.invalidArgument value)
  float
    | .float value => .ok value
    | value => .error (.invalidArgument value)
  decimal text := .error (.invalidArgument (.str text))
  fromhex text := .error (.invalidArgument (.str text))
  bytes
    | .bytes value => .ok value
    | value => .error (.invalidArgument value)
  uuid text := .error (.invalidArgument (.str text))
  fromisoformat text := .error (.invalidArgument (.str text))
  fromtimestamp value := .error (.invalidArgument value)
  strptimeDate text := .error (.invalidArgument (.str text))
  strptimeTime text := .error (.invalidArgument (.str text))
  ipAddress text := .error (.invalidArgument (.str text))
  str_str _ := rfl
  int_int _ := rfl
  float_float _ := rfl
  decimal_str _ _ parsed := by cases parsed
  bytes_bytes _ := rfl

end Cqlite
