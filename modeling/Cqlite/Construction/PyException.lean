/-!
The Python exceptions that the modelled functions raise or catch. A function that may raise returns
`Except PyException`.
-/

namespace Cqlite

/-- The exception classes that the library raises or tests for. -/
inductive ExceptionKind where
  | valueError
  | typeError
  | overflowError
  | keyError
  | zeroDivisionError
  | other
  deriving DecidableEq, Repr

/-- A raised exception: its class and its message. -/
structure PyException where
  kind : ExceptionKind
  message : String
  deriving DecidableEq, Repr

/-- This is `ValueError(message)`. -/
def PyException.valueError (message : String) : PyException := ⟨.valueError, message⟩

/-- This is `TypeError(message)`. -/
def PyException.typeError (message : String) : PyException := ⟨.typeError, message⟩

/-- This is the `KeyError(key)` that subscripting a dict raises for a missing key. -/
def PyException.keyError (key : String) : PyException := ⟨.keyError, key⟩

/-- This is the `ZeroDivisionError` of a division by zero. -/
def PyException.zeroDivision : PyException := ⟨.zeroDivisionError, "division by zero"⟩

end Cqlite
