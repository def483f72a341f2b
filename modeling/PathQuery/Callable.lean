/-!
# Callables

A callable is an operation without arguments that stands somewhere in the data. Data only holds a
handle to it. What a call answers is known to whoever supplies the data, and it may depend on how
often the callable has been called before; two handles with the same number are one operation.
-/

set_option autoImplicit false

namespace PathQuery

/-- A handle to an operation without arguments. -/
structure Callable where
  /-- Tells operations apart. -/
  id : Nat
  name : String
  deriving DecidableEq

/-- The failure of a call. -/
structure CallError where
  message : String
  deriving DecidableEq

/-- The callable as it is shown to people. -/
def Callable.signature (c : Callable) : String := "function " ++ c.name ++ "()"

/-- The callable as text, when it is compared with text. -/
def Callable.text (c : Callable) : String := c.signature ++ " \x7b [native code] \x7d"

end PathQuery
