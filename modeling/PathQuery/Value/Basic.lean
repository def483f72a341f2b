import PathQuery.Callable
import PathQuery.Double.Basic
import PathQuery.Entries

/-!
# Values

A `Value` is a node of the data that paths are resolved in: what JSON can hold, and beyond that
the absence of a value and callables. Maps keep the order of their entries. `Value.Distinct` says
that no map in a value has a key twice, which holds of all values that are built by insertion.
-/

set_option autoImplicit false

namespace PathQuery

/-- A node of the data. -/
inductive Value where
  /-- The absence of a value, which is not the same as `null`. -/
  | undefined
  | null
  | bool (b : Bool)
  | number (n : Double)
  | string (s : String)
  | list (items : List Value)
  | map (entries : List (String × Value))
  | callable (c : Callable)
  deriving Inhabited

namespace Value

/-- The name of a value's type, as messages give it. -/
def typeName : Value → String
  | undefined => "undefined"
  | null => "null"
  | bool _ => "boolean"
  | number _ => "number"
  | string _ => "string"
  | list _ => "list"
  | map _ => "map"
  | callable _ => "callable"

def isUndefined : Value → Bool
  | undefined => true
  | _ => false

/-- There is nothing to look into: the value is null or undefined. -/
def isNullish : Value → Bool
  | undefined | null => true
  | _ => false

/-- The value is a list, a map or a callable. Two of these are never equal. -/
def isCompound : Value → Bool
  | list _ | map _ | callable _ => true
  | _ => false

def asList? : Value → Option (List Value)
  | list items => some items
  | _ => none

def asString? : Value → Option String
  | string s => some s
  | _ => none

def asCallable? : Value → Option Callable
  | callable c => some c
  | _ => none

/-! ## Distinct keys -/

mutual
/-- No map in the value has a key twice. -/
def Distinct : Value → Prop
  | list items => DistinctItems items
  | map entries => (Entries.keys entries).Nodup ∧ DistinctEntries entries
  | _ => True

def DistinctItems : List Value → Prop
  | [] => True
  | item :: rest => item.Distinct ∧ DistinctItems rest

def DistinctEntries : List (String × Value) → Prop
  | [] => True
  | (_, value) :: rest => value.Distinct ∧ DistinctEntries rest
end

end Value

end PathQuery
