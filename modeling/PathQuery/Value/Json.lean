import PathQuery.Json.Reader
import PathQuery.Json.Writer
import PathQuery.Value.Basic

/-!
# Values and JSON

Every JSON document is a value. The other way round, undefined and callables have no place in JSON:
as an item of a list they become null, as an entry of a map they vanish, and on their own they are
written as `undefined`. Numbers that are not finite become null.
-/

set_option autoImplicit false

namespace PathQuery.Value

mutual
/-- The value that a JSON document stands for. -/
def ofJson : Json → Value
  | .null => null
  | .bool b => bool b
  | .number n => number n.toDouble
  | .string s => string s
  | .list items => list (ofJsonItems items)
  | .object entries => map (ofJsonEntries entries)

def ofJsonItems : List Json → List Value
  | [] => []
  | item :: rest => ofJson item :: ofJsonItems rest

def ofJsonEntries : List (String × Json) → List (String × Value)
  | [] => []
  | (key, json) :: rest => (key, ofJson json) :: ofJsonEntries rest
end

mutual
/-- The JSON document of a value, if it has one. -/
def toJson? : Value → Option Json
  | undefined | callable _ => none
  | null => some .null
  | bool b => some (.bool b)
  | number n => some (((JsonNumber.ofDouble? n).map .number).getD .null)
  | string s => some (.string s)
  | list items => some (.list (toJsonItems items))
  | map entries => some (.object (toJsonEntries entries))

/-- The JSON documents of items, null for those that have none. -/
def toJsonItems : List Value → List Json
  | [] => []
  | item :: rest => item.toJson?.getD .null :: toJsonItems rest

/-- The JSON documents of entries, without those that have none. -/
def toJsonEntries : List (String × Value) → List (String × Json)
  | [] => []
  | (key, value) :: rest =>
      match value.toJson? with
      | some json => (key, json) :: toJsonEntries rest
      | none => toJsonEntries rest
end

/-- The value that a JSON text stands for. -/
def ofJsonText? (text : String) : Option Value := (Json.ofText? text).map ofJson

/-- The value as JSON text, or the word `undefined`. -/
def serialize (value : Value) : String := (value.toJson?.map Json.text).getD "undefined"

end PathQuery.Value
