import PathQuery.Double.Printing
import PathQuery.Double.Reading
import PathQuery.Value.Basic

/-!
# Values as text and as numbers

Every value has a text and a number, which comparisons fall back on. The text of a list joins the
texts of its items with commas, null and undefined items being empty; all maps have one text. The
number of a string is the number it reads as, and lists, maps and callables read their text.
-/

set_option autoImplicit false

namespace PathQuery.Value

mutual
/-- The text of a value. -/
def text : Value → String
  | undefined => "undefined"
  | null => "null"
  | bool b => if b then "true" else "false"
  | number n => n.text
  | string s => s
  | list items => ",".intercalate (itemTexts items)
  | map _ => "[object Object]"
  | callable c => c.text

/-- The texts of the items of a list. -/
def itemTexts : List Value → List String
  | [] => []
  | item :: rest => (if item.isNullish then "" else item.text) :: itemTexts rest
end

/-- The number of a truth value. -/
def numberOfBool (b : Bool) : Double := .ofNat b.toNat

/-- The number of a value, or NaN. -/
def toNumber (value : Value) : Double :=
  match value with
  | undefined => .nan
  | null => .zero
  | bool b => numberOfBool b
  | number n => n
  | string s => .ofText s
  | list _ | map _ | callable _ => .ofText value.text

/-- The value with a list, map or callable replaced by its text. -/
def primitive (value : Value) : Value :=
  if value.isCompound then string value.text else value

end PathQuery.Value
