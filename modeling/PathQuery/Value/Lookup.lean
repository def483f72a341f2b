import PathQuery.Double.Reading
import PathQuery.Value.Basic

/-!
# Looking up a key

Maps look up their entries. Lists and strings have elements, those of a string being its characters,
and look up the decimal text of an index as well as `length`. Nothing else has anything to look up,
and what is not found is undefined.
-/

set_option autoImplicit false

namespace PathQuery

/-- The key is digits without a zero in front, or a single zero. -/
def isCanonicalIndex (key : String) : Bool :=
  let digits := key.toList
  digits == ['0'] || (!digits.isEmpty && digits.head? != some '0' && digits.all Char.isDigit)

/-- The index that a key is the text of, in digits without a sign or zeros in front. An index is a
machine word of 64 bits, and the text of a greater number is no index. -/
def indexOfKey? (key : String) : Option Nat :=
  if isCanonicalIndex key then readWord? 10 key.toList else none

namespace Value

/-- The elements of a list or of a string. -/
def elements? : Value → Option (List Value)
  | list items => some items
  | string s => some (s.toList.map fun c => string (String.singleton c))
  | _ => none

/-- What a list of elements has under a key. -/
def lookupElement (elements : List Value) (key : String) : Value :=
  if key = "length" then number (.ofNat elements.length)
  else ((indexOfKey? key).bind (elements[·]?)).getD undefined

/-- What the value has under a key. -/
def lookup (value : Value) (key : String) : Value :=
  match value with
  | map entries => (entries.lookup key).getD undefined
  | _ => (value.elements?.map (lookupElement · key)).getD undefined

end Value

end PathQuery
