import PathQuery.Text.CodeUnits
import PathQuery.Value.Coercion

/-!
# Comparing values

Values of different types are compared loosely. Two strings compare as texts and everything else as
numbers, once lists, maps and callables have been replaced by their texts. Null and undefined equal
each other and nothing else, and no two lists, maps or callables are equal.

Membership in a list uses `same` instead, which never converts and finds NaN equal to itself.
-/

set_option autoImplicit false

namespace PathQuery.Value

/-- A truth value replaced by its number. -/
def withoutBool : Value → Value
  | bool b => number (numberOfBool b)
  | value => value

/-- Equality of numbers and strings: of one kind as they are, of two kinds as numbers. -/
def plainEqual : Value → Value → Bool
  | number x, number y => x.equal y
  | string s, string t => s == t
  | number x, string s | string s, number x => x.equal (.ofText s)
  | _, _ => false

/-- Loose equality. -/
def looseEqual (a b : Value) : Bool :=
  if a.isNullish || b.isNullish then a.isNullish && b.isNullish
  else if a.isCompound && b.isCompound then false
  else plainEqual a.primitive.withoutBool b.primitive.withoutBool

/-- The loose order. Values are unordered when one of them has to be a number and is not. -/
def compare (a b : Value) : Option Ordering :=
  match a.primitive, b.primitive with
  | string s, string t => some (Text.compare s t)
  | x, y => x.toNumber.compare y.toNumber

/-- Equality without conversion. NaN is the same as itself, and so are both zeros. -/
def same : Value → Value → Bool
  | undefined, undefined | null, null => true
  | number x, number y => x.equal y || (x.isNan && y.isNan)
  | string s, string t => s == t
  | bool x, bool y => x == y
  | _, _ => false

end PathQuery.Value
