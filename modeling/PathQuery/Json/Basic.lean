import PathQuery.Double.Rounding
import PathQuery.Entries

/-!
# JSON documents

`Json` is what a JSON text stands for. Numbers are always finite. A whole number that a double
holds together with both its neighbours is kept as an integer, all others as a double.
-/

set_option autoImplicit false

namespace PathQuery

/-- A number of a JSON document. -/
inductive JsonNumber where
  | integer (i : Int)
  | real (negative : Bool) (magnitude : Magnitude)
  deriving DecidableEq

/-- A JSON document. Objects keep the order of their entries. -/
inductive Json where
  | null
  | bool (b : Bool)
  | number (n : JsonNumber)
  | string (s : String)
  | list (items : List Json)
  | object (entries : List (String × Json))
  deriving Inhabited

namespace JsonNumber

/-- The greatest whole number that is kept as an integer, one less than `2 ^ 53`. -/
def greatestInteger : Nat := 0x1fffffffffffff

/-- The double that a number stands for. -/
def toDouble : JsonNumber → Double
  | integer i => .ofInt i
  | real negative m => .finite negative m

/-- The number that a finite double is written as. Whole numbers lose the sign of zero. -/
def ofDouble? : Double → Option JsonNumber
  | .nan | .infinite _ => none
  | .finite negative m =>
      match m.toNat? with
      | some n =>
          if n ≤ greatestInteger then some (integer (if negative then -n else n))
          else some (real negative m)
      | none => some (real negative m)

end JsonNumber

end PathQuery
