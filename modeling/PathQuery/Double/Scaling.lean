import PathQuery.Double.Reading

/-!
# Numbers by scaling

Numbers in a JSON text are not rounded to the nearest double. What is read of a numeral is the
decimal of its leading digits, as many as make a number below `2 ^ 64` (`Numeral.leading`). The
double nearest to that number is multiplied or divided by the double nearest to the power of ten
(`Decimal.scaled?`). Every one of these steps rounds, so the result may differ in its last bits from
the double that is nearest to the numeral.

The powers of ten go up to `10 ^ 308`. A decimal with a larger one is too large, and one with a
smaller one than `10 ^ -308` is divided several times.
-/

set_option autoImplicit false

namespace PathQuery

namespace Numeral

/-- Takes up digits behind a significand as long as it stays below `2 ^ 64`. Gives the significand,
and how many digits are left. -/
def takeUp (significand : Nat) : List Char → Nat × Nat
  | [] => (significand, 0)
  | c :: rest =>
      let next := significand * 10 + (c.toNat - '0'.toNat)
      if next < UInt64.size then takeUp next rest else (significand, rest.length + 1)

/-- The decimal of the leading digits. A digit that is left counts as a zero before the point, and
as nothing after it. -/
def leading (n : Numeral) : Decimal :=
  let fraction := n.fraction.getD []
  let whole := takeUp 0 n.whole
  let all := takeUp whole.1 fraction
  ⟨all.1, n.exponent.getD 0 + whole.2 + all.2 - fraction.length⟩

end Numeral

namespace Magnitude

/-- The units of the double nearest to a natural number, were there no largest double. -/
def unitsOf (n : Nat) : Nat := nearestUnits (n * unitsPerOne) 1

/-- The exponent of the greatest power of ten that numbers are scaled by. -/
def greatestPower : Nat := 308

/-- Divides by the greatest power of ten so many times, or until nothing is left. -/
def scaledDown (units : Nat) : Nat → Nat
  | 0 => units
  | times + 1 =>
      if units = 0 then 0
      else scaledDown (nearestUnits (units * unitsPerOne) (unitsOf (10 ^ greatestPower))) times

end Magnitude

open Magnitude in
/-- The double that scaling makes of a decimal, if it is not too large. -/
def Decimal.scaled? (d : Decimal) : Option Magnitude :=
  let units := unitsOf d.coefficient
  let power := d.exponent.natAbs
  if 0 ≤ d.exponent then
    if power ≤ greatestPower then nearest? (units * unitsOf (10 ^ power)) unitsPerOne
    else if units = 0 then some zero
    else none
  else
    let times := (power - 1) / greatestPower
    nearest? (scaledDown units times * unitsPerOne)
      (unitsOf (10 ^ (power - times * greatestPower)))

end PathQuery
