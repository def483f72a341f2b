/-!
# Binary floating-point numbers, exactly

A `Double` is NaN, an infinity, or a signed magnitude. A magnitude is a whole number of *units*,
one unit being the smallest positive double, `2 ^ -1074`. Every finite double is such a multiple,
so comparing, rounding and printing are exact arithmetic on natural numbers.

Not every number of units is a double: at most 53 leading bits may be nonzero, and the largest
double stays below `2 ^ 1024`. `Magnitude` carries both facts. `Magnitude.scaled` builds a
magnitude from 53 bits and a power of two, and `dvd_scaled` says why the result is one.

Two numbers compare by their `position` on the line of units, where the infinities stand at the
two ends and NaN has no place. Both zeros have position zero.
-/

set_option autoImplicit false

namespace PathQuery

-- Powers are those of the natural numbers in all of the library, also where more general ones are
-- in scope.
attribute [scoped instance(high)] instPowNat

/-- How many bits of a double are significant. -/
def Magnitude.precision : Nat := 53

/-- The number of bits in the units of the largest finite double. -/
def Magnitude.bits : Nat := 2098

/-- The first number of units that is too large for a finite double. -/
def Magnitude.bound : Nat := 2 ^ bits

/-- The absolute value of a finite double, as a multiple of `2 ^ -1074`. -/
structure Magnitude where
  /-- The number of units. -/
  units : Nat
  units_lt : units < Magnitude.bound
  step_dvd : 2 ^ (units.log2 + 1 - Magnitude.precision) ∣ units
  deriving DecidableEq

/-- A double-precision number. All NaNs are one value. -/
inductive Double where
  | nan
  | infinite (negative : Bool)
  | finite (negative : Bool) (magnitude : Magnitude)
  deriving DecidableEq

/-! ## Building magnitudes -/

/-- Fifty-three bits followed by zeros have at most fifty-three significant bits. -/
theorem dvd_scaled {bits shift : Nat} (h : bits ≤ 2 ^ Magnitude.precision) :
    2 ^ ((bits * 2 ^ shift).log2 + 1 - Magnitude.precision) ∣ bits * 2 ^ shift := by
  rcases Nat.eq_zero_or_pos bits with rfl | hpos
  · simp
  have hne : bits * 2 ^ shift ≠ 0 := Nat.ne_of_gt (Nat.mul_pos hpos (Nat.two_pow_pos shift))
  rcases Nat.lt_or_eq_of_le h with hlt | rfl
  · have hlog : (bits * 2 ^ shift).log2 < Magnitude.precision + shift := by
      rw [Nat.log2_lt hne, Nat.pow_add]
      exact Nat.mul_lt_mul_of_pos_right hlt (Nat.two_pow_pos shift)
    exact Nat.dvd_trans (Nat.pow_dvd_pow 2 (by omega)) (Nat.dvd_mul_left _ _)
  · rw [← Nat.pow_add, Nat.log2_two_pow]
    exact Nat.pow_dvd_pow 2 (by unfold Magnitude.precision; omega)

namespace Magnitude

theorem bound_pos : 0 < bound := Nat.two_pow_pos bits

/-- The magnitude of `bits * 2 ^ shift` units. -/
def scaled (bits shift : Nat) (hbits : bits ≤ 2 ^ precision) (hlt : bits * 2 ^ shift < bound) :
    Magnitude :=
  ⟨bits * 2 ^ shift, hlt, dvd_scaled hbits⟩

/-- The magnitude zero. -/
def zero : Magnitude := .scaled 0 0 (Nat.zero_le _) bound_pos

/-- How many low bits of the units lie below the significant ones. -/
def shift (m : Magnitude) : Nat := m.units.log2 + 1 - precision

/-- One is this power of two, in units. -/
def unitExponent : Nat := 1074

/-- The units that make up the number one. -/
def unitsPerOne : Nat := 2 ^ unitExponent

/-- The natural number that a magnitude is, when it is one. -/
def toNat? (m : Magnitude) : Option Nat :=
  if m.units % unitsPerOne = 0 then some (m.units / unitsPerOne) else none

end Magnitude

namespace Double

/-! ## Place on the number line -/

/-- The signed number of units. The infinities stand just beyond the finite doubles. -/
def position : Double → Option Int
  | nan => none
  | infinite negative => some (if negative then -Magnitude.bound else Magnitude.bound)
  | finite negative m => some (if negative then -m.units else m.units)

/-- Numeric order. NaN is unordered against everything. -/
def compare (a b : Double) : Option Ordering :=
  match a.position, b.position with
  | some x, some y => some (Ord.compare x y)
  | _, _ => none

/-- Numeric equality. Both zeros are equal, and NaN equals nothing. -/
def equal (a b : Double) : Bool :=
  match a.position, b.position with
  | some x, some y => x == y
  | _, _ => false

def isNan : Double → Bool
  | nan => true
  | _ => false

/-- Positive zero. -/
def zero : Double := finite false Magnitude.zero

/-! ## The sixty-four bits -/

/-- The bit of the sign. -/
def signBit : Nat := 0x8000000000000000

/-- The leading bit of a significand, which is left out of the fraction. -/
def leadingBit : Nat := 0x10000000000000

theorem two_mul_leadingBit : 2 * leadingBit = 2 ^ Magnitude.precision := rfl

/-- The interchange bits: sign, eleven bits of exponent, fifty-two bits of fraction.
The exponent field counts the shift, and the implicit leading bit adds one to it. -/
def toBits : Double → Nat
  | nan => 0x7ff8000000000000
  | infinite negative => (if negative then signBit else 0) + 0x7ff0000000000000
  | finite negative m =>
      (if negative then signBit else 0) + (m.shift * leadingBit + m.units / 2 ^ m.shift)

theorem normal_units_lt {fraction exponent : Nat} (hf : fraction < leadingBit)
    (he : exponent < 2047) : (leadingBit + fraction) * 2 ^ (exponent - 1) < Magnitude.bound := by
  have hbits : leadingBit + fraction < 2 ^ Magnitude.precision := by
    rw [← two_mul_leadingBit]
    omega
  calc (leadingBit + fraction) * 2 ^ (exponent - 1)
      < 2 ^ Magnitude.precision * 2 ^ (exponent - 1) :=
        Nat.mul_lt_mul_of_pos_right hbits (Nat.two_pow_pos _)
    _ = 2 ^ (Magnitude.precision + (exponent - 1)) := (Nat.pow_add ..).symm
    _ ≤ 2 ^ Magnitude.bits :=
        Nat.pow_le_pow_right (by decide) (by unfold Magnitude.bits Magnitude.precision; omega)

/-- The double with the given interchange bits. -/
def ofBits (bits : Nat) : Double :=
  let negative := decide (signBit ≤ bits)
  let exponent := bits % signBit / leadingBit
  let fraction := bits % leadingBit
  have hf : fraction < leadingBit := Nat.mod_lt _ (by decide)
  if he : exponent < 2047 then
    if exponent = 0 then
      finite negative (.scaled fraction 0 (by rw [← two_mul_leadingBit]; omega) (by
        have := normal_units_lt hf (show 1 < 2047 by decide)
        simp only [Nat.sub_self, Nat.pow_zero, Nat.mul_one] at this ⊢
        omega))
    else
      finite negative (.scaled (leadingBit + fraction) (exponent - 1)
        (by rw [← two_mul_leadingBit]; omega) (normal_units_lt hf he))
  else if fraction = 0 then infinite negative
  else nan

end Double

end PathQuery
