import PathQuery.Double.Basic

/-!
# Rounding to the nearest double

`roundHalfEven` rounds a fraction of natural numbers to the nearest natural number, a half going
to the even neighbour. `Magnitude.nearestUnits` applies it on the grid of doubles around a
fraction of units: it keeps fifty-three leading bits, and fewer near zero, where the unit itself
is the grid. `Double.nearest` puts the sign back and turns what is too large into an infinity.
-/

set_option autoImplicit false

namespace PathQuery

/-- The natural number nearest to `num / den`, a half going to the even neighbour. -/
def roundHalfEven (num den : Nat) : Nat :=
  let quotient := num / den
  let remainder := num % den
  if 2 * remainder < den then quotient
  else if den < 2 * remainder then quotient + 1
  else quotient + quotient % 2

theorem roundHalfEven_le (num den : Nat) : roundHalfEven num den ≤ num / den + 1 := by
  simp only [roundHalfEven]
  split
  · omega
  · split <;> omega

/-- A natural number is rounded to itself. -/
theorem roundHalfEven_mul (n : Nat) {den : Nat} (h : 0 < den) :
    roundHalfEven (n * den) den = n := by
  simp [roundHalfEven, Nat.mul_div_cancel n h, h]

namespace Magnitude

/-- The width of the grid of doubles around `num / den` units, as a power of two. -/
def gridShift (num den : Nat) : Nat := (num / den).log2 + 1 - precision

/-- The significant bits of the double nearest to `num / den` units. -/
def nearestBits (num den : Nat) : Nat := roundHalfEven num (den * 2 ^ gridShift num den)

/-- The units of the double nearest to `num / den` units, were there no largest double. -/
def nearestUnits (num den : Nat) : Nat := nearestBits num den * 2 ^ gridShift num den

theorem nearestBits_le (num den : Nat) : nearestBits num den ≤ 2 ^ precision := by
  refine Nat.le_trans (roundHalfEven_le _ _) ?_
  rw [← Nat.div_div_eq_div_mul, Nat.succ_le_iff, Nat.div_lt_iff_lt_mul (Nat.two_pow_pos _),
    ← Nat.pow_add]
  refine Nat.lt_of_lt_of_le (Nat.lt_log2_self (n := num / den)) ?_
  exact Nat.pow_le_pow_right (by decide) (by unfold gridShift; omega)

/-- A magnitude is nearest to itself. -/
theorem nearestUnits_mul (m : Magnitude) {den : Nat} (h : 0 < den) :
    nearestUnits (m.units * den) den = m.units := by
  obtain ⟨bits, hbits⟩ := m.step_dvd
  have hshift : gridShift (m.units * den) den = m.units.log2 + 1 - precision := by
    rw [gridShift, Nat.mul_div_cancel _ h]
  have hnum : m.units * den = bits * (den * 2 ^ (m.units.log2 + 1 - precision)) := by
    rw [← Nat.mul_assoc, Nat.mul_right_comm, Nat.mul_comm bits, ← hbits]
  rw [nearestUnits, nearestBits, hshift]
  conv => lhs; rw [hnum]
  rw [roundHalfEven_mul bits (Nat.mul_pos h (Nat.two_pow_pos _)), Nat.mul_comm, ← hbits]

/-- The magnitude nearest to `num / den` units, if it is not too large. -/
def nearest? (num den : Nat) : Option Magnitude :=
  if h : nearestUnits num den < bound then
    some (.scaled (nearestBits num den) (gridShift num den) (nearestBits_le num den) h)
  else none

end Magnitude

namespace Double

/-- The double of the given sign nearest to `num / den` units. -/
def nearest (negative : Bool) (num den : Nat) : Double :=
  match Magnitude.nearest? num den with
  | some m => finite negative m
  | none => infinite negative

/-- The double nearest to a natural number. -/
def ofNat (n : Nat) : Double := nearest false (n * Magnitude.unitsPerOne) 1

/-- The double nearest to an integer. -/
def ofInt (i : Int) : Double := nearest (decide (i < 0)) (i.natAbs * Magnitude.unitsPerOne) 1

end Double

end PathQuery
