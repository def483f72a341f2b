import PathQuery.Double.Rounding

/-!
# Decimals, and the shortest decimal of a double

A `Decimal` is a natural number times a power of ten. `Decimal.toDouble` rounds it to the nearest
double. `Magnitude.shortest` goes the other way: of the decimals with the fewest digits that round
to the magnitude, the nearest one.

Every magnitude is a decimal itself (`Magnitude.exact`), because a unit is `5 ^ 1074` times
`10 ^ -1074`. On the grid of decimals with a given number of digits only its two neighbours can be
nearest, so `Magnitude.candidate?` looks at those two and asks of each whether it rounds back.
Seventeen digits always suffice; the exact decimal stands behind the search, so that whatever
`shortest` returns rounds back to the magnitude it came from (`roundsTo_shortest`).
-/

set_option autoImplicit false

namespace PathQuery

/-- The nonnegative number `coefficient * 10 ^ exponent`. -/
structure Decimal where
  coefficient : Nat
  exponent : Int
  deriving DecidableEq

namespace Decimal

/-- The digits of the coefficient. Zero has one digit. -/
def digits (d : Decimal) : List Char := Nat.toDigits 10 d.coefficient

/-- The place of the decimal point, counted from the first digit: a decimal is a number from a
tenth up to one, times ten to this power. -/
def point (d : Decimal) : Int := d.digits.length + d.exponent

/-- The numerator of the decimal as a fraction of units. -/
def unitsNum (d : Decimal) : Nat :=
  d.coefficient * 10 ^ d.exponent.toNat * Magnitude.unitsPerOne

/-- The denominator of the decimal as a fraction of units. -/
def unitsDen (d : Decimal) : Nat := 10 ^ (-d.exponent).toNat

/-- The double nearest to the decimal, with the given sign. Decimals from `10 ^ 310` on exceed
every finite double and those below `10 ^ -330` are nearest to zero, so their powers of ten are
never computed. -/
def toDouble (negative : Bool) (d : Decimal) : Double :=
  if d.coefficient = 0 ∨ d.point < -330 then .finite negative .zero
  else if 310 < d.point then .infinite negative
  else .nearest negative d.unitsNum d.unitsDen

/-- The decimal rounds to the magnitude. -/
def roundsTo (d : Decimal) (m : Magnitude) : Bool :=
  Magnitude.nearestUnits d.unitsNum d.unitsDen == m.units

/-- The greatest decimal below `d` or equal to it that ends `dropped` places earlier. -/
def floor (d : Decimal) (dropped : Nat) : Decimal :=
  ⟨d.coefficient / 10 ^ dropped, d.exponent + dropped⟩

/-- The next decimal with the same exponent. -/
def succ (d : Decimal) : Decimal := ⟨d.coefficient + 1, d.exponent⟩

end Decimal

namespace Magnitude

/-- The decimal that is equal to the magnitude. -/
def exact (m : Magnitude) : Decimal := ⟨m.units * 5 ^ unitExponent, -unitExponent⟩

/-- The one of two decimals that rounds to the magnitude, or the nearer one if both do. -/
def choose? (m : Magnitude) (lower upper : Decimal) (lowerIsNearer : Bool) : Option Decimal :=
  if lower.roundsTo m then
    if upper.roundsTo m then some (if lowerIsNearer then lower else upper) else some lower
  else if upper.roundsTo m then some upper
  else none

/-- The decimal nearest to the magnitude among those that end `dropped` places earlier than the
exact one and round to it. Of two that are equally near, the greater. -/
def candidate? (m : Magnitude) (dropped : Nat) : Option Decimal :=
  let lower := m.exact.floor dropped
  m.choose? lower lower.succ
    (decide (2 * (m.exact.coefficient % 10 ^ dropped) < 10 ^ dropped))

/-- The shortest decimal that rounds to the magnitude, and the nearest of those. -/
def shortest (m : Magnitude) : Decimal :=
  let length := m.exact.digits.length
  ((List.range 17).findSome? fun n => m.candidate? (length - (n + 1))).getD m.exact

/-! ## The result rounds back -/

theorem roundsTo_of_choose? {m : Magnitude} {lower upper d : Decimal} {lowerIsNearer : Bool}
    (h : m.choose? lower upper lowerIsNearer = some d) : d.roundsTo m = true := by
  unfold choose? at h
  by_cases hlower : lower.roundsTo m = true
  · rw [if_pos hlower] at h
    by_cases hupper : upper.roundsTo m = true
    · rw [if_pos hupper] at h
      by_cases hnearer : lowerIsNearer = true
      · rw [if_pos hnearer] at h
        exact Option.some.inj h ▸ hlower
      · rw [if_neg hnearer] at h
        exact Option.some.inj h ▸ hupper
    · rw [if_neg hupper] at h
      exact Option.some.inj h ▸ hlower
  · rw [if_neg hlower] at h
    by_cases hupper : upper.roundsTo m = true
    · rw [if_pos hupper] at h
      exact Option.some.inj h ▸ hupper
    · rw [if_neg hupper] at h
      exact absurd h nofun

theorem roundsTo_exact (m : Magnitude) : m.exact.roundsTo m = true := by
  have hnum : m.exact.unitsNum = m.units * 10 ^ unitExponent := by
    have hten : ∀ k : Nat, 10 ^ k = 5 ^ k * 2 ^ k := fun k => Nat.mul_pow 5 2 k
    have hzero : (-(unitExponent : Int)).toNat = 0 := by omega
    unfold Decimal.unitsNum exact unitsPerOne
    rw [hzero, Nat.pow_zero, Nat.mul_one, Nat.mul_assoc, hten]
  have hden : m.exact.unitsDen = 10 ^ unitExponent := by
    simp only [Decimal.unitsDen, exact, Int.neg_neg, Int.toNat_natCast]
  rw [Decimal.roundsTo, hnum, hden, nearestUnits_mul m (Nat.pow_pos (by decide))]
  exact beq_self_eq_true m.units

/-- Whatever the search finds rounds back to the magnitude. -/
theorem roundsTo_shortest (m : Magnitude) : m.shortest.roundsTo m = true := by
  unfold shortest
  dsimp only
  generalize hfound : (List.range 17).findSome? _ = found
  cases found with
  | none => exact roundsTo_exact m
  | some d =>
      obtain ⟨n, _, hn⟩ := List.exists_of_findSome?_eq_some hfound
      exact roundsTo_of_choose? hn

end Magnitude

end PathQuery
