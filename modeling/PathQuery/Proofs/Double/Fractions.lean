import PathQuery.Double.Decimal

/-!
# Rounding sees the number, not how it is written

A decimal has many coefficients: zeros at its end can be moved into its exponent. The double that it
rounds to is the same (`roundsTo_scaleUp`). Rounding a decimal takes two shortcuts, for decimals too
large and too small to compute their powers of ten. Both give what rounding would have given
(`toDouble_eq_nearest`), so a decimal that rounds to a magnitude is read as that magnitude
(`toDouble_of_roundsTo`).
-/

set_option autoImplicit false

namespace PathQuery

/-! ## Fractions -/

theorem roundHalfEven_mul_mul (num den : Nat) {k : Nat} (positive : 0 < k) :
    roundHalfEven (num * k) (den * k) = roundHalfEven num den := by
  have lt (a b : Nat) : a * k < b * k ↔ a < b := Nat.mul_lt_mul_right positive
  simp only [roundHalfEven, Nat.mul_div_mul_right _ _ positive, Nat.mul_mod_mul_right,
    ← Nat.mul_assoc, lt]

theorem div_le_roundHalfEven (num den : Nat) : num / den ≤ roundHalfEven num den := by
  simp only [roundHalfEven]
  split
  · exact Nat.le_refl _
  · split
    · exact Nat.le_succ _
    · exact Nat.le_add_right _ _

/-- Less than a half is rounded to zero. -/
theorem roundHalfEven_eq_zero {num den : Nat} (small : 2 * num < den) :
    roundHalfEven num den = 0 := by
  have lt : num < den := by omega
  simp [roundHalfEven, Nat.mod_eq_of_lt lt, Nat.div_eq_of_lt lt, small]

namespace Magnitude

theorem nearestUnits_mul_mul (num den : Nat) {k : Nat} (positive : 0 < k) :
    nearestUnits (num * k) (den * k) = nearestUnits num den := by
  have shift : gridShift (num * k) (den * k) = gridShift num den := by
    rw [gridShift, gridShift, Nat.mul_div_mul_right _ _ positive]
  rw [nearestUnits, nearestUnits, nearestBits, nearestBits, shift, Nat.mul_right_comm,
    roundHalfEven_mul_mul _ _ positive]

/-- Equal fractions have one nearest magnitude. -/
theorem nearestUnits_congr {num num' den den' : Nat} (positive : 0 < den) (positive' : 0 < den')
    (cross : num * den' = num' * den) : nearestUnits num den = nearestUnits num' den' := by
  rw [← nearestUnits_mul_mul num den positive', cross, Nat.mul_comm den,
    nearestUnits_mul_mul num' den' positive]

/-- Less than half a unit is rounded to zero. -/
theorem nearestUnits_eq_zero {num den : Nat} (small : 2 * num < den) :
    nearestUnits num den = 0 := by
  have shift : gridShift num den = 0 := by
    rw [gridShift, Nat.div_eq_of_lt (by omega)]
    rfl
  rw [nearestUnits, nearestBits, shift, Nat.pow_zero, Nat.mul_one, Nat.mul_one,
    roundHalfEven_eq_zero small]

/-- Rounding does not go below the leading bit. -/
theorem two_pow_log2_le_nearestUnits {num den : Nat} (positive : num / den ≠ 0) :
    2 ^ (num / den).log2 ≤ nearestUnits num den := by
  have shift : gridShift num den ≤ (num / den).log2 := by
    unfold gridShift precision
    omega
  have leading :
      2 ^ ((num / den).log2 - gridShift num den) ≤ num / den / 2 ^ gridShift num den := by
    rw [Nat.le_div_iff_mul_le (Nat.two_pow_pos _), ← Nat.pow_add, Nat.sub_add_cancel shift]
    exact Nat.log2_self_le positive
  calc 2 ^ (num / den).log2
      = 2 ^ ((num / den).log2 - gridShift num den) * 2 ^ gridShift num den := by
        rw [← Nat.pow_add, Nat.sub_add_cancel shift]
    _ ≤ num / den / 2 ^ gridShift num den * 2 ^ gridShift num den :=
        Nat.mul_le_mul_right _ leading
    _ ≤ nearestUnits num den := by
        rw [Nat.div_div_eq_div_mul]
        exact Nat.mul_le_mul_right _ (div_le_roundHalfEven _ _)

/-- What is too large for a double is not rounded to one. -/
theorem bound_le_nearestUnits {num den : Nat} (large : bound * den ≤ num) (positive : 0 < den) :
    bound ≤ nearestUnits num den := by
  have quotient : bound ≤ num / den := (Nat.le_div_iff_mul_le positive).mpr large
  have nonzero : num / den ≠ 0 := Nat.ne_of_gt (Nat.lt_of_lt_of_le bound_pos quotient)
  have leading : bits ≤ (num / den).log2 := (Nat.le_log2 nonzero).mpr quotient
  have power : bound ≤ 2 ^ (num / den).log2 := Nat.pow_le_pow_right (by decide) leading
  exact Nat.le_trans power (two_pow_log2_le_nearestUnits nonzero)

theorem eq_of_units {m m' : Magnitude} (same : m.units = m'.units) : m = m' := by
  cases m
  cases m'
  cases same
  rfl

end Magnitude

/-- A fraction whose nearest number of units is a magnitude is rounded to it. -/
theorem Magnitude.nearest?_eq {num den : Nat} {m : Magnitude}
    (nearest : nearestUnits num den = m.units) : nearest? num den = some m := by
  unfold nearest?
  split
  · exact congrArg some (eq_of_units nearest)
  · next large => exact absurd (nearest ▸ m.units_lt) large

theorem Double.nearest_eq {num den : Nat} {m : Magnitude}
    (nearest : Magnitude.nearestUnits num den = m.units) (negative : Bool) :
    Double.nearest negative num den = .finite negative m := by
  have found := Magnitude.nearest?_eq nearest
  unfold Double.nearest
  rw [found]

/-- A fraction that is not rounded to a magnitude is too large. -/
theorem Double.nearest_of_bound_le {num den : Nat}
    (large : Magnitude.bound ≤ Magnitude.nearestUnits num den) (negative : Bool) :
    Double.nearest negative num den = .infinite negative := by
  have none : Magnitude.nearest? num den = none := dif_neg (Nat.not_lt_of_le large)
  unfold Double.nearest
  rw [none]

/-- Rounding always gives a number. -/
theorem Double.nearest_ne_nan (negative : Bool) (num den : Nat) :
    nearest negative num den ≠ nan := by
  unfold nearest
  cases Magnitude.nearest? num den with
  | none => exact nofun
  | some m => exact nofun

namespace Decimal

/-! ## Coefficients and exponents -/

/-- The same number with zeros at the end of its coefficient. -/
def scaleUp (d : Decimal) (zeros : Nat) : Decimal :=
  ⟨d.coefficient * 10 ^ zeros, d.exponent - zeros⟩

theorem unitsDen_pos (d : Decimal) : 0 < d.unitsDen := Nat.pow_pos (by decide)

/-- Zeros at the end of a coefficient do not change what a decimal rounds to. -/
theorem roundsTo_scaleUp (d : Decimal) (zeros : Nat) (m : Magnitude) :
    (d.scaleUp zeros).roundsTo m = d.roundsTo m := by
  have cross : (d.scaleUp zeros).unitsNum * d.unitsDen =
      d.unitsNum * (d.scaleUp zeros).unitsDen := by
    have exponents : zeros + (d.exponent - zeros).toNat + (-d.exponent).toNat =
        d.exponent.toNat + (-(d.exponent - zeros)).toNat := by omega
    simp only [unitsNum, unitsDen, scaleUp]
    calc d.coefficient * 10 ^ zeros * 10 ^ (d.exponent - zeros).toNat * Magnitude.unitsPerOne *
          10 ^ (-d.exponent).toNat
        = d.coefficient * 10 ^ (zeros + (d.exponent - zeros).toNat + (-d.exponent).toNat) *
            Magnitude.unitsPerOne := by
          rw [Nat.mul_right_comm _ Magnitude.unitsPerOne, Nat.mul_assoc d.coefficient,
            ← Nat.pow_add, Nat.mul_assoc d.coefficient, ← Nat.pow_add]
      _ = d.coefficient * 10 ^ (d.exponent.toNat + (-(d.exponent - zeros)).toNat) *
            Magnitude.unitsPerOne := by rw [exponents]
      _ = d.coefficient * 10 ^ d.exponent.toNat * Magnitude.unitsPerOne *
            10 ^ (-(d.exponent - zeros)).toNat := by
          rw [Nat.mul_right_comm _ Magnitude.unitsPerOne (10 ^ _),
            Nat.mul_assoc d.coefficient (10 ^ d.exponent.toNat), ← Nat.pow_add]
  rw [roundsTo, roundsTo, Magnitude.nearestUnits_congr (unitsDen_pos _) (unitsDen_pos _) cross]

/-! ## The shortcuts of rounding -/

theorem coefficient_lt (d : Decimal) : d.coefficient < 10 ^ d.digits.length :=
  (Nat.length_toDigits_le_iff (by decide) Nat.length_toDigits_pos).mp (Nat.le_refl _)

theorem le_coefficient {d : Decimal} (positive : 0 < d.coefficient) :
    10 ^ (d.digits.length - 1) ≤ d.coefficient := by
  by_cases one : d.digits.length - 1 = 0
  · rw [one]
    exact positive
  · refine Nat.le_of_not_lt fun lt => ?_
    have short := (Nat.length_toDigits_le_iff (by decide) (Nat.pos_of_ne_zero one)).mpr lt
    change d.digits.length ≤ d.digits.length - 1 at short
    omega

/-- A decimal whose point is so far to the left that it is less than half a unit is rounded to
zero. -/
theorem nearestUnits_of_point_le {d : Decimal} {place : Nat}
    (tiny : 2 * Magnitude.unitsPerOne ≤ 10 ^ place) (left : d.point ≤ -place) :
    Magnitude.nearestUnits d.unitsNum d.unitsDen = 0 := by
  have exponents : d.digits.length + d.exponent.toNat + place ≤ (-d.exponent).toNat := by
    unfold point at left
    omega
  have one : 0 < 2 * Magnitude.unitsPerOne := Nat.mul_pos (by decide) (Nat.two_pow_pos _)
  refine Magnitude.nearestUnits_eq_zero ?_
  calc 2 * d.unitsNum
      = d.coefficient * 10 ^ d.exponent.toNat * (2 * Magnitude.unitsPerOne) := by
        rw [unitsNum, Nat.mul_left_comm]
    _ < 10 ^ d.digits.length * 10 ^ d.exponent.toNat * (2 * Magnitude.unitsPerOne) := by
        refine Nat.mul_lt_mul_of_pos_right ?_ one
        exact Nat.mul_lt_mul_of_pos_right d.coefficient_lt (Nat.pow_pos (by decide))
    _ ≤ 10 ^ d.digits.length * 10 ^ d.exponent.toNat * 10 ^ place := Nat.mul_le_mul_left _ tiny
    _ = 10 ^ (d.digits.length + d.exponent.toNat + place) := by rw [Nat.pow_add, Nat.pow_add]
    _ ≤ d.unitsDen := Nat.pow_le_pow_right (by decide) exponents

/-- A decimal whose point is far enough to the right is larger than every double. -/
theorem bound_le_of_lt_point {d : Decimal} {place : Nat}
    (huge : Magnitude.bound ≤ 10 ^ place * Magnitude.unitsPerOne) (positive : 0 < d.coefficient)
    (right : place < d.point) :
    Magnitude.bound ≤ Magnitude.nearestUnits d.unitsNum d.unitsDen := by
  have exponents : place + (-d.exponent).toNat ≤ d.digits.length - 1 + d.exponent.toNat := by
    unfold point at right
    omega
  refine Magnitude.bound_le_nearestUnits ?_ d.unitsDen_pos
  calc Magnitude.bound * d.unitsDen
      ≤ 10 ^ place * Magnitude.unitsPerOne * d.unitsDen := Nat.mul_le_mul_right _ huge
    _ = 10 ^ (place + (-d.exponent).toNat) * Magnitude.unitsPerOne := by
        rw [Nat.mul_right_comm, unitsDen, ← Nat.pow_add]
    _ ≤ 10 ^ (d.digits.length - 1 + d.exponent.toNat) * Magnitude.unitsPerOne :=
        Nat.mul_le_mul_right _ (Nat.pow_le_pow_right (by decide) exponents)
    _ ≤ d.unitsNum := by
        rw [Nat.pow_add, unitsNum]
        exact Nat.mul_le_mul_right _ (Nat.mul_le_mul_right _ (le_coefficient positive))

theorem nearestUnits_of_coefficient_eq_zero {d : Decimal} (zero : d.coefficient = 0) :
    Magnitude.nearestUnits d.unitsNum d.unitsDen = 0 := by
  refine Magnitude.nearestUnits_eq_zero ?_
  simpa [unitsNum, zero] using d.unitsDen_pos

/-- Zero does not round to a positive magnitude. -/
theorem coefficient_pos_of_roundsTo {d : Decimal} {m : Magnitude} (rounds : d.roundsTo m = true)
    (positive : 0 < m.units) : 0 < d.coefficient := by
  have nearest : Magnitude.nearestUnits d.unitsNum d.unitsDen = m.units := by
    simpa [roundsTo] using rounds
  refine Nat.pos_of_ne_zero fun zero => ?_
  have none := nearestUnits_of_coefficient_eq_zero zero
  omega

/-- **The shortcuts agree with rounding.** -/
theorem toDouble_eq_nearest (d : Decimal) (negative : Bool) :
    d.toDouble negative = .nearest negative d.unitsNum d.unitsDen := by
  unfold toDouble
  split
  · next small =>
      have zero : Magnitude.nearestUnits d.unitsNum d.unitsDen = 0 := by
        rcases small with none | left
        · exact nearestUnits_of_coefficient_eq_zero none
        · exact @nearestUnits_of_point_le d 331 (by decide +kernel) (by omega)
      exact (@Double.nearest_eq _ _ Magnitude.zero zero negative).symm
  · next notSmall =>
      split
      · next right =>
          have nonzero : 0 < d.coefficient := Nat.pos_of_ne_zero (not_or.mp notSmall).1
          have large := @bound_le_of_lt_point d 310 (by decide +kernel) nonzero right
          exact (Double.nearest_of_bound_le large negative).symm
      · rfl

/-- **A decimal that rounds to a magnitude is read as it.** -/
theorem toDouble_of_roundsTo {d : Decimal} {m : Magnitude} (rounds : d.roundsTo m = true)
    (negative : Bool) : d.toDouble negative = .finite negative m := by
  rw [toDouble_eq_nearest]
  exact Double.nearest_eq (by simpa [roundsTo] using rounds) negative

end Decimal

end PathQuery
