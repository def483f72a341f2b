import PathQuery.Double.Scaling
import PathQuery.Proofs.Double.Nearest

/-!
# What scaling makes of a numeral

Leading digits never make more than all digits do (`Numeral.exists_leading_le`), and a numeral whose
digits make a number below `2 ^ 64` loses none (`Numeral.leading_eq`).

Rounding a whole number adds at most one part in `2 ^ 53` (`Magnitude.unitsOf_mul_le`). So scaling
rejects no decimal that is as far below the first number without a double as two such parts
(`Decimal.exists_scaled?_of_nonneg`), and none with a negative exponent
(`Decimal.exists_scaled?_of_neg`).

Scaling is exact where nothing has to be rounded before the last step: for whole numbers below
`2 ^ 64`, and where the digits make at most `2 ^ 53` and the power of ten is at most the
twenty-second (`Numeral.isPlain`). There it gives the nearest double
(`Numeral.scaled?_leading_of_isPlain`).
-/

set_option autoImplicit false

namespace PathQuery

/-! ## Leading digits -/

namespace Numeral

/-- The significand after some digits have been taken up, and how many are left. It is below
`2 ^ 64`, with zeros for the digits that are left it is no more than what all the digits make, and
if any digit is left then the digits up to it make `2 ^ 64` or more. -/
structure Takes (before : Nat) (digits : List Char) (taken : Nat × Nat) : Prop where
  small : taken.1 < UInt64.size
  le : taken.1 * 10 ^ taken.2 ≤ Nat.ofDigitChars 10 digits before
  full : 0 < taken.2 →
    UInt64.size * 10 ^ (taken.2 - 1) ≤ Nat.ofDigitChars 10 digits before
  part : taken.2 < digits.length ∨ taken = (before, digits.length)

theorem takes_takeUp {before : Nat} (small : before < UInt64.size) (digits : List Char) :
    Takes before digits (takeUp before digits) := by
  induction digits generalizing before with
  | nil => exact ⟨small, by simp [takeUp], fun left => absurd left (by simp [takeUp]), .inr rfl⟩
  | cons c rest inductionHypothesis =>
      have all : Nat.ofDigitChars 10 (c :: rest) before =
          Nat.ofDigitChars 10 rest (before * 10 + (c.toNat - '0'.toNat)) := by
        rw [Nat.ofDigitChars_cons, Nat.mul_comm]
      rw [takeUp]
      split
      · next fits =>
          obtain ⟨small', le, full, part⟩ := inductionHypothesis fits
          rw [← all] at le full
          refine ⟨small', le, full, .inl ?_⟩
          rcases part with less | none
          · exact Nat.lt_succ_of_lt less
          · rw [none]
            exact Nat.lt_succ_self _
      · next large =>
          rw [@Nat.ofDigitChars_eq_ofDigitChars_zero rest] at all
          refine ⟨small, ?_, fun _ => ?_, .inr rfl⟩
          · rw [all, Nat.pow_succ, Nat.mul_comm (10 ^ _), ← Nat.mul_assoc, Nat.mul_comm _ (10 ^ _)]
            exact Nat.le_trans (Nat.mul_le_mul_left _ (Nat.le_add_right ..)) (Nat.le_add_right ..)
          · rw [all, Nat.mul_comm, Nat.add_sub_cancel]
            exact Nat.le_trans (Nat.mul_le_mul_left _ (Nat.le_of_not_lt large))
              (Nat.le_add_right ..)

theorem takeUp_eq {before : Nat} {digits : List Char}
    (small : Nat.ofDigitChars 10 digits before < UInt64.size) :
    takeUp before digits = (Nat.ofDigitChars 10 digits before, 0) := by
  induction digits generalizing before with
  | nil => rfl
  | cons c rest inductionHypothesis =>
      rw [Nat.ofDigitChars_cons, Nat.mul_comm] at small ⊢
      have fits : before * 10 + (c.toNat - '0'.toNat) < UInt64.size := by
        refine Nat.lt_of_le_of_lt ?_ small
        rw [Nat.ofDigitChars_eq_ofDigitChars_zero]
        exact Nat.le_trans (Nat.le_mul_of_pos_left _ (Nat.pow_pos (by decide)))
          (Nat.le_add_right ..)
      rw [takeUp, if_pos fits, inductionHypothesis small]

/-- **Leading digits make no more than all digits.** With zeros at its end the decimal of the
leading digits has the exponent of the numeral, and no greater coefficient. -/
theorem exists_leading_le (n : Numeral) : ∃ zeros : Nat,
    n.leading.exponent = n.toDecimal.exponent + zeros ∧
      n.leading.coefficient * 10 ^ zeros ≤ n.toDecimal.coefficient := by
  obtain ⟨whole, fraction, exponent⟩ := n
  unfold leading toDecimal
  dsimp only
  generalize fraction.getD [] = fraction
  have first := takes_takeUp (by decide : 0 < UInt64.size) whole
  have second := takes_takeUp first.small fraction
  generalize takeUp 0 whole = taken at first second ⊢
  generalize takeUp taken.1 fraction = all at second ⊢
  refine ⟨taken.2 + all.2, by omega, ?_⟩
  rw [Nat.ofDigitChars_append, Nat.ofDigitChars_eq_ofDigitChars_zero]
  rcases Nat.eq_zero_or_pos taken.2 with none | left
  · -- Everything before the point has been taken up.
    have le := first.le
    rw [none, Nat.pow_zero, Nat.mul_one] at le
    have all_le := second.le
    rw [Nat.ofDigitChars_eq_ofDigitChars_zero] at all_le
    rw [none, Nat.zero_add]
    exact Nat.le_trans all_le (Nat.add_le_add_right (Nat.mul_le_mul_left _ le) _)
  · -- If a digit after the point is taken up, the number is still below `2 ^ 64`, and so no more
    -- than the digits before the point up to the first that was left.
    refine Nat.le_trans ?_ (Nat.le_add_right ..)
    rcases second.part with some | none
    · have places : taken.2 + all.2 ≤ fraction.length + (taken.2 - 1) := by omega
      calc all.1 * 10 ^ (taken.2 + all.2)
          ≤ UInt64.size * 10 ^ (fraction.length + (taken.2 - 1)) :=
            Nat.mul_le_mul (Nat.le_of_lt second.small) (Nat.pow_le_pow_right (by decide) places)
        _ = 10 ^ fraction.length * (UInt64.size * 10 ^ (taken.2 - 1)) := by
            rw [Nat.pow_add, Nat.mul_left_comm]
        _ ≤ 10 ^ fraction.length * Nat.ofDigitChars 10 whole 0 :=
            Nat.mul_le_mul_left _ (first.full left)
    · rw [none, Nat.pow_add, ← Nat.mul_assoc, Nat.mul_comm _ (10 ^ fraction.length)]
      exact Nat.mul_le_mul_left _ first.le

/-- Leading digits make a number below `2 ^ 64`. -/
theorem leading_coefficient_lt (n : Numeral) : n.leading.coefficient < UInt64.size :=
  (takes_takeUp (takes_takeUp (by decide) n.whole).small _).small

/-- **Digits that make a number below `2 ^ 64` are all taken up.** -/
theorem leading_eq {n : Numeral} (small : n.toDecimal.coefficient < UInt64.size) :
    n.leading = n.toDecimal := by
  obtain ⟨whole, fraction, exponent⟩ := n
  unfold leading toDecimal at *
  dsimp only at *
  generalize fraction.getD [] = fraction at *
  rw [Nat.ofDigitChars_append] at small ⊢
  have first : Nat.ofDigitChars 10 whole 0 < UInt64.size := by
    refine Nat.lt_of_le_of_lt ?_ small
    rw [@Nat.ofDigitChars_eq_ofDigitChars_zero fraction]
    exact Nat.le_trans (Nat.le_mul_of_pos_left _ (Nat.pow_pos (by decide))) (Nat.le_add_right ..)
  rw [takeUp_eq first]
  dsimp only
  rw [takeUp_eq small]
  simp

end Numeral

/-! ## What rounding adds -/

namespace Magnitude

/-- Rounding a whole number of units adds at most one part in `2 ^ 53`. -/
theorem nearestUnits_one_mul_le (num : Nat) :
    nearestUnits num 1 * 2 ^ precision ≤ num * (2 ^ precision + 1) := by
  rcases Nat.eq_zero_or_pos (gridShift num 1) with fine | coarse
  · have itself : nearestUnits num 1 = num := by
      have whole := roundHalfEven_mul num Nat.one_pos
      rw [Nat.mul_one] at whole
      rw [nearestUnits, nearestBits, fine, Nat.pow_zero, Nat.mul_one, Nat.mul_one, whole]
    rw [itself]
    exact Nat.mul_le_mul_left _ (Nat.le_succ _)
  · have near := two_mul_dist_roundHalfEven num (Nat.mul_pos Nat.one_pos
      (Nat.two_pow_pos (gridShift num 1)))
    have shift : gridShift num 1 + 52 = num.log2 := by
      unfold gridShift precision at coarse ⊢
      rw [Nat.div_one] at coarse ⊢
      omega
    have nonzero : num ≠ 0 := by
      rintro rfl
      exact absurd coarse (by decide)
    -- The grid is at most the last of fifty-three bits wide.
    have grid : 2 ^ gridShift num 1 * 2 ^ 52 ≤ num := by
      rw [← Nat.pow_add, shift]
      exact Nat.log2_self_le nonzero
    have above : 2 * nearestUnits num 1 ≤ 2 * num + 2 ^ gridShift num 1 := by
      unfold nearestUnits nearestBits
      rw [Nat.one_mul] at near ⊢
      unfold Nat.dist at near
      omega
    calc nearestUnits num 1 * 2 ^ precision
        = 2 * nearestUnits num 1 * 2 ^ 52 := by
          rw [precision, Nat.mul_comm 2, Nat.mul_assoc, ← Nat.pow_succ']
      _ ≤ (2 * num + 2 ^ gridShift num 1) * 2 ^ 52 := Nat.mul_le_mul_right _ above
      _ = num * 2 ^ precision + 2 ^ gridShift num 1 * 2 ^ 52 := by
          rw [Nat.add_mul, precision, Nat.mul_comm 2, Nat.mul_assoc, ← Nat.pow_succ']
      _ ≤ num * (2 ^ precision + 1) := by
          rw [Nat.mul_succ]
          exact Nat.add_le_add_left grid _

theorem unitsOf_mul_le (n : Nat) :
    unitsOf n * 2 ^ precision ≤ n * unitsPerOne * (2 ^ precision + 1) :=
  nearestUnits_one_mul_le _

/-- A positive number is not rounded below one. -/
theorem unitsPerOne_le_unitsOf {n : Nat} (positive : 0 < n) : unitsPerOne ≤ unitsOf n := by
  have large : 2 ^ unitExponent ≤ n * unitsPerOne / 1 := by
    rw [Nat.div_one]
    exact Nat.le_mul_of_pos_left _ positive
  have nonzero : n * unitsPerOne / 1 ≠ 0 :=
    Nat.ne_of_gt (Nat.lt_of_lt_of_le (Nat.two_pow_pos _) large)
  exact Nat.le_trans (Nat.pow_le_pow_right (by decide) ((Nat.le_log2 nonzero).mpr large))
    (two_pow_log2_le_nearestUnits nonzero)

/-- Rounding at most doubles what there is, but for one unit. -/
theorem nearestUnits_le (num den : Nat) : nearestUnits num den ≤ 2 * (num / den) + 1 := by
  have most := roundHalfEven_le num (den * 2 ^ gridShift num den)
  rw [← Nat.div_div_eq_div_mul] at most
  have round : nearestUnits num den ≤
      (num / den / 2 ^ gridShift num den + 1) * 2 ^ gridShift num den :=
    Nat.mul_le_mul_right _ most
  rcases Nat.eq_zero_or_pos (gridShift num den) with fine | coarse
  · rw [fine, Nat.pow_zero, Nat.div_one, Nat.mul_one] at round
    omega
  · have nonzero : num / den ≠ 0 := by
      intro zero
      rw [gridShift, zero] at coarse
      exact absurd coarse (by decide)
    have grid : 2 ^ gridShift num den ≤ num / den := by
      refine Nat.le_trans (Nat.pow_le_pow_right (by decide) ?_) (Nat.log2_self_le nonzero)
      unfold gridShift precision
      omega
    have down := Nat.div_mul_le_self (num / den) (2 ^ gridShift num den)
    rw [Nat.succ_mul] at round
    omega

/-- Dividing by the greatest power of ten makes nothing larger. -/
theorem scaledDown_le (units times : Nat) : scaledDown units times ≤ units := by
  induction times generalizing units with
  | zero => exact Nat.le_refl _
  | succ times inductionHypothesis =>
      rw [scaledDown]
      split
      · exact Nat.zero_le _
      · next nonzero =>
          refine Nat.le_trans (inductionHypothesis _) (Nat.le_trans (nearestUnits_le _ _) ?_)
          have quarter : units * unitsPerOne / unitsOf (10 ^ greatestPower) ≤ units / 4 := by
            have power : 4 * unitsPerOne ≤ unitsOf (10 ^ greatestPower) := by decide +kernel
            refine Nat.le_trans (Nat.div_le_div_left power
              (Nat.mul_pos (by decide) (Nat.two_pow_pos _))) ?_
            rw [Nat.mul_div_mul_right _ _ (show 0 < unitsPerOne from Nat.two_pow_pos _)]
          omega

variable {num den : Nat}

/-- What is rounded to a finite double is some magnitude. -/
theorem exists_nearest? (positive : 0 < den) (small : num < overflow * den) :
    ∃ m, nearest? num den = some m := by
  unfold nearest?
  rw [dif_pos ((nearestUnits_lt_bound_iff positive).mpr small)]
  exact ⟨_, rfl⟩

end Magnitude

/-! ## What is not too large -/

namespace Decimal

open Magnitude

variable {d : Decimal}

/-- **No decimal with a negative exponent is too large**, if its coefficient is below `2 ^ 64`. -/
theorem exists_scaled?_of_neg (small : d.coefficient < UInt64.size) (negative : d.exponent < 0) :
    ∃ m, d.scaled? = some m := by
  unfold scaled?
  dsimp only
  rw [if_neg (by omega)]
  generalize (d.exponent.natAbs - 1) / greatestPower = times
  generalize d.exponent.natAbs - times * greatestPower = power
  have divisor := unitsPerOne_le_unitsOf (Nat.pow_pos (by decide) : 0 < 10 ^ power)
  refine exists_nearest? (Nat.lt_of_lt_of_le (Nat.two_pow_pos _) divisor) ?_
  have units : unitsOf d.coefficient ≤ 2 * (UInt64.size * unitsPerOne) + 1 := by
    refine Nat.le_trans (nearestUnits_le _ _) ?_
    rw [Nat.div_one]
    refine Nat.add_le_add_right (Nat.mul_le_mul_left _ ?_) 1
    exact Nat.mul_le_mul_right _ (Nat.le_of_lt small)
  have room : 2 * (UInt64.size * unitsPerOne) + 1 < overflow := by decide +kernel
  calc scaledDown (unitsOf d.coefficient) times * unitsPerOne
      ≤ (2 * (UInt64.size * unitsPerOne) + 1) * unitsPerOne :=
        Nat.mul_le_mul_right _ (Nat.le_trans (scaledDown_le _ _) units)
    _ < overflow * unitsPerOne := Nat.mul_lt_mul_of_pos_right room (Nat.two_pow_pos _)
    _ ≤ overflow * unitsOf (10 ^ power) := Nat.mul_le_mul_left _ divisor

/-- **A decimal is not too large** if it stays two parts in `2 ^ 53` below the first number that has
no double. -/
theorem exists_scaled?_of_nonneg (nonnegative : 0 ≤ d.exponent)
    (room : d.unitsNum * (2 ^ precision + 1) ^ 2 < overflow * (2 ^ precision) ^ 2) :
    ∃ m, d.scaled? = some m := by
  have num : d.unitsNum = d.coefficient * 10 ^ d.exponent.natAbs * unitsPerOne := by
    rw [unitsNum, show d.exponent.toNat = d.exponent.natAbs by omega]
  rw [num] at room
  unfold scaled?
  dsimp only
  rw [if_pos nonnegative]
  generalize d.exponent.natAbs = power at room
  generalize d.coefficient = coefficient at room ⊢
  by_cases inside : power ≤ greatestPower
  · rw [if_pos inside]
    refine exists_nearest? (Nat.two_pow_pos _) ?_
    refine Nat.lt_of_mul_lt_mul_right (a := (2 ^ precision) ^ 2) ?_
    calc unitsOf coefficient * unitsOf (10 ^ power) * (2 ^ precision) ^ 2
        = (unitsOf coefficient * 2 ^ precision) * (unitsOf (10 ^ power) * 2 ^ precision) := by
          rw [Nat.pow_two, Nat.mul_mul_mul_comm]
      _ ≤ (coefficient * unitsPerOne * (2 ^ precision + 1)) *
            (10 ^ power * unitsPerOne * (2 ^ precision + 1)) :=
          Nat.mul_le_mul (unitsOf_mul_le _) (unitsOf_mul_le _)
      _ = coefficient * 10 ^ power * unitsPerOne * (2 ^ precision + 1) ^ 2 * unitsPerOne := by
          generalize unitsPerOne = one
          generalize 2 ^ precision + 1 = part
          rw [Nat.pow_two]
          ac_rfl
      _ < overflow * (2 ^ precision) ^ 2 * unitsPerOne :=
          Nat.mul_lt_mul_of_pos_right room (Nat.two_pow_pos _)
      _ = overflow * unitsPerOne * (2 ^ precision) ^ 2 := Nat.mul_right_comm _ _ _
  · rw [if_neg inside]
    have zero : coefficient = 0 := by
      refine Nat.eq_zero_of_not_pos fun positive => ?_
      have large : overflow * (2 ^ precision) ^ 2 ≤
          10 ^ (greatestPower + 1) * unitsPerOne * (2 ^ precision + 1) ^ 2 := by decide +kernel
      refine Nat.not_lt_of_le (Nat.le_trans large (Nat.mul_le_mul_right _ ?_)) room
      refine Nat.mul_le_mul_right _ ?_
      exact Nat.le_trans (Nat.pow_le_pow_right (by decide) (Nat.lt_of_not_le inside))
        (Nat.le_mul_of_pos_left _ positive)
    have none : unitsOf coefficient = 0 := by
      rw [zero]
      decide +kernel
    rw [if_pos none]
    exact ⟨_, rfl⟩

end Decimal

namespace Numeral

open Magnitude

/-- What rounds to a magnitude is at most half a step of the largest doubles above it. -/
theorem unitsNum_le_of_roundsTo {d : Decimal} {m : Magnitude} (rounds : d.roundsTo m = true) :
    d.unitsNum ≤ (m.units + halfStep) * d.unitsDen := by
  have nearest : nearestUnits d.unitsNum d.unitsDen = m.units := by
    simpa [Decimal.roundsTo] using rounds
  have near := two_mul_dist_roundHalfEven d.unitsNum (Nat.mul_pos d.unitsDen_pos
    (Nat.two_pow_pos (gridShift d.unitsNum d.unitsDen)))
  have units : roundHalfEven d.unitsNum (d.unitsDen * 2 ^ gridShift d.unitsNum d.unitsDen) *
      (d.unitsDen * 2 ^ gridShift d.unitsNum d.unitsDen) = m.units * d.unitsDen := by
    rw [Nat.mul_left_comm, Nat.mul_comm d.unitsDen, ← nearest]
    rfl
  have grid : d.unitsDen * 2 ^ gridShift d.unitsNum d.unitsDen ≤ 2 * (halfStep * d.unitsDen) := by
    have shift : m.shift ≤ bits - precision := by
      by_cases zero : m.units = 0
      · rw [shift, zero]
        exact Nat.zero_le _
      · have log := (Nat.log2_lt zero).mpr m.units_lt
        unfold shift
        omega
    rw [← Nat.mul_assoc, Nat.mul_comm d.unitsDen, halfStep, ← Nat.pow_succ']
    exact Nat.mul_le_mul_right _ (Nat.pow_le_pow_right (by decide)
      (Nat.le_trans (gridShift_le_shift nearest) shift))
  rw [units] at near
  rw [Nat.add_mul]
  unfold Nat.dist at near
  omega

/-- **What the text of a double stands for is not too large**, but perhaps for the two largest
doubles. -/
theorem exists_scaled?_leading {n : Numeral} {m : Magnitude}
    (rounds : n.toDecimal.roundsTo m = true) (room : m.units ≤ halfStep * 0x3ffffffffffffa) :
    ∃ m', n.leading.scaled? = some m' := by
  obtain ⟨zeros, exponent, coefficient⟩ := n.exists_leading_le
  rcases Int.lt_or_le n.leading.exponent 0 with negative | nonnegative
  · exact Decimal.exists_scaled?_of_neg n.leading_coefficient_lt negative
  · refine Decimal.exists_scaled?_of_nonneg nonnegative ?_
    have num : n.leading.unitsNum ≤ halfStep * 0x3ffffffffffffb := by
      refine Nat.le_of_mul_le_mul_right ?_ n.toDecimal.unitsDen_pos
      calc n.leading.unitsNum * n.toDecimal.unitsDen
          ≤ n.toDecimal.unitsNum := ?_
        _ ≤ (m.units + halfStep) * n.toDecimal.unitsDen := unitsNum_le_of_roundsTo rounds
        _ ≤ halfStep * 0x3ffffffffffffb * n.toDecimal.unitsDen :=
            Nat.mul_le_mul_right _ (by omega)
      have places : n.leading.exponent.toNat + (-n.toDecimal.exponent).toNat =
          zeros + n.toDecimal.exponent.toNat := by omega
      calc n.leading.unitsNum * n.toDecimal.unitsDen
          = n.leading.coefficient * 10 ^ (n.leading.exponent.toNat +
              (-n.toDecimal.exponent).toNat) * unitsPerOne := by
            rw [Decimal.unitsNum, Decimal.unitsDen, Nat.mul_right_comm,
              Nat.mul_assoc n.leading.coefficient, ← Nat.pow_add]
        _ = n.leading.coefficient * 10 ^ zeros * 10 ^ n.toDecimal.exponent.toNat * unitsPerOne := by
            rw [places, Nat.pow_add, ← Nat.mul_assoc n.leading.coefficient]
        _ ≤ n.toDecimal.unitsNum :=
            Nat.mul_le_mul_right _ (Nat.mul_le_mul_right _ coefficient)
    have parts : 0x3ffffffffffffb * (2 ^ precision + 1) ^ 2 <
        0x3fffffffffffff * (2 ^ precision) ^ 2 := by decide
    calc n.leading.unitsNum * (2 ^ precision + 1) ^ 2
        ≤ halfStep * 0x3ffffffffffffb * (2 ^ precision + 1) ^ 2 := Nat.mul_le_mul_right _ num
      _ = halfStep * (0x3ffffffffffffb * (2 ^ precision + 1) ^ 2) := Nat.mul_assoc _ _ _
      _ < halfStep * (0x3fffffffffffff * (2 ^ precision) ^ 2) :=
          Nat.mul_lt_mul_of_pos_left parts halfStep_pos
      _ = overflow * (2 ^ precision) ^ 2 := by rw [overflow_eq, Nat.mul_assoc]

end Numeral

/-! ## Where scaling is exact -/

namespace Magnitude

/-- What rounds to one number of units rounds to one magnitude. -/
theorem nearest?_congr {num num' den den' : Nat}
    (same : nearestUnits num den = nearestUnits num' den') :
    nearest? num den = nearest? num' den' := by
  unfold nearest?
  split
  · next small =>
      rw [dif_pos (same ▸ small)]
      exact congrArg some (eq_of_units same)
  · next large => rw [dif_neg (same ▸ large)]

/-- Whole numbers of fifty-three bits are not rounded. -/
theorem unitsOf_of_le {n : Nat} (small : n ≤ 2 ^ precision) : unitsOf n = n * unitsPerOne := by
  have bounded : n * 2 ^ unitExponent < bound :=
    Nat.lt_of_le_of_lt (Nat.mul_le_mul_right _ small) (by decide +kernel)
  have itself := nearestUnits_mul (.scaled n unitExponent small bounded) Nat.one_pos
  rwa [Nat.mul_one] at itself

/-- Powers of ten up to the twenty-second are not rounded. -/
theorem unitsOf_pow {power : Nat} (small : power ≤ 22) :
    unitsOf (10 ^ power) = 10 ^ power * unitsPerOne := by
  have all : ∀ power < 23, unitsOf (10 ^ power) = 10 ^ power * unitsPerOne := by decide +kernel
  exact all power (Nat.lt_succ_of_le small)

end Magnitude

namespace Decimal

open Magnitude

variable {d : Decimal}

/-- **Scaling rounds once** if neither the digits nor the power of ten have to be rounded. -/
theorem scaled?_eq_nearest? (digits : d.coefficient ≤ 2 ^ precision)
    (power : d.exponent.natAbs ≤ 22) : d.scaled? = nearest? d.unitsNum d.unitsDen := by
  have one : 0 < unitsPerOne := Nat.two_pow_pos _
  unfold scaled?
  dsimp only
  rw [unitsOf_of_le digits]
  by_cases nonnegative : 0 ≤ d.exponent
  · have inside : d.exponent.natAbs ≤ greatestPower := Nat.le_trans power (by decide)
    have den : d.unitsDen = 1 := by
      rw [unitsDen, show (-d.exponent).toNat = 0 by omega, Nat.pow_zero]
    rw [if_pos nonnegative, if_pos inside, unitsOf_pow power]
    refine nearest?_congr (nearestUnits_congr one d.unitsDen_pos ?_)
    rw [den, unitsNum, show d.exponent.toNat = d.exponent.natAbs by omega]
    generalize unitsPerOne = units
    ac_rfl
  · have once : (d.exponent.natAbs - 1) / greatestPower = 0 :=
      Nat.div_eq_of_lt (Nat.lt_of_lt_of_le (by omega) (by decide : 22 ≤ greatestPower))
    have num : d.unitsNum = d.coefficient * unitsPerOne := by
      rw [unitsNum, show d.exponent.toNat = 0 by omega, Nat.pow_zero, Nat.mul_one]
    rw [if_neg nonnegative, once, Nat.zero_mul, Nat.sub_zero, scaledDown, unitsOf_pow power]
    refine nearest?_congr (nearestUnits_congr (Nat.mul_pos (Nat.pow_pos (by decide)) one)
      d.unitsDen_pos ?_)
    rw [num, unitsDen, show (-d.exponent).toNat = d.exponent.natAbs by omega]
    generalize unitsPerOne = units
    ac_rfl

/-- **Whole numbers below `2 ^ 64` are rounded once.** -/
theorem scaled?_of_whole (small : d.coefficient < UInt64.size) (whole : d.exponent = 0) :
    d.scaled? = nearest? d.unitsNum d.unitsDen := by
  have num : d.unitsNum = d.coefficient * unitsPerOne := by simp [unitsNum, whole]
  have den : d.unitsDen = 1 := by simp [unitsDen, whole]
  have room : d.coefficient * unitsPerOne < overflow * 1 := by
    rw [Nat.mul_one]
    exact Nat.lt_trans (Nat.mul_lt_mul_of_pos_right small (Nat.two_pow_pos _)) (by decide +kernel)
  obtain ⟨m, found⟩ := exists_nearest? Nat.one_pos room
  have units : unitsOf d.coefficient = m.units := by
    unfold nearest? at found
    split at found
    · cases found
      rfl
    · cases found
  have ten : unitsOf (10 ^ 0) = unitsPerOne := by decide +kernel
  unfold scaled?
  dsimp only
  rw [whole, if_pos (Int.le_refl 0), Int.natAbs_zero, if_pos (Nat.zero_le _), ten, num, den]
  refine nearest?_congr ?_
  have itself : nearestUnits (m.units * unitsPerOne) unitsPerOne = m.units :=
    nearestUnits_mul m (Nat.two_pow_pos _)
  rw [units, itself, ← units]
  rfl

end Decimal

namespace Numeral

open Magnitude

/-- Nothing has to be rounded before the last step: the numeral is a whole number below `2 ^ 64`, or
its digits make at most `2 ^ 53` and its power of ten is at most the twenty-second. -/
def isPlain (n : Numeral) : Bool :=
  let d := n.toDecimal
  (d.exponent == 0 && d.coefficient < UInt64.size) ||
    (d.coefficient ≤ 2 ^ precision && d.exponent.natAbs ≤ 22)

/-- **Scaling gives the double nearest to a plain numeral.** -/
theorem scaled?_leading_of_isPlain {n : Numeral} (plain : n.isPlain = true) :
    n.leading.scaled? = nearest? n.toDecimal.unitsNum n.toDecimal.unitsDen := by
  simp only [isPlain, Bool.or_eq_true, Bool.and_eq_true, beq_iff_eq, decide_eq_true_eq] at plain
  rcases plain with ⟨whole, small⟩ | ⟨digits, power⟩
  · rw [leading_eq small, Decimal.scaled?_of_whole small whole]
  · have small : n.toDecimal.coefficient < UInt64.size :=
      Nat.lt_of_le_of_lt digits (by decide)
    rw [leading_eq small, Decimal.scaled?_eq_nearest? digits power]

end Numeral
end PathQuery
