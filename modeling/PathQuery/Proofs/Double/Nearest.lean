import Mathlib.Data.Nat.Dist
import PathQuery.Proofs.Double.Fractions

/-!
# Rounding gives the nearest double

`Magnitude.IsNearest` says of a magnitude that no other is nearer to a fraction of units, and that
its last bit is zero if another is as near. `Double.IsNearest` adds the sign and says from where on
the result is infinite. Rounding gives such a double for every fraction
(`Double.isNearest_nearest`).

Rounding looks at one grid only, the multiples of a power of two. There it is right, because
`roundHalfEven` is (`dist_roundHalfEven_le`). Magnitudes off the grid are so small that a point of
the grid lies between them and the fraction (`Magnitude.dvd_or_exists_between`).
-/

set_option autoImplicit false

namespace PathQuery

/-! ## Whole numbers -/

section RoundHalfEven

variable {num den : Nat}

/-- A fraction is rounded to a whole number that is at most a half away, and to an even one if it is
a half away. -/
theorem two_mul_dist_roundHalfEven (num : Nat) (positive : 0 < den) :
    2 * Nat.dist (roundHalfEven num den * den) num < den ∨
      2 * Nat.dist (roundHalfEven num den * den) num = den ∧ roundHalfEven num den % 2 = 0 := by
  have split : num / den * den + num % den = num := by
    rw [Nat.mul_comm]
    exact Nat.div_add_mod num den
  have small : num % den < den := Nat.mod_lt _ positive
  have up : (num / den + 1) * den = num / den * den + den := Nat.succ_mul _ _
  rcases Nat.lt_trichotomy (2 * (num % den)) den with below | half | above
  · have down : roundHalfEven num den = num / den := if_pos below
    rw [down]
    unfold Nat.dist
    omega
  · have even : roundHalfEven num den = num / den + num / den % 2 := by
      simp [roundHalfEven, half]
    refine .inr ⟨?_, by omega⟩
    rcases Nat.mod_two_eq_zero_or_one (num / den) with zero | one
    · rw [even, zero, Nat.add_zero]
      unfold Nat.dist
      omega
    · rw [even, one, up]
      unfold Nat.dist
      omega
  · have next : roundHalfEven num den = num / den + 1 := by
      simp [roundHalfEven, above, Nat.not_lt_of_gt above]
    rw [next, up]
    unfold Nat.dist
    omega

/-- No whole number is nearer than the one a fraction is rounded to, and if another is as near, then
both are a half away. -/
theorem dist_roundHalfEven_le (num : Nat) (positive : 0 < den) (k : Nat) :
    Nat.dist (roundHalfEven num den * den) num ≤ Nat.dist (k * den) num ∧
      (k ≠ roundHalfEven num den →
        Nat.dist (k * den) num = Nat.dist (roundHalfEven num den * den) num →
          roundHalfEven num den % 2 = 0) := by
  have near := two_mul_dist_roundHalfEven num positive
  generalize roundHalfEven num den = rounded at near ⊢
  rcases Nat.lt_trichotomy k rounded with below | rfl | above
  · have apart : (k + 1) * den ≤ rounded * den := Nat.mul_le_mul_right den below
    rw [Nat.succ_mul] at apart
    unfold Nat.dist at near ⊢
    omega
  · exact ⟨Nat.le_refl _, fun other => absurd rfl other⟩
  · have apart : (rounded + 1) * den ≤ k * den := Nat.mul_le_mul_right den above
    rw [Nat.succ_mul] at apart
    unfold Nat.dist at near ⊢
    omega

end RoundHalfEven

/-! ## Magnitudes -/

namespace Magnitude

/-- How far the magnitude is from `num / den` units, in parts of a unit of which `den` make one. -/
def distance (m : Magnitude) (num den : Nat) : Nat := Nat.dist (m.units * den) num

/-- The significant bits. -/
def significand (m : Magnitude) : Nat := m.units / 2 ^ m.shift

/-- No magnitude is nearer to `num / den` units, and if another is as near, then the significant
bits of this one end in zero. -/
structure IsNearest (m : Magnitude) (num den : Nat) : Prop where
  least : ∀ other : Magnitude, m.distance num den ≤ other.distance num den
  even : ∀ other : Magnitude, other ≠ m → other.distance num den = m.distance num den →
    m.significand % 2 = 0

variable {num den : Nat}

/-- A magnitude is a point of the grid, or a point of the grid lies between it and the fraction. -/
theorem dvd_or_exists_between (m : Magnitude) (num den : Nat) :
    2 ^ gridShift num den ∣ m.units ∨
      ∃ k, m.units < k * 2 ^ gridShift num den ∧ k * 2 ^ gridShift num den ≤ num / den := by
  by_cases fine : gridShift num den ≤ m.units.log2 + 1 - precision
  · exact .inl (Nat.dvd_trans (Nat.pow_dvd_pow 2 fine) m.step_dvd)
  · have smaller : m.units.log2 + 1 ≤ (num / den).log2 := by
      unfold gridShift at fine
      omega
    have nonzero : num / den ≠ 0 := by
      intro zero
      rw [zero] at smaller
      exact absurd smaller (by simp)
    have shift : gridShift num den ≤ (num / den).log2 := by
      unfold gridShift precision
      omega
    have leading : 2 ^ ((num / den).log2 - gridShift num den) * 2 ^ gridShift num den =
        2 ^ (num / den).log2 := by
      rw [← Nat.pow_add, Nat.sub_add_cancel shift]
    refine .inr ⟨2 ^ ((num / den).log2 - gridShift num den), ?_, ?_⟩
    · rw [leading]
      exact Nat.lt_of_lt_of_le Nat.lt_log2_self (Nat.pow_le_pow_right (by decide) smaller)
    · rw [leading]
      exact Nat.log2_self_le nonzero

/-- The magnitude that a fraction is rounded to has no bits below the grid. -/
theorem gridShift_le_shift {m : Magnitude} (nearest : nearestUnits num den = m.units) :
    gridShift num den ≤ m.shift := by
  by_cases zero : num / den = 0
  · have shift : gridShift num den = 0 := by
      rw [gridShift, zero]
      rfl
    rw [shift]
    exact Nat.zero_le _
  · have leading := two_pow_log2_le_nearestUnits zero
    rw [nearest] at leading
    have nonzero : m.units ≠ 0 := Nat.ne_of_gt (Nat.lt_of_lt_of_le (Nat.two_pow_pos _) leading)
    have log : (num / den).log2 ≤ m.units.log2 := (Nat.le_log2 nonzero).mpr leading
    unfold gridShift shift
    omega

/-- A magnitude on the grid has an even last bit if the bits on the grid are even: they are its
significant bits, unless they have carried over into a power of two. -/
theorem significand_even {m : Magnitude} (nearest : nearestUnits num den = m.units)
    (even : nearestBits num den % 2 = 0) : m.significand % 2 = 0 := by
  have most := nearestBits_le num den
  have units : m.units = nearestBits num den * 2 ^ gridShift num den := nearest.symm
  rcases Nat.lt_or_eq_of_le most with less | carried
  · have shift : m.shift = gridShift num den := by
      refine Nat.le_antisymm ?_ (gridShift_le_shift nearest)
      rcases Nat.eq_zero_or_pos (nearestBits num den) with zero | positive
      · rw [zero, Nat.zero_mul] at units
        rw [shift, units]
        exact Nat.zero_le _
      · have nonzero : m.units ≠ 0 := by
          rw [units]
          exact Nat.ne_of_gt (Nat.mul_pos positive (Nat.two_pow_pos _))
        have log : m.units.log2 < precision + gridShift num den := by
          rw [Nat.log2_lt nonzero, units, Nat.pow_add]
          exact Nat.mul_lt_mul_of_pos_right less (Nat.two_pow_pos _)
        unfold Magnitude.shift
        omega
    rwa [significand, shift, units, Nat.mul_div_cancel _ (Nat.two_pow_pos _)]
  · have power : m.units = 2 ^ (precision + gridShift num den) := by
      rw [units, carried, Nat.pow_add]
    have shift : m.shift = gridShift num den + 1 := by
      rw [shift, power, Nat.log2_two_pow]
      omega
    have exponent : precision + gridShift num den = precision - 1 + (gridShift num den + 1) := by
      unfold precision
      omega
    rw [significand, shift, power, exponent, Nat.pow_add,
      Nat.mul_div_cancel _ (Nat.two_pow_pos _)]
    decide

/-- **The magnitude that rounding gives is the nearest.** -/
theorem isNearest_of_nearestUnits {m : Magnitude} (positive : 0 < den)
    (nearest : nearestUnits num den = m.units) : m.IsNearest num den := by
  have onGrid (k : Nat) : k * 2 ^ gridShift num den * den = k * (den * 2 ^ gridShift num den) := by
    rw [Nat.mul_assoc, Nat.mul_comm den]
  have grid := Nat.mul_pos positive (Nat.two_pow_pos (gridShift num den))
  have closest := dist_roundHalfEven_le num grid
  have here : m.distance num den =
      Nat.dist (nearestBits num den * (den * 2 ^ gridShift num den)) num := by
    rw [distance, ← nearest, nearestUnits, onGrid]
  have beyond {other : Magnitude} (off : ∃ k, other.units < k * 2 ^ gridShift num den ∧
      k * 2 ^ gridShift num den ≤ num / den) : m.distance num den < other.distance num den := by
    obtain ⟨k, below, above⟩ := off
    have near := (closest k).1
    have inside := Nat.mul_lt_mul_of_pos_right below positive
    have reached := (Nat.le_div_iff_mul_le positive).mp above
    rw [onGrid] at inside reached
    rw [here]
    change Nat.dist (nearestBits num den * _) _ ≤ _ at near
    unfold distance
    unfold Nat.dist at near ⊢
    omega
  refine ⟨fun other => ?_, fun other apart same => ?_⟩
  · rcases other.dvd_or_exists_between num den with ⟨k, units⟩ | off
    · rw [here, distance, units, Nat.mul_comm (2 ^ _), onGrid]
      exact (closest k).1
    · exact Nat.le_of_lt (beyond off)
  · rcases other.dvd_or_exists_between num den with ⟨k, units⟩ | off
    · rw [Nat.mul_comm] at units
      have different : k ≠ nearestBits num den := by
        rintro rfl
        exact apart (eq_of_units (units.trans nearest))
      rw [here, distance, units, onGrid] at same
      exact significand_even nearest ((closest k).2 different same)
    · exact absurd same (Nat.ne_of_gt (beyond off))

/-! ## The largest double -/

/-- Half a step between the largest doubles, in units. -/
def halfStep : Nat := 2 ^ (bits - precision - 1)

/-- The units that are half a step beyond the largest double. From here on there is no nearest
one. -/
def overflow : Nat := bound - halfStep

theorem halfStep_pos : 0 < halfStep := Nat.two_pow_pos _

theorem two_pow_precision_add (k : Nat) : 2 ^ (precision + k) = 2 ^ k * 0x20000000000000 := by
  rw [Nat.pow_add, Nat.mul_comm]
  exact congrArg (2 ^ k * ·) rfl

theorem bound_eq : bound = halfStep * 0x40000000000000 := by
  have exponent : bits = precision + (bits - precision - 1 + 1) := by decide
  rw [bound, exponent, two_pow_precision_add, Nat.pow_succ, halfStep, Nat.mul_assoc]

theorem overflow_eq : overflow = halfStep * 0x3fffffffffffff := by
  rw [overflow, bound_eq]
  omega

/-- A whole number of steps is less than `2 ^ 53` exactly when what it is rounded from is less than
half a step before that. Half a step before it, the even neighbour is `2 ^ 53`. -/
theorem lt_iff_of_near {rounded num half : Nat} (positive : 0 < half)
    (most : rounded ≤ 0x20000000000000)
    (near : 2 * Nat.dist (rounded * (2 * half)) num < 2 * half ∨
      2 * Nat.dist (rounded * (2 * half)) num = 2 * half ∧ rounded % 2 = 0) :
    rounded < 0x20000000000000 ↔ num < 0x3fffffffffffff * half := by
  rcases Nat.lt_or_eq_of_le most with less | rfl
  · refine iff_of_true less ?_
    rcases near with near | ⟨near, even⟩
    · have room : (rounded + 1) * (2 * half) ≤ 0x20000000000000 * (2 * half) :=
        Nat.mul_le_mul_right _ less
      rw [Nat.succ_mul] at room
      unfold Nat.dist at near
      omega
    · have room : (rounded + 2) * (2 * half) ≤ 0x20000000000000 * (2 * half) :=
        Nat.mul_le_mul_right _ (by omega)
      rw [Nat.add_mul] at room
      unfold Nat.dist at near
      omega
  · refine iff_of_false (Nat.lt_irrefl _) ?_
    unfold Nat.dist at near
    omega

/-- The grid of the largest doubles. -/
theorem nearestUnits_lt_bound_iff_of_top (positive : 0 < den)
    (top : gridShift num den = bits - precision) :
    nearestUnits num den < bound ↔ num < overflow * den := by
  have exponent : bits - precision = bits - precision - 1 + 1 := by decide
  have step : 2 ^ gridShift num den = halfStep * 2 := by
    rw [top, exponent, Nat.pow_succ, halfStep]
  have near := two_mul_dist_roundHalfEven num
    (Nat.mul_pos positive (Nat.two_pow_pos (gridShift num den)))
  change 2 * Nat.dist (nearestBits num den * _) _ < _ ∨
    2 * Nat.dist (nearestBits num den * _) _ = _ ∧ nearestBits num den % 2 = 0 at near
  have width : den * 2 ^ gridShift num den = 2 * (halfStep * den) := by
    rw [step, Nat.mul_comm, Nat.mul_right_comm, Nat.mul_comm]
  have limit : overflow * den = 0x3fffffffffffff * (halfStep * den) := by
    rw [overflow_eq, Nat.mul_right_comm, Nat.mul_comm]
  have below : nearestUnits num den < bound ↔ nearestBits num den < 0x20000000000000 := by
    have whole : bound = 0x20000000000000 * (halfStep * 2) := by
      rw [bound_eq, Nat.mul_comm 0x20000000000000, Nat.mul_assoc]
    rw [nearestUnits, step, whole]
    exact Nat.mul_lt_mul_right (Nat.mul_pos halfStep_pos (by decide))
  rw [width] at near
  rw [below, limit]
  exact lt_iff_of_near (Nat.mul_pos halfStep_pos positive) (nearestBits_le num den) near

/-- On a finer grid there is always a finite double. -/
theorem lt_bound_of_below_top (positive : 0 < den) (lower : gridShift num den < bits - precision) :
    nearestUnits num den < bound ∧ num < overflow * den := by
  have shift : gridShift num den ≤ bits - precision - 1 := Nat.le_sub_one_of_lt lower
  have log : (num / den).log2 + 1 ≤ precision + (bits - precision - 1) := by
    unfold gridShift precision bits at lower
    unfold precision bits
    omega
  have room : 0x20000000000000 * halfStep < overflow := by
    have := halfStep_pos
    rw [overflow_eq]
    omega
  have power : 2 ^ (precision + (bits - precision - 1)) = 0x20000000000000 * halfStep := by
    rw [two_pow_precision_add, halfStep, Nat.mul_comm]
  constructor
  · calc nearestUnits num den
        ≤ 0x20000000000000 * halfStep :=
          Nat.mul_le_mul (nearestBits_le num den) (Nat.pow_le_pow_right (by decide) shift)
      _ < overflow := room
      _ ≤ bound := Nat.sub_le _ _
  · calc num
        < (num / den + 1) * den := Nat.lt_mul_of_div_lt (Nat.lt_succ_self _) positive
      _ ≤ 2 ^ ((num / den).log2 + 1) * den := Nat.mul_le_mul_right _ Nat.lt_log2_self
      _ ≤ 2 ^ (precision + (bits - precision - 1)) * den :=
          Nat.mul_le_mul_right _ (Nat.pow_le_pow_right (by decide) log)
      _ ≤ overflow * den := by
          rw [power]
          exact Nat.mul_le_mul_right _ (Nat.le_of_lt room)

/-- What is rounded to a finite double is less than half a step beyond the largest one. -/
theorem nearestUnits_lt_bound_iff (positive : 0 < den) :
    nearestUnits num den < bound ↔ num < overflow * den := by
  rcases Nat.lt_trichotomy (gridShift num den) (bits - precision) with lower | top | higher
  · have finite := lt_bound_of_below_top positive lower
    exact iff_of_true finite.1 finite.2
  · exact nearestUnits_lt_bound_iff_of_top positive top
  · have log : bits ≤ (num / den).log2 := by
      unfold gridShift precision bits at higher
      unfold bits
      omega
    have nonzero : num / den ≠ 0 := by
      intro zero
      rw [zero] at log
      exact absurd log (by decide)
    have quotient : bound ≤ num / den := (Nat.le_log2 nonzero).mp log
    have large : bound * den ≤ num := (Nat.le_div_iff_mul_le positive).mp quotient
    refine iff_of_false (Nat.not_lt_of_ge (bound_le_nearestUnits large positive)) ?_
    have limit : overflow * den ≤ bound * den := Nat.mul_le_mul_right _ (Nat.sub_le _ _)
    exact Nat.not_lt_of_ge (Nat.le_trans limit large)

end Magnitude

/-! ## Doubles -/

namespace Double

/-- The double is the one nearest to `num / den` units with the given sign. It is infinite if these
are half a step or more beyond the largest double. -/
inductive IsNearest (negative : Bool) (num den : Nat) : Double → Prop
  | finite {m : Magnitude} (inside : num < Magnitude.overflow * den)
      (nearest : m.IsNearest num den) : IsNearest negative num den (.finite negative m)
  | infinite (outside : Magnitude.overflow * den ≤ num) :
      IsNearest negative num den (.infinite negative)

/-- **Rounding a fraction of units gives the nearest double.** -/
theorem isNearest_nearest (negative : Bool) (num : Nat) {den : Nat} (positive : 0 < den) :
    (nearest negative num den).IsNearest negative num den := by
  have finite_iff := @Magnitude.nearestUnits_lt_bound_iff num den positive
  unfold nearest Magnitude.nearest?
  by_cases small : Magnitude.nearestUnits num den < Magnitude.bound
  · rw [dif_pos small]
    exact .finite (finite_iff.mp small) (Magnitude.isNearest_of_nearestUnits positive rfl)
  · rw [dif_neg small]
    exact .infinite (Nat.le_of_not_lt fun less => small (finite_iff.mpr less))

end Double

end PathQuery
