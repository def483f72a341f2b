import PathQuery.Proofs.Json.Numbers

/-!
# Whole numbers are printed in digits

The shortest decimal of a number that is whole and not too large is whole itself: the decimal with
all the digits of the number rounds to it, so the search finds no longer one
(`Magnitude.exists_whole_shortest`). No other whole decimal rounds to the number
(`Decimal.eq_of_roundsTo`), and a whole decimal that is not too large is printed without a point and
without an exponent (`Decimal.text_of_whole`). So what is printed is the digits of the number
(`Magnitude.text_shortest`), which is what a document has for it (`JsonNumber.chars_of_ofDouble?`).
-/

set_option autoImplicit false

namespace PathQuery

/-- A power of ten puts zeros behind the digits. -/
theorem toDigits_mul_pow {n : Nat} (positive : 0 < n) (zeros : Nat) :
    Nat.toDigits 10 (n * 10 ^ zeros) = Nat.toDigits 10 n ++ List.replicate zeros '0' := by
  induction zeros with
  | zero => rw [Nat.pow_zero, Nat.mul_one, List.replicate_zero, List.append_nil]
  | succ zeros inductionHypothesis =>
      have tens : 0 < n * 10 ^ zeros := Nat.mul_pos positive (Nat.pow_pos (by decide))
      have last := Nat.toDigits_append_toDigits (by decide : 1 < 10) tens (by decide : 0 < 10)
      rw [Nat.add_zero, Nat.toDigits_zero, Nat.mul_comm 10, Nat.mul_assoc n, ← Nat.pow_succ] at last
      rw [← last, inductionHypothesis, List.append_assoc, ← List.replicate_succ']

/-- What a search finds stands no later than a place where something is found. -/
theorem exists_findSome?_range {α : Type} {f : Nat → Option α} {length place : Nat}
    (inside : place < length) (found : (f place).isSome = true) :
    ∃ n ≤ place, ∃ a, f n = some a ∧ (List.range length).findSome? f = some a := by
  have some : ((List.range length).findSome? f).isSome = true :=
    List.findSome?_isSome_iff.mpr ⟨place, List.mem_range.mpr inside, found⟩
  obtain ⟨a, search⟩ := Option.isSome_iff_exists.mp some
  obtain ⟨before, n, after, split, here, earlier⟩ := List.findSome?_eq_some_iff.mp search
  refine ⟨n, ?_, a, here, search⟩
  have member : place ∈ before ++ n :: after := split ▸ List.mem_range.mpr inside
  have sorted : (before ++ n :: after).Pairwise (· < ·) := split ▸ List.pairwise_lt_range
  rcases List.mem_append.mp member with left | right
  · rw [earlier place left] at found
    exact absurd found Bool.false_ne_true
  · rcases List.mem_cons.mp right with rfl | later
    · exact Nat.le_refl _
    · have behind := (List.pairwise_cons.mp (List.pairwise_append.mp sorted).2.1).1
      exact Nat.le_of_lt (behind place later)

namespace Decimal

/-! ## Whole decimals -/

variable {c e k : Nat}

/-- The only whole decimal that rounds to a whole number that is small enough is the number. -/
theorem eq_of_roundsTo {m : Magnitude} (units : m.units = k * Magnitude.unitsPerOne)
    (small : k ≤ JsonNumber.greatestInteger) (rounds : roundsTo ⟨c, e⟩ m = true) :
    c * 10 ^ e = k := by
  have nearest : Magnitude.nearestUnits (c * 10 ^ e * Magnitude.unitsPerOne) 1 =
      k * Magnitude.unitsPerOne := by
    rw [← units]
    simpa [roundsTo, unitsNum, unitsDen] using rounds
  generalize c * 10 ^ e = value at nearest ⊢
  by_cases small' : value ≤ JsonNumber.greatestInteger
  · rw [Magnitude.nearestUnits_whole small'] at nearest
    exact Nat.eq_of_mul_eq_mul_right Magnitude.unitsPerOne_pos nearest
  · -- Rounding keeps the leading bit, so what is rounded is too large for the number.
    have limit : JsonNumber.greatestInteger + 1 = 2 ^ Magnitude.precision := by decide
    have power : 2 ^ Magnitude.precision * Magnitude.unitsPerOne =
        2 ^ (Magnitude.precision + Magnitude.unitExponent) := by
      rw [Magnitude.unitsPerOne, Nat.pow_add]
    have large : 2 ^ (Magnitude.precision + Magnitude.unitExponent) ≤
        value * Magnitude.unitsPerOne / 1 := by
      rw [Nat.div_one, ← power]
      exact Nat.mul_le_mul_right _ (by omega)
    have nonzero : value * Magnitude.unitsPerOne / 1 ≠ 0 :=
      Nat.ne_of_gt (Nat.lt_of_lt_of_le (Nat.two_pow_pos _) large)
    have leading := Magnitude.two_pow_log2_le_nearestUnits nonzero
    rw [nearest] at leading
    have bits := Nat.pow_le_pow_right (by decide : 0 < 2) ((Nat.le_log2 nonzero).mpr large)
    have below : k * Magnitude.unitsPerOne < 2 ^ Magnitude.precision * Magnitude.unitsPerOne :=
      Nat.mul_lt_mul_of_pos_right (by omega) Magnitude.unitsPerOne_pos
    rw [power] at below
    exact absurd (Nat.le_trans bits leading) (Nat.not_le_of_lt below)

/-- A whole decimal that is not too large is printed in digits. -/
theorem text_of_whole (positive : 0 < c) (small : c * 10 ^ e < 10 ^ (21 : Nat)) :
    text ⟨c, e⟩ = Nat.toDigits 10 (c * 10 ^ e) := by
  obtain ⟨zeros, digits⟩ := exists_digits_eq ⟨c, e⟩
  have all := toDigits_mul_pow positive e
  have places : (Nat.toDigits 10 c).length + e ≤ 21 := by
    have short := (Nat.length_toDigits_le_iff (by decide) (by decide)).mpr small
    rwa [all, List.length_append, List.length_replicate] at short
  have first : 0 < (Nat.toDigits 10 c).length := Nat.length_toDigits_pos
  have same : point ⟨c, e⟩ = ((Nat.toDigits 10 c).length + e : Nat) := rfl
  have length : (Nat.toDigits 10 c).length = (significantDigits ⟨c, e⟩).length + zeros := by
    have sum := congrArg List.length digits
    rwa [List.length_append, List.length_replicate] at sum
  have left : leastPoint ≤ point ⟨c, e⟩ ∧ point ⟨c, e⟩ ≤ greatestPoint := by
    rw [same, leastPoint, greatestPoint]
    omega
  have gap : (point ⟨c, e⟩ - (significantDigits ⟨c, e⟩).length).toNat = zeros + e := by
    rw [same, length]
    omega
  rw [text, if_pos left, positional, if_neg (by rw [same]; omega), if_pos (by rw [same]; omega),
    gap, ← List.replicate_append_replicate, ← List.append_assoc, ← digits, all]
  rfl

end Decimal

namespace Magnitude

variable {m : Magnitude} {k : Nat}

/-! ## The search -/

theorem exact_eq (units : m.units = k * unitsPerOne) :
    m.exact = ⟨k * 10 ^ unitExponent, -unitExponent⟩ := by
  have ten (n : Nat) : 10 ^ n = 2 ^ n * 5 ^ n := Nat.mul_pow 2 5 n
  rw [exact, units, unitsPerOne, Nat.mul_assoc, ← ten]

theorem eq_of_choose? {lower upper d : Decimal} {lowerIsNearer : Bool}
    (found : m.choose? lower upper lowerIsNearer = some d) : d = lower ∨ d = upper := by
  unfold choose? at found
  split at found
  · split at found
    · obtain rfl := Option.some.inj found
      cases lowerIsNearer
      · exact .inr rfl
      · exact .inl rfl
    · exact .inl (Option.some.inj found).symm
  · split at found
    · exact .inr (Option.some.inj found).symm
    · exact absurd found nofun

/-- A candidate that ends no earlier than the point is whole. -/
theorem whole_of_candidate? {e : Nat} {d : Decimal}
    (found : m.candidate? (unitExponent + e) = some d) : ∃ c : Nat, d = ⟨c, e⟩ := by
  have exponent : (m.exact.floor (unitExponent + e)).exponent = e := by
    rw [Decimal.floor, exact]
    dsimp only
    omega
  rcases eq_of_choose? found with rfl | rfl
  · exact ⟨_, congrArg (Decimal.mk _) exponent⟩
  · exact ⟨_, congrArg (Decimal.mk _) exponent⟩

theorem isSome_candidate? (units : m.units = k * unitsPerOne)
    (small : k ≤ JsonNumber.greatestInteger) : (m.candidate? unitExponent).isSome = true := by
  have itself : m.exact.floor unitExponent = ⟨k, 0⟩ := by
    rw [exact_eq units, Decimal.floor, Nat.mul_div_cancel _ (Nat.pow_pos (by decide))]
    dsimp only
    rw [Int.add_left_neg]
  have rounds : (m.exact.floor unitExponent).roundsTo m = true := by
    rw [itself, Decimal.roundsTo, units]
    simpa [Decimal.unitsNum, Decimal.unitsDen] using nearestUnits_whole small
  unfold candidate? choose?
  dsimp only
  rw [if_pos rounds]
  split <;> rfl

/-- The shortest decimal of a whole number is whole. -/
theorem exists_whole_shortest (units : m.units = k * unitsPerOne) (positive : 0 < k)
    (small : k ≤ JsonNumber.greatestInteger) : ∃ c e : Nat, m.shortest = ⟨c, e⟩ := by
  have length : m.exact.digits.length = (Nat.toDigits 10 k).length + unitExponent := by
    rw [exact_eq units, Decimal.digits, toDigits_mul_pow positive, List.length_append,
      List.length_replicate]
  have first : 0 < (Nat.toDigits 10 k).length := Nat.length_toDigits_pos
  have short : (Nat.toDigits 10 k).length ≤ 16 := by
    have limit : JsonNumber.greatestInteger < 10 ^ 16 := by decide
    exact (Nat.length_toDigits_le_iff (by decide) (by decide)).mpr (by omega)
  generalize (Nat.toDigits 10 k).length = digits at length first short
  -- With all the digits of the number, nothing is dropped in front of the point.
  have found : (m.candidate? (m.exact.digits.length - (digits - 1 + 1))).isSome = true := by
    have point : m.exact.digits.length - (digits - 1 + 1) = unitExponent := by omega
    rw [point]
    exact isSome_candidate? units small
  obtain ⟨n, early, d, candidate, search⟩ :=
    @exists_findSome?_range _ (fun n => m.candidate? (m.exact.digits.length - (n + 1))) 17
      (digits - 1) (by omega) found
  have dropped : m.exact.digits.length - (n + 1) = unitExponent + (digits - (n + 1)) := by omega
  rw [dropped] at candidate
  obtain ⟨c, whole⟩ := whole_of_candidate? candidate
  refine ⟨c, digits - (n + 1), ?_⟩
  rw [shortest, search, Option.getD_some, whole]

/-- **Whole numbers that are small enough are printed in digits.** -/
theorem text_shortest (units : m.units = k * unitsPerOne) (positive : 0 < k)
    (small : k ≤ JsonNumber.greatestInteger) : m.shortest.text = Nat.toDigits 10 k := by
  obtain ⟨c, e, whole⟩ := exists_whole_shortest units positive small
  have rounds := m.roundsTo_shortest
  rw [whole] at rounds ⊢
  have value := Decimal.eq_of_roundsTo units small rounds
  have limit : JsonNumber.greatestInteger < 10 ^ 21 := by decide
  rw [Decimal.text_of_whole ?_ (by omega), value]
  refine Nat.pos_of_ne_zero fun zero => ?_
  rw [zero, Nat.zero_mul] at value
  omega

end Magnitude

/-- **A number that is written into a document keeps its text**, whether it is written as an integer
or as a double. -/
theorem JsonNumber.chars_of_ofDouble? {d : Double} {n : JsonNumber} (found : ofDouble? d = some n) :
    n.chars = d.chars := by
  cases d with
  | nan => exact absurd found nofun
  | infinite negative => exact absurd found nofun
  | finite negative m =>
      rcases ofDouble?_finite negative m with ⟨k, small, units, written⟩ | ⟨-, written⟩
      · cases found.symm.trans written
        have absolute : (if negative then -(k : Int) else k).natAbs = k := by split <;> omega
        rw [chars, absolute]
        rcases Nat.eq_zero_or_pos k with rfl | positive
        · have zero : m.units = 0 := by rw [units, Nat.zero_mul]
          rw [Double.chars, if_pos zero]
          cases negative <;> rfl
        · have nonzero : m.units ≠ 0 := by
            rw [units]
            exact Nat.ne_of_gt (Nat.mul_pos positive Magnitude.unitsPerOne_pos)
          rw [Double.chars, if_neg nonzero, Magnitude.text_shortest units positive small]
          cases negative with
          | true => exact if_pos (by simpa using positive)
          | false => exact if_neg (by simp)
      · cases found.symm.trans written
        rfl

end PathQuery
