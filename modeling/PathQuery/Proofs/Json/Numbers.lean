import PathQuery.Json.Writer
import PathQuery.Proofs.Double.Numerals

/-!
# Numbers of a document

A number that is written into a document is kept as an integer exactly when it is whole and small
enough (`JsonNumber.Canonical`). Its text is a numeral with a sign (`JsonNumber.exists_numeral`).
The numeral of an integer is its digits, and the numeral of a double rounds to the double. A double
whose text has no point and no exponent is not taken for an integer, since it is too large
(`JsonNumber.exists_numeral_of_real`).
-/

set_option autoImplicit false

namespace PathQuery

open Text

/-! ## Whole magnitudes -/

namespace Magnitude

theorem unitsPerOne_pos : 0 < unitsPerOne := Nat.two_pow_pos _

theorem toNat?_eq_some_iff {m : Magnitude} {n : Nat} :
    m.toNat? = some n ↔ m.units = n * unitsPerOne := by
  unfold toNat?
  constructor
  · intro found
    split at found
    · next whole =>
        cases found
        exact (Nat.div_mul_cancel (Nat.dvd_of_mod_eq_zero whole)).symm
    · exact absurd found nofun
  · intro units
    rw [if_pos (by rw [units, Nat.mul_mod_left]), units, Nat.mul_div_cancel n unitsPerOne_pos]

/-- Whole numbers of at most fifty-three bits are magnitudes. -/
theorem exists_whole {n : Nat} (small : n ≤ JsonNumber.greatestInteger) :
    ∃ m : Magnitude, m.units = n * unitsPerOne := by
  have precise : n ≤ 2 ^ precision := Nat.le_trans small (by decide)
  have bounded : n * unitsPerOne < bound :=
    Nat.lt_of_le_of_lt (Nat.mul_le_mul_right _ small) (by decide +kernel)
  exact ⟨.scaled n unitExponent precise bounded, rfl⟩

theorem nearestUnits_whole {n : Nat} (small : n ≤ JsonNumber.greatestInteger) :
    nearestUnits (n * unitsPerOne) 1 = n * unitsPerOne := by
  obtain ⟨m, units⟩ := exists_whole small
  rw [← units]
  simpa using nearestUnits_mul m Nat.one_pos

end Magnitude

/-- The number with zero for minus zero. -/
def Double.unsignedZero : Double → Double
  | .finite negative m => .finite (negative && m.units != 0) m
  | d => d

namespace Double

theorem unsignedZero_of_units_ne_zero {m : Magnitude} (nonzero : m.units ≠ 0) (negative : Bool) :
    (finite negative m).unsignedZero = finite negative m := by
  simp [unsignedZero, nonzero]

theorem unsignedZero_unsignedZero (d : Double) : d.unsignedZero.unsignedZero = d.unsignedZero := by
  cases d with
  | finite negative m => cases negative <;> simp [unsignedZero]
  | _ => rfl

theorem position_unsignedZero (d : Double) : d.unsignedZero.position = d.position := by
  cases d with
  | nan => rfl
  | infinite negative => rfl
  | finite negative m =>
      by_cases zero : m.units = 0
      · simp [unsignedZero, position, zero]
      · simp [unsignedZero, position, zero]

/-- A place other than that of the zeros is the place of one number. -/
theorem eq_of_position_eq {d : Double} {negative : Bool} {m : Magnitude} (nonzero : m.units ≠ 0)
    (same : d.position = (finite negative m).position) : d = finite negative m := by
  have inside := m.units_lt
  cases d with
  | nan => exact nomatch same
  | infinite negative' =>
      have place := Option.some.inj same
      generalize Magnitude.bound = bound at place inside
      cases negative <;> cases negative' <;> simp at place <;> omega
  | finite negative' m' =>
      have place := Option.some.inj same
      have units : m'.units = m.units := by
        cases negative <;> cases negative' <;> simp at place <;> omega
      obtain rfl := Magnitude.eq_of_units units
      cases negative <;> cases negative' <;> simp at place <;> first | rfl | omega

end Double

namespace JsonNumber

/-- Whole numbers that are small enough are integers, and all others are doubles. -/
def Canonical : JsonNumber → Prop
  | integer i => i.natAbs ≤ greatestInteger
  | real _ m => ∀ n, m.toNat? = some n → greatestInteger < n

/-- A finite double is written as an integer if it is a small whole number, and as itself if not. -/
theorem ofDouble?_finite (negative : Bool) (m : Magnitude) :
    (∃ k ≤ greatestInteger, m.units = k * Magnitude.unitsPerOne ∧
      ofDouble? (.finite negative m) = some (integer (if negative then -k else k))) ∨
    (∀ k, m.toNat? = some k → greatestInteger < k) ∧
      ofDouble? (.finite negative m) = some (real negative m) := by
  cases whole : m.toNat? with
  | none => exact .inr ⟨nofun, by simp only [ofDouble?, whole]⟩
  | some k =>
      by_cases small : k ≤ greatestInteger
      · refine .inl ⟨k, small, Magnitude.toNat?_eq_some_iff.mp whole, ?_⟩
        simp only [ofDouble?, whole, if_pos small]
      · refine .inr ⟨?_, by simp only [ofDouble?, whole, if_neg small]⟩
        rintro _ ⟨⟩
        exact Nat.lt_of_not_le small

/-- A canonical double is not zero. -/
theorem Canonical.units_ne_zero {negative : Bool} {m : Magnitude}
    (canonical : (real negative m).Canonical) : m.units ≠ 0 := by
  intro zero
  have whole : m.toNat? = some 0 := Magnitude.toNat?_eq_some_iff.mpr (by rw [zero, Nat.zero_mul])
  exact absurd (canonical 0 whole) (Nat.not_lt_zero _)

/-- Every number that is written is canonical. -/
theorem canonical_of_ofDouble? {d : Double} {n : JsonNumber} (found : ofDouble? d = some n) :
    n.Canonical := by
  cases d with
  | nan => exact absurd found nofun
  | infinite negative => exact absurd found nofun
  | finite negative m =>
      rcases ofDouble?_finite negative m with ⟨k, small, -, written⟩ | ⟨large, written⟩
      · cases found.symm.trans written
        show (if negative then -(k : Int) else k).natAbs ≤ greatestInteger
        split <;> omega
      · cases found.symm.trans written
        exact large

theorem ofInt_eq {i : Int} {m : Magnitude} (units : m.units = i.natAbs * Magnitude.unitsPerOne) :
    Double.ofInt i = .finite (decide (i < 0)) m := by
  refine Double.nearest_eq ?_ _
  rw [← units]
  simpa using m.nearestUnits_mul Nat.one_pos

/-- A small integer is written as it is. -/
theorem ofDouble?_ofInt {i : Int} (small : i.natAbs ≤ greatestInteger) :
    ofDouble? (.ofInt i) = some (integer i) := by
  obtain ⟨m, units⟩ := Magnitude.exists_whole small
  rw [ofInt_eq units]
  rcases ofDouble?_finite (decide (i < 0)) m with ⟨k, -, same, written⟩ | ⟨large, -⟩
  · have absolute : k = i.natAbs :=
      Nat.eq_of_mul_eq_mul_right Magnitude.unitsPerOne_pos (same.symm.trans units)
    rw [written, absolute]
    simp only [decide_eq_true_eq, Option.some.injEq, integer.injEq]
    omega
  · exact absurd small (Nat.not_le_of_lt (large _ (Magnitude.toNat?_eq_some_iff.mpr units)))

/-- The number that is written stands for the number it was, apart from the sign of zero. -/
theorem toDouble_of_ofDouble? {d : Double} {n : JsonNumber} (found : ofDouble? d = some n) :
    n.toDouble = d.unsignedZero := by
  cases d with
  | nan => exact absurd found nofun
  | infinite negative => exact absurd found nofun
  | finite negative m =>
      rcases ofDouble?_finite negative m with ⟨k, -, units, written⟩ | ⟨large, written⟩
      · cases found.symm.trans written
        have absolute : (if negative then -(k : Int) else k).natAbs = k := by split <;> omega
        have zero : m.units = 0 ↔ k = 0 := by
          rw [units, Nat.mul_eq_zero]
          exact or_iff_left (Nat.ne_of_gt Magnitude.unitsPerOne_pos)
        have sign : decide ((if negative then -(k : Int) else k) < 0) =
            (negative && m.units != 0) := by
          rw [Bool.eq_iff_iff]
          cases negative
          · simp
          · simp only [if_true, decide_eq_true_eq, Bool.true_and, bne_iff_ne, ne_eq, zero]
            omega
        rw [toDouble, ofInt_eq (by rw [absolute]; exact units), sign]
        rfl
      · cases found.symm.trans written
        have nonzero : m.units ≠ 0 := Canonical.units_ne_zero (show (real negative m).Canonical
          from large)
        simp [toDouble, Double.unsignedZero, nonzero]

end JsonNumber

/-! ## The word of a number -/

/-- A minus sign, or nothing. -/
def Numeral.signChars (negative : Bool) : List Char := if negative then ['-'] else []

/-- A numeral with a sign has digits, a point, the letter of an exponent and signs. -/
theorem Numeral.mem_signedNumeral {n : Numeral} (wellFormed : n.WellFormed) (negative : Bool) :
    ∀ c ∈ signChars negative ++ n.chars, c.isDigit = true ∨ c ∈ ['.', 'e', '+', '-'] := by
  intro c member
  rcases List.mem_append.mp member with sign | inside
  · cases negative with
    | true =>
        obtain rfl := List.mem_singleton.mp sign
        exact .inr (by decide)
    | false => exact absurd sign List.not_mem_nil
  · exact mem_chars wellFormed c inside

namespace Json.Token

/-- A numeral with a sign is read as the number of the numeral. -/
theorem number?_signChars {n : Numeral} (wellFormed : n.WellFormed) (negative : Bool) :
    number? (Numeral.signChars negative ++ n.chars) = numberOfNumeral? negative n := by
  have read := Numeral.read?_chars wellFormed
  have strict := wellFormed.isStrict
  cases negative with
  | true => simp [Numeral.signChars, number?, read, Option.filter_some, strict]
  | false =>
      obtain ⟨first, rest, chars, digit⟩ := Numeral.exists_first wellFormed
      have unsigned : first ≠ '-' := by
        rintro rfl
        exact absurd digit (by decide)
      rw [chars] at read
      simp [Numeral.signChars, number?, chars, read, Option.filter_some, strict, unsigned]

/-- A numeral that is a row of digits is a whole number. -/
theorem coefficient_of_isWhole {n : Numeral} {m : Magnitude} (whole : n.isWhole = true)
    (rounds : n.toDecimal.roundsTo m = true)
    (small : n.toDecimal.coefficient ≤ JsonNumber.greatestInteger) :
    m.toNat? = some n.toDecimal.coefficient := by
  have exponent : n.toDecimal.exponent = 0 := by
    obtain ⟨whole', fraction, exponent⟩ := n
    cases fraction <;> cases exponent <;> simp_all [Numeral.isWhole, Numeral.toDecimal]
  have num : n.toDecimal.unitsNum = n.toDecimal.coefficient * Magnitude.unitsPerOne := by
    simp [Decimal.unitsNum, exponent]
  have den : n.toDecimal.unitsDen = 1 := by simp [Decimal.unitsDen, exponent]
  rw [Decimal.roundsTo, num, den, Magnitude.nearestUnits_whole small, beq_iff_eq] at rounds
  exact Magnitude.toNat?_eq_some_iff.mpr rounds.symm

/-- A row of digits that is a small number is an integer, unless it is minus zero. -/
theorem numberOfNumeral?_of_isWhole {n : Numeral} {negative : Bool} (whole : n.isWhole = true)
    (small : n.toDecimal.coefficient ≤ JsonNumber.greatestInteger)
    (nonzero : negative = true → n.toDecimal.coefficient ≠ 0) :
    numberOfNumeral? negative n = some (.integer
      (if negative = true then -n.toDecimal.coefficient else n.toDecimal.coefficient)) := by
  have sign : (!(negative && n.toDecimal.coefficient == 0)) = true := by
    cases negative with
    | false => rfl
    | true => simpa using nonzero rfl
  unfold numberOfNumeral?
  dsimp only
  rw [whole, decide_eq_true small, sign]
  rfl

/-- A numeral that is not a small whole number is read by scaling. -/
theorem numberOfNumeral?_of_large {n : Numeral}
    (large : n.isWhole = true → JsonNumber.greatestInteger < n.toDecimal.coefficient)
    (negative : Bool) : numberOfNumeral? negative n = n.leading.scaled?.map (.real negative) := by
  have notInteger : (n.isWhole && decide (n.toDecimal.coefficient ≤ JsonNumber.greatestInteger) &&
      !(negative && n.toDecimal.coefficient == 0)) = false := by
    cases whole : n.isWhole with
    | false => rfl
    | true => simp [Nat.not_le_of_lt (large whole)]
  unfold numberOfNumeral?
  dsimp only
  rw [notInteger]
  rfl

theorem ofWord?_of_number? {word : List Char} {n : JsonNumber} (found : number? word = some n) :
    ofWord? word = some (.number n) := by
  have other {name : List Char} (none : number? name = none) : word ≠ name := by
    rintro rfl
    exact absurd (found.symm.trans none) nofun
  have null : word ≠ "null".toList := other (by decide)
  have true' : word ≠ "true".toList := other (by decide)
  have false' : word ≠ "false".toList := other (by decide)
  rw [ofWord?, if_neg null, if_neg true', if_neg false', found]
  rfl

end Json.Token

theorem Numeral.signChars_append (negative : Bool) (digits : List Char) :
    signChars negative ++ digits = if negative then '-' :: digits else digits := by
  cases negative with
  | true => rfl
  | false => rfl

/-- A minus sign before the text of the magnitude is the text of a double. -/
theorem Double.chars_finite {m : Magnitude} (nonzero : m.units ≠ 0) (negative : Bool) :
    (Double.finite negative m).chars = Numeral.signChars negative ++ m.shortest.text := by
  rw [Numeral.signChars_append]
  exact if_neg nonzero

namespace JsonNumber

open Json (Token)

/-- The digits of an integer are a numeral, which is read as the integer. -/
theorem exists_numeral_of_integer {i : Int} (canonical : (integer i).Canonical) :
    ∃ (negative : Bool) (numeral : Numeral), numeral.WellFormed ∧
      (integer i).chars = Numeral.signChars negative ++ numeral.chars ∧
      Token.numberOfNumeral? negative numeral = some (integer i) := by
  refine ⟨decide (i < 0), ⟨Nat.toDigits 10 i.natAbs, none, none⟩, ⟨run_toDigits _, ?_, nofun⟩,
    ?_, ?_⟩
  · rcases Nat.eq_zero_or_pos i.natAbs with zero | positive
    · exact .inl (by rw [zero, Nat.toDigits_zero])
    · exact .inr (head?_toDigits positive)
  · by_cases negative : i < 0 <;> simp [chars, Numeral.signChars, Numeral.chars,
      Numeral.fractionChars, Numeral.exponentChars, negative]
  · have coefficient : (Numeral.mk (Nat.toDigits 10 i.natAbs) none none).toDecimal.coefficient =
        i.natAbs := by simp [Numeral.toDecimal]
    have signed : (if decide (i < 0) = true then -(i.natAbs : Int) else i.natAbs) = i := by
      simp only [decide_eq_true_eq]
      omega
    refine (Token.numberOfNumeral?_of_isWhole rfl ?_ ?_).trans ?_
    · rw [coefficient]
      exact canonical
    · intro negative zero
      rw [coefficient] at zero
      rw [decide_eq_true_eq] at negative
      omega
    · rw [coefficient, signed]

/-- The text of a double is a numeral that rounds to the double, and that is too large for an
integer if it has neither a point nor an exponent. -/
theorem exists_numeral_of_real {negative : Bool} {m : Magnitude}
    (canonical : (real negative m).Canonical) :
    ∃ numeral : Numeral, numeral.WellFormed ∧
      (real negative m).chars = Numeral.signChars negative ++ numeral.chars ∧
      numeral.toDecimal.roundsTo m = true ∧
      (numeral.isWhole = true → greatestInteger < numeral.toDecimal.coefficient) := by
  have nonzero : m.units ≠ 0 := canonical.units_ne_zero
  obtain ⟨numeral, wellFormed, text, rounds⟩ :=
    Magnitude.exists_numeral (Nat.pos_of_ne_zero nonzero)
  refine ⟨numeral, wellFormed, ?_, rounds, fun whole => Nat.lt_of_not_le fun small => ?_⟩
  · rw [text]
    exact Double.chars_finite nonzero negative
  · exact Nat.not_lt_of_le small (canonical _ (Token.coefficient_of_isWhole whole rounds small))

/-- **The text of a canonical number is a numeral with a sign.** -/
theorem exists_numeral {n : JsonNumber} (canonical : n.Canonical) :
    ∃ (negative : Bool) (numeral : Numeral), numeral.WellFormed ∧
      n.chars = Numeral.signChars negative ++ numeral.chars := by
  cases n with
  | integer i =>
      obtain ⟨negative, numeral, wellFormed, text, -⟩ := exists_numeral_of_integer canonical
      exact ⟨negative, numeral, wellFormed, text⟩
  | real negative m =>
      obtain ⟨numeral, wellFormed, text, -⟩ := exists_numeral_of_real canonical
      exact ⟨negative, numeral, wellFormed, text⟩

end JsonNumber
end PathQuery
