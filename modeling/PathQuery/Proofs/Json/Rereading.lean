import PathQuery.Proofs.Double.ReadBack
import PathQuery.Proofs.Double.Scaling
import PathQuery.Proofs.Double.WholeNumbers

/-!
# Numbers of a document, read again

The text of a number of a document is read as a number (`JsonNumber.number?_chars`), which is called
the number reread. Since reading scales, it need not be the number that was written: a double comes
back if its text is a plain numeral (`Double.reread_of_isPlain`), as those of all integers are, and
others may differ in their last bits (`Double.reread_ne`). The text itself tells the number all the
same (`JsonNumber.eq_of_chars_eq`).
-/

set_option autoImplicit false

namespace PathQuery

open Json (Token)

/-! ## The two largest doubles -/

namespace Magnitude

/-- The significant bits of the largest double, or of the one below it. -/
def topBits : Bool → Nat
  | true => 0x1fffffffffffff
  | false => 0x1ffffffffffffe

/-- The largest double, or the one below it. -/
def top (last : Bool) : Magnitude :=
  .scaled (topBits last) (bits - precision) (by cases last <;> decide)
    (by cases last <;> decide +kernel)

theorem exists_topBits {k : Nat} (large : 0x3ffffffffffffa < 2 * k)
    (bounded : 2 * k < 0x40000000000000) : ∃ last, k = topBits last := by
  have two : k = 0x1fffffffffffff ∨ k = 0x1ffffffffffffe := by omega
  rcases two with rfl | rfl
  · exact ⟨true, rfl⟩
  · exact ⟨false, rfl⟩

theorem exists_top {m : Magnitude} (large : halfStep * 0x3ffffffffffffa < m.units) :
    ∃ last, m = top last := by
  have step : 2 ^ (bits - precision) = halfStep * 2 := by
    rw [halfStep, ← Nat.pow_succ]
    exact congrArg (2 ^ ·) (by decide)
  have power : 2 ^ (bits - 1) ≤ m.units :=
    Nat.le_trans (by decide +kernel) (Nat.le_of_lt large)
  have nonzero : m.units ≠ 0 := Nat.ne_of_gt (Nat.lt_of_lt_of_le (Nat.two_pow_pos _) power)
  have log : m.units.log2 = bits - 1 :=
    Nat.le_antisymm (Nat.le_sub_one_of_lt ((Nat.log2_lt nonzero).mpr m.units_lt))
      ((Nat.le_log2 nonzero).mpr power)
  -- The units are a multiple of the step between the largest doubles.
  obtain ⟨k, units⟩ := m.step_dvd
  rw [log, show bits - 1 + 1 - precision = bits - precision by decide] at units
  have bounded := m.units_lt
  rw [bound_eq, units, step, Nat.mul_assoc] at bounded
  rw [units, step, Nat.mul_assoc] at large
  obtain ⟨last, rfl⟩ :=
    exists_topBits (Nat.lt_of_mul_lt_mul_left large) (Nat.lt_of_mul_lt_mul_left bounded)
  rw [Nat.mul_comm] at units
  exact ⟨last, eq_of_units units⟩

end Magnitude

theorem Json.Token.isSome_number?_top (negative last : Bool) :
    (number? (Double.finite negative (.top last)).chars).isSome = true := by
  cases negative <;> cases last <;> decide +kernel

namespace JsonNumber

/-! ## Numbers are read -/

/-- What the text of the number is read as. -/
def reread (n : JsonNumber) : JsonNumber := (Token.number? n.chars).getD n

/-- **The text of a number is read as a number.** -/
theorem number?_chars {n : JsonNumber} (canonical : n.Canonical) :
    Token.number? n.chars = some n.reread := by
  suffices some : (Token.number? n.chars).isSome = true by
    obtain ⟨read, found⟩ := Option.isSome_iff_exists.mp some
    rw [reread, found]
    rfl
  cases n with
  | integer i =>
      obtain ⟨negative, numeral, wellFormed, text, read⟩ := exists_numeral_of_integer canonical
      rw [text, Token.number?_signChars wellFormed, read]
      rfl
  | real negative m =>
      by_cases large : Magnitude.halfStep * 0x3ffffffffffffa < m.units
      · obtain ⟨last, rfl⟩ := Magnitude.exists_top large
        exact Token.isSome_number?_top negative last
      · obtain ⟨numeral, wellFormed, text, rounds, notInteger⟩ := exists_numeral_of_real canonical
        obtain ⟨m', scaled⟩ := Numeral.exists_scaled?_leading rounds (Nat.le_of_not_lt large)
        rw [text, Token.number?_signChars wellFormed,
          Token.numberOfNumeral?_of_large notInteger, scaled]
        rfl

/-- An integer is read as itself. -/
theorem reread_integer {i : Int} (canonical : (integer i).Canonical) :
    (integer i).reread = integer i := by
  obtain ⟨negative, numeral, wellFormed, text, read⟩ := exists_numeral_of_integer canonical
  rw [reread, text, Token.number?_signChars wellFormed, read]
  rfl

/-! ## The text tells the number -/

theorem ofDouble?_toDouble {n : JsonNumber} (canonical : n.Canonical) :
    ofDouble? n.toDouble = some n := by
  cases n with
  | integer i => exact ofDouble?_ofInt canonical
  | real negative m =>
      rcases ofDouble?_finite negative m with ⟨k, small, units, -⟩ | ⟨-, written⟩
      · have whole := Magnitude.toNat?_eq_some_iff.mpr units
        exact absurd small (Nat.not_le_of_lt (canonical k whole))
      · exact written

/-- The text of a number is read leniently as the number. -/
theorem ofChars_chars {n : JsonNumber} (canonical : n.Canonical) :
    Double.ofChars n.chars = n.toDouble := by
  have written := ofDouble?_toDouble canonical
  have number : n.toDouble ≠ .nan := by
    intro nan
    rw [nan] at written
    exact absurd written nofun
  rw [chars_of_ofDouble? written, Double.ofChars_chars number, ← toDouble_of_ofDouble? written]

/-- **Numbers that are written alike are the same.** -/
theorem eq_of_chars_eq {n n' : JsonNumber} (canonical : n.Canonical) (canonical' : n'.Canonical)
    (same : n.chars = n'.chars) : n = n' := by
  have double : n.toDouble = n'.toDouble := by
    rw [← ofChars_chars canonical, same, ofChars_chars canonical']
  have written := ofDouble?_toDouble canonical
  rw [double, ofDouble?_toDouble canonical'] at written
  exact (Option.some.inj written).symm

end JsonNumber

/-! ## Doubles -/

namespace Double

/-- What the text of the number is read as in a document, NaN if it is not read. -/
def reread (d : Double) : Double :=
  ((Token.number? d.chars).map JsonNumber.toDouble).getD nan

/-- Both zeros have one text. -/
theorem chars_unsignedZero (d : Double) : d.unsignedZero.chars = d.chars := by
  cases d with
  | finite negative m =>
      by_cases zero : m.units = 0
      · rw [unsignedZero, chars, chars, if_pos zero, if_pos zero]
      · have nonzero : (m.units != 0) = true := bne_iff_ne.mpr zero
        rw [unsignedZero, nonzero, Bool.and_true]
  | _ => rfl

theorem reread_unsignedZero (d : Double) : d.unsignedZero.reread = d.reread := by
  rw [reread, chars_unsignedZero, reread]

theorem reread_of_ofDouble? {d : Double} {n : JsonNumber}
    (found : JsonNumber.ofDouble? d = some n) :
    d.reread = n.reread.toDouble := by
  rw [reread, ← JsonNumber.chars_of_ofDouble? found,
    JsonNumber.number?_chars (JsonNumber.canonical_of_ofDouble? found)]
  rfl

/-- The text of the number is a plain numeral, perhaps behind a sign. -/
def isPlain (d : Double) : Bool :=
  (Numeral.read? (Numeral.splitSign d.chars).2).any Numeral.isPlain

/-- **A number whose text is a plain numeral is read as itself**, apart from the sign of zero. -/
theorem reread_of_isPlain {d : Double} (plain : d.isPlain = true) : d.reread = d.unsignedZero := by
  cases d with
  | nan => exact absurd plain (by decide)
  | infinite negative => exact absurd plain (by cases negative <;> decide)
  | finite negative m =>
      obtain ⟨n, found⟩ : ∃ n, JsonNumber.ofDouble? (finite negative m) = some n := by
        rcases JsonNumber.ofDouble?_finite negative m with ⟨k, -, -, written⟩ | ⟨-, written⟩
        · exact ⟨_, written⟩
        · exact ⟨_, written⟩
      have canonical := JsonNumber.canonical_of_ofDouble? found
      rw [reread_of_ofDouble? found, ← JsonNumber.toDouble_of_ofDouble? found]
      refine congrArg JsonNumber.toDouble ?_
      rw [isPlain, ← JsonNumber.chars_of_ofDouble? found] at plain
      cases n with
      | integer i => exact JsonNumber.reread_integer canonical
      | real sign m' =>
          obtain ⟨numeral, wellFormed, text, rounds, large⟩ :=
            JsonNumber.exists_numeral_of_real canonical
          rw [text, Numeral.splitSign_signChars wellFormed, Numeral.read?_chars wellFormed,
            Option.any_some] at plain
          have nearest : Magnitude.nearest? numeral.toDecimal.unitsNum numeral.toDecimal.unitsDen =
              some m' := Magnitude.nearest?_eq (by simpa [Decimal.roundsTo] using rounds)
          rw [JsonNumber.reread, text, Json.Token.number?_signChars wellFormed,
            Json.Token.numberOfNumeral?_of_large large, Numeral.scaled?_leading_of_isPlain plain,
            nearest]
          rfl

/-- A number that is reread as a number at its place is read as itself. -/
theorem reread_of_position_eq {d : Double} (same : d.reread.position = d.position) :
    d.reread = d.unsignedZero := by
  cases d with
  | nan => rfl
  | infinite negative =>
      have unread : (infinite negative).reread = nan := by cases negative <;> rfl
      rw [unread] at same
      exact nomatch same
  | finite negative m =>
      by_cases zero : m.units = 0
      · obtain rfl : m = .zero := Magnitude.eq_of_units zero
        exact reread_of_isPlain (by cases negative <;> decide)
      · rw [eq_of_position_eq zero same, unsignedZero_of_units_ne_zero zero]

/-- Apart from the sign of zero a number is read as itself exactly if it is read as itself without
one. -/
theorem unsignedZero_reread_eq_iff (d : Double) :
    d.reread.unsignedZero = d.unsignedZero ↔ d.reread = d.unsignedZero := by
  constructor
  · intro same
    refine reread_of_position_eq ?_
    rw [← position_unsignedZero, same, position_unsignedZero]
  · intro same
    rw [same, unsignedZero_unsignedZero]

/-- The text of this number is 110395.43015404869, and what is read is the double below it. -/
theorem reread_ne :
    (ofBits 0x40faf3b6e1e93636).reread ≠ (ofBits 0x40faf3b6e1e93636).unsignedZero := by
  decide +kernel

end Double
end PathQuery
