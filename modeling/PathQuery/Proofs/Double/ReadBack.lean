import PathQuery.Proofs.Double.DecimalTexts
import PathQuery.Proofs.Json.Numbers
import PathQuery.Proofs.Text.Blanks

/-!
# Numbers, read back from their texts

The text of a number is the word for an infinity or a numeral with a sign. Such a numeral is the
text of a decimal, has no blanks around it and begins with the prefix of no base, so it is read as
the number it rounds to (`Double.ofChars_signedNumeral`). So the text of a number is read as the
number, apart from the sign of zero (`Double.ofChars_chars`).
-/

set_option autoImplicit false

namespace PathQuery

open Text

namespace Numeral

variable {n : Numeral}

/-- No blank stands in a numeral with a sign. -/
theorem trimmed_signedNumeral (wellFormed : n.WellFormed) (negative : Bool) :
    Trimmed (signChars negative ++ n.chars) := by
  have visible : ∀ c ∈ signChars negative ++ n.chars, isBlank c = false := by
    intro c member
    rcases mem_signedNumeral wellFormed negative c member with digit | other
    · obtain ⟨low, high⟩ : '0' ≤ c ∧ c ≤ '9' := Char.isDigit_iff_toNat.mp digit
      exact isBlank_eq_false ⟨Char.le_trans (by decide) low, Char.le_trans high (by decide)⟩
    · have marks : ∀ d ∈ ['.', 'e', '+', '-'], (!isBlank d) = true := List.all_eq_true.mp rfl
      simpa using marks c other
  refine ⟨fun c first => visible c (List.mem_of_mem_head? first), fun c last => ?_⟩
  exact visible c (List.mem_reverse.mp (List.mem_of_mem_head? last))

theorem signText_signChars (negative : Bool) : SignText (signChars negative) negative := by
  cases negative with
  | true => exact .minus
  | false => exact .absent

/-- A numeral with a sign is the text of a decimal. -/
theorem signedDecimal (wellFormed : n.WellFormed) (negative : Bool) :
    SignedDecimal (signChars negative ++ n.chars) negative n.toDecimal :=
  ⟨signChars negative, n.chars, signText_signChars negative,
    unsignedDecimal_of_read? (read?_chars wellFormed), rfl⟩

theorem splitSign_signChars (wellFormed : n.WellFormed) (negative : Bool) :
    splitSign (signChars negative ++ n.chars) = (negative, n.chars) :=
  splitSign_append (signText_signChars negative)
    (stops_sign (unsignedDecimal_of_read? (read?_chars wellFormed)))

/-- The second character of a numeral announces no base, since only a zero that stands alone is
followed by something else than a digit. -/
theorem baseOfLetter?_of_chars (wellFormed : n.WellFormed) {letter : Char} {digits : List Char}
    (split : n.chars = '0' :: letter :: digits) : baseOfLetter? letter = none := by
  have begins : n.whole.head? = some '0' := by
    obtain ⟨first, rest, whole⟩ := List.exists_cons_of_ne_nil wellFormed.whole.ne_nil
    rw [chars, whole, List.cons_append] at split
    rw [whole, (List.cons.inj split).1]
    rfl
  rcases wellFormed.begun with alone | other
  · have after : fractionChars n.fraction ++ exponentChars n.exponent = letter :: digits := by
      rw [chars, alone] at split
      exact (List.cons.inj split).2
    cases places : n.fraction with
    | some places' =>
        rw [places] at after
        rw [← (List.cons.inj after).1]
        rfl
    | none =>
        cases power : n.exponent with
        | some e =>
            rw [places, power] at after
            rw [← (List.cons.inj after).1]
            rfl
        | none =>
            rw [places, power] at after
            exact absurd after (List.cons_ne_nil _ _).symm
  · exact absurd begins other

theorem unprefixed_signedNumeral (wellFormed : n.WellFormed) (negative : Bool) :
    Double.Unprefixed (signChars negative ++ n.chars) := by
  refine Double.unprefixed_iff.mpr fun letter digits same => ?_
  cases negative with
  | true => exact absurd (List.cons.inj same).1 (by decide)
  | false => exact baseOfLetter?_of_chars wellFormed same

end Numeral

namespace Double

/-- **A numeral with a sign is read as the number that it rounds to.** -/
theorem ofChars_signedNumeral {n : Numeral} (wellFormed : n.WellFormed) (negative : Bool) :
    ofChars (Numeral.signChars negative ++ n.chars) = n.toDouble negative := by
  have trimmed := (Numeral.trimmed_signedNumeral wellFormed negative).trim_eq
  refine ofChars_of_signedDecimal ?_ ?_
  · rw [trimmed]
    exact Numeral.signedDecimal wellFormed negative
  · rw [trimmed]
    exact Numeral.unprefixed_signedNumeral wellFormed negative

/-- **The text of a number is read as the number**, apart from the sign of zero. -/
theorem ofChars_chars {n : Double} (number : n ≠ nan) : ofChars n.chars = n.unsignedZero := by
  cases n with
  | nan => exact absurd rfl number
  | infinite negative => cases negative <;> decide
  | finite negative m =>
      by_cases zero : m.units = 0
      · have digit : (finite negative m).chars = ['0'] := if_pos zero
        have none : m = Magnitude.zero := Magnitude.eq_of_units zero
        rw [digit, unsignedZero, zero, none]
        cases negative <;> decide +kernel
      · obtain ⟨numeral, wellFormed, chars, rounds⟩ :=
          Magnitude.exists_numeral (Nat.pos_of_ne_zero zero)
        rw [chars_finite zero, ← chars, ofChars_signedNumeral wellFormed, Numeral.toDouble,
          Decimal.toDouble_of_roundsTo rounds]
        simp [unsignedZero, zero]

end Double
end PathQuery
