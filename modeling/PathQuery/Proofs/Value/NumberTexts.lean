import PathQuery.Proofs.Double.ReadBack
import PathQuery.Proofs.Value.Comparison

/-!
# A number and its text are equal

A number that is not NaN is what its text is read as (`Double.equal_ofText`). Loose equality reads
the text of whatever stands beside a number, so a number equals its text, and every list whose text
is that text.
-/

set_option autoImplicit false

namespace PathQuery

namespace Double

/-- Numbers at one place are equal. -/
theorem equal_of_position_eq {x y : Double} (number : x ≠ nan) (same : x.position = y.position) :
    x.equal y = true := by
  unfold equal
  rw [← same]
  cases x with
  | nan => exact absurd rfl number
  | infinite negative => exact beq_self_eq_true _
  | finite negative m => exact beq_self_eq_true _

theorem ofText_eq_unsignedZero {n : Double} (number : n ≠ nan) :
    ofText n.text = n.unsignedZero := by
  unfold ofText text
  rw [String.toList_ofList]
  exact ofChars_chars number

/-- **The text of a number is read as a number that is equal to it.** -/
theorem equal_ofText {n : Double} (number : n ≠ nan) : n.equal (ofText n.text) = true := by
  rw [ofText_eq_unsignedZero number]
  exact equal_of_position_eq number n.position_unsignedZero.symm

/-- Numbers that are printed alike are equal. -/
theorem equal_of_text_eq {n n' : Double} (number : n ≠ nan) (number' : n' ≠ nan)
    (same : n.text = n'.text) : n.equal n' = true := by
  have places : n.unsignedZero = n'.unsignedZero := by
    rw [← ofText_eq_unsignedZero number, same, ofText_eq_unsignedZero number']
  refine equal_of_position_eq number ?_
  rw [← n.position_unsignedZero, places, n'.position_unsignedZero]

theorem unsignedZero_of_equal_zero {n : Double} (same : n.equal zero = true) :
    n.unsignedZero = zero := by
  cases n with
  | nan => exact absurd same Bool.false_ne_true
  | infinite negative =>
      have apart : (infinite negative).equal zero = false := by
        cases negative <;> decide +kernel
      exact absurd (apart.symm.trans same) Bool.false_ne_true
  | finite negative m =>
      have units : m.units = 0 := by
        have place : (if negative then -(m.units : Int) else m.units) = 0 := eq_of_beq same
        split at place <;> omega
      have none : m = .zero := Magnitude.eq_of_units units
      rw [none]
      cases negative <;> rfl

end Double

namespace Value

theorem text_list_number (n : Double) : (list [number n]).text = n.text := by
  simp [text, itemTexts, isNullish]

theorem looseEqual_numberText {n : Double} (number' : n ≠ .nan) :
    (number n).looseEqual (string n.text) = true := by
  rw [looseEqual_of_number rfl rfl (.inl rfl)]
  exact Double.equal_ofText number'

theorem looseEqual_list_number {n : Double} (number' : n ≠ .nan) :
    (list [number n]).looseEqual (number n) = true := by
  rw [looseEqual_text rfl rfl, text_list_number, looseEqual_comm]
  exact looseEqual_numberText number'

/-- **A number equals its text.** A number that is not NaN, an infinity for one, is equal to what
its text is read as, and both zeros are read as zero. No other number is printed alike. So loose
equality finds the number equal to its text, and to a list that holds nothing else. -/
theorem number_equals_text (n : Double) (number' : n ≠ .nan) :
    (Double.ofText n.text).equal n = true ∧
      (n.equal .zero = true → Double.ofText n.text = .zero) ∧
      (∀ n' : Double, n' ≠ .nan → n'.text = n.text → n'.equal n = true) ∧
      ((number n).looseEqual (string n.text) = true ∧
        (string n.text).looseEqual (number n) = true) ∧
      (number n).looseEqual (list [number n]) = true ∧
        (list [number n]).looseEqual (number n) = true := by
  refine ⟨?reads, ?zero, ?apart, ⟨?_, ?_⟩, ?_, ?_⟩
  case reads =>
    rw [Double.equal_comm]
    exact Double.equal_ofText number'
  case zero =>
    intro zero
    rw [Double.ofText_eq_unsignedZero number']
    exact Double.unsignedZero_of_equal_zero zero
  case apart =>
    intro n' other same
    exact Double.equal_of_text_eq other number' same
  · exact looseEqual_numberText number'
  · rw [looseEqual_comm]
    exact looseEqual_numberText number'
  · rw [looseEqual_comm]
    exact looseEqual_list_number number'
  · exact looseEqual_list_number number'

/-- The least positive number, whose text has an exponent, and minus zero. -/
theorem number_equals_text_least :
    Double.ofBits 1 ≠ .nan ∧ (Double.ofBits 1).text = "5e-324" ∧
      (number (.ofBits 1)).looseEqual (string "5e-324") = true ∧
      (list [number (.ofBits 1)]).looseEqual (number (.ofBits 1)) = true ∧
      Double.finite true .zero ≠ .nan ∧ Double.ofText (Double.finite true .zero).text = .zero ∧
      Double.zero ≠ .nan ∧ Double.zero.text = (Double.finite true .zero).text ∧
      Double.zero.equal (.finite true .zero) = true := by
  have least : Double.ofBits 1 ≠ .nan := by decide +kernel
  have text : (Double.ofBits 1).text = "5e-324" := by decide +kernel
  obtain ⟨-, -, -, ⟨equalsText, -⟩, -, list⟩ := number_equals_text (.ofBits 1) least
  obtain ⟨-, zero, apart, -⟩ := number_equals_text (.finite true .zero) nofun
  have place : (Double.finite true .zero).equal .zero = true := by decide +kernel
  have alike : Double.zero.text = (Double.finite true .zero).text := by decide +kernel
  refine ⟨least, text, ?_, list, nofun, zero place, nofun, alike, apart _ nofun alike⟩
  rw [← text]
  exact equalsText

end Value
end PathQuery
