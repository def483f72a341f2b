import PathQuery.Proofs.Json.Numbers
import PathQuery.Value.Json
import PathQuery.Value.Lookup

/-!
# Indices as keys

An index is written in digits, without zeros in front, and that text is the key of the element at
the index (`Value.lookup_list_toString`), as long as the index is a machine word. A small whole
number is written as JSON in the same way (`Value.serialize_ofInt`), so the number of a place, once
written, is the key of the place.
-/

set_option autoImplicit false

namespace PathQuery

/-! ## Keys -/

theorem toList_toString (i : Nat) : (toString i).toList = Nat.toDigits 10 i := by
  rw [Nat.toString_eq_repr, Nat.toList_repr]

/-- Numbers that are printed alike are the same. -/
theorem eq_of_toString_eq {i j : Nat} (same : toString i = toString j) : i = j := by
  have digits : Nat.toDigits 10 i = Nat.toDigits 10 j := by
    rw [← toList_toString, same, toList_toString]
  have number := congrArg (Nat.ofDigitChars 10 · 0) digits
  simpa only [Nat.ofDigitChars_ten_toDigits] using number

/-- Digits are read as the number that they stand for, if it is a machine word. -/
theorem readWord?_of_digits {cs : List Char} (digits : Text.Run Char.isDigit cs) :
    readWord? 10 cs = (some (Nat.ofDigitChars 10 cs 0)).filter (· < UInt64.size) := by
  obtain ⟨c, rest, rfl⟩ := List.exists_cons_of_ne_nil digits.ne_nil
  have unsigned : c ≠ '+' := by
    rintro rfl
    exact absurd (digits.members '+' (List.mem_cons_self ..)) (by decide)
  rw [← natOfDigits?_ten digits]
  simp [readWord?, unsigned]

theorem isCanonicalIndex_toString (i : Nat) : isCanonicalIndex (toString i) = true := by
  unfold isCanonicalIndex
  rw [toList_toString]
  rcases Nat.eq_zero_or_pos i with rfl | positive
  · rfl
  · have digits := run_toDigits i
    have all : (Nat.toDigits 10 i).all Char.isDigit = true :=
      List.all_eq_true.mpr digits.members
    simp [digits.ne_nil, head?_toDigits positive, all]

/-- The digits of a number are read as the number, if it is a machine word. -/
theorem indexOfKey?_toString (i : Nat) :
    indexOfKey? (toString i) = if i < UInt64.size then some i else none := by
  rw [indexOfKey?, if_pos (isCanonicalIndex_toString i), toList_toString,
    readWord?_of_digits (run_toDigits i), Nat.ofDigitChars_ten_toDigits, Option.filter_some]
  simp only [decide_eq_true_eq]

/-- An index in a list that is not too long is a machine word. -/
theorem lt_size_of_short {length i : Nat} (short : length < 2 ^ Magnitude.precision)
    (inside : i < length) : i < UInt64.size :=
  Nat.lt_trans inside (Nat.lt_trans short (by decide))

theorem toString_ne_length (i : Nat) : toString i ≠ "length" := by
  intro same
  have digit : 'l'.isDigit = true := by
    refine (run_toDigits i).members 'l' ?_
    rw [← toList_toString, same]
    decide
  exact absurd digit (by decide)

namespace Value

/-- A list has an element under the digits of its index. -/
theorem lookup_list_toString (items : List Value) {i : Nat} (word : i < UInt64.size) :
    (list items).lookup (toString i) = items[i]?.getD undefined := by
  show lookupElement items (toString i) = _
  rw [lookupElement, if_neg (toString_ne_length i), indexOfKey?_toString, if_pos word]
  rfl

/-- Behind the end of a list there is nothing, whatever the index. -/
theorem lookup_list_toString_of_length_le {items : List Value} {i : Nat}
    (beyond : items.length ≤ i) : (list items).lookup (toString i) = undefined := by
  show lookupElement items (toString i) = _
  rw [lookupElement, if_neg (toString_ne_length i), indexOfKey?_toString]
  split
  · rw [Option.bind_some, List.getElem?_eq_none beyond, Option.getD_none]
  · rfl

/-! ## Numbers -/

/-- The text of an index is its digits. -/
theorem serialize_ofInt {i : Nat} (small : i ≤ JsonNumber.greatestInteger) :
    (number (.ofInt i)).serialize = toString i := by
  have written : JsonNumber.ofDouble? (.ofInt i) = some (.integer i) :=
    JsonNumber.ofDouble?_ofInt (by simpa using small)
  have positive : ¬ ((i : Int) < 0) := by omega
  rw [serialize, toJson?, written]
  simp [Json.text, Json.chars, JsonNumber.chars, positive, Nat.repr_eq_ofList_toDigits]

/-- A place in a list that is not too long is a small number. -/
theorem le_greatestInteger_of_place {items : List Value} {place : Nat} {item : Value}
    (found : items[place]? = some item) (short : items.length < 2 ^ Magnitude.precision) :
    place ≤ JsonNumber.greatestInteger := by
  have inside := (List.getElem?_eq_some_iff.mp found).1
  have limit : 2 ^ Magnitude.precision = JsonNumber.greatestInteger + 1 := by decide
  rw [limit] at short
  omega

/-- Small integers that are the same number are the same. -/
theorem eq_of_ofInt_eq {i j : Int} (smallI : i.natAbs ≤ JsonNumber.greatestInteger)
    (smallJ : j.natAbs ≤ JsonNumber.greatestInteger) (same : Double.ofInt i = .ofInt j) :
    i = j := by
  have written := (JsonNumber.ofDouble?_ofInt smallI).symm.trans
    ((congrArg JsonNumber.ofDouble? same).trans (JsonNumber.ofDouble?_ofInt smallJ))
  exact JsonNumber.integer.inj (Option.some.inj written)

end Value

end PathQuery
