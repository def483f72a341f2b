import PathQuery.Double.Reading
import PathQuery.Proofs.Double.Nearest

/-!
# Numbers of base sixteen, eight and two

What follows `0x`, `0o` or `0b` stands for a number if it is digits of the base and nothing else
(`RadixNumeral`), and is read as the double nearest to it. Reading departs from this in two ways. A
plus sign may stand before the digits, and numbers from `2 ^ 64` on are not read at all
(`readWord?_eq_some_iff`). Everywhere else it keeps to it (`Double.ofText_radix`).
-/

set_option autoImplicit false

namespace PathQuery

/-! ## Digits -/

/-- The digits in the order of what they are worth, with small letters. -/
def smallDigits : List Char := "0123456789abcdef".toList

/-- The digits in the order of what they are worth, with capital letters. -/
def capitalDigits : List Char := "0123456789ABCDEF".toList

/-- The character is the digit of the base that is worth `d`. -/
def IsDigit (base : Nat) (c : Char) (d : Nat) : Prop :=
  d < base ∧ (smallDigits[d]? = some c ∨ capitalDigits[d]? = some c)

/-- The text is digits of the base and nothing else, and stands for the number. -/
inductive RadixNumeral (base : Nat) : List Char → Nat → Prop
  | digit {c : Char} {d : Nat} (digit : IsDigit base c d) : RadixNumeral base [c] d
  | append {cs : List Char} {n : Nat} {c : Char} {d : Nat} (front : RadixNumeral base cs n)
      (last : IsDigit base c d) : RadixNumeral base (cs ++ [c]) (n * base + d)

theorem digitValue?_of_getElem? {c : Char} {d : Nat}
    (listed : smallDigits[d]? = some c ∨ capitalDigits[d]? = some c) : digitValue? c = some d := by
  have all : ∀ d < 16, smallDigits[d]?.bind digitValue? = some d ∧
      capitalDigits[d]?.bind digitValue? = some d := by decide
  rcases listed with small | capital
  · have inside : d < 16 := (List.getElem?_eq_some_iff.mp small).1
    have value := (all d inside).1
    rwa [small] at value
  · have inside : d < 16 := (List.getElem?_eq_some_iff.mp capital).1
    have value := (all d inside).2
    rwa [capital] at value

/-- A list has the characters of a row in it if it has them at all places of the row. -/
theorem getElem?_of_row {digits : List Char} {first last c : Char} {offset : Nat}
    (row : ∀ k < last.toNat - first.toNat + 1,
      digits[k + offset]? = some (Char.ofNat (first.toNat + k)))
    (le : first.toNat ≤ c.toNat) (le' : c.toNat ≤ last.toNat) :
    digits[c.toNat - first.toNat + offset]? = some c := by
  have here := row (c.toNat - first.toNat) (by omega)
  rwa [Nat.add_sub_cancel' le, Char.ofNat_toNat] at here

theorem getElem?_of_digitValue? {c : Char} {d : Nat} (value : digitValue? c = some d) :
    smallDigits[d]? = some c ∨ capitalDigits[d]? = some c := by
  unfold digitValue? at value
  split at value
  · next digit =>
      cases value
      have bounds : 48 ≤ c.toNat ∧ c.toNat ≤ 57 := Char.isDigit_iff_toNat.mp digit
      exact .inl (@getElem?_of_row _ '0' '9' c 0 (by decide) bounds.1 bounds.2)
  · split at value
    · next small =>
        cases value
        exact .inl (@getElem?_of_row _ 'a' 'f' c 10 (by decide) small.1 small.2)
    · split at value
      · next capital =>
          cases value
          exact .inr (@getElem?_of_row _ 'A' 'F' c 10 (by decide) capital.1 capital.2)
      · exact nomatch value

theorem digitOfBase?_eq_some_iff {base : Nat} {c : Char} {d : Nat} :
    digitOfBase? base c = some d ↔ IsDigit base c d := by
  rw [digitOfBase?, Option.filter_eq_some_iff, IsDigit, decide_eq_true_eq, and_comm]
  exact and_congr_right fun _ => ⟨getElem?_of_digitValue?, digitValue?_of_getElem?⟩

/-! ## Numerals -/

namespace RadixNumeral

variable {base : Nat} {cs : List Char} {n : Nat}

theorem ne_nil (numeral : RadixNumeral base cs n) : cs ≠ [] := by
  cases numeral with
  | digit _ => exact List.cons_ne_nil _ _
  | append _ _ => exact List.append_ne_nil_of_right_ne_nil _ (List.cons_ne_nil _ _)

theorem isDigit (numeral : RadixNumeral base cs n) : ∀ c ∈ cs, ∃ d, IsDigit base c d := by
  induction numeral with
  | digit digit =>
      intro c member
      rw [List.mem_singleton.mp member]
      exact ⟨_, digit⟩
  | append _ last ih =>
      intro c member
      rcases List.mem_append.mp member with inFront | atEnd
      · exact ih c inFront
      · rw [List.mem_singleton.mp atEnd]
        exact ⟨_, last⟩

end RadixNumeral

/-- Reading goes on from the number that has been read so far. -/
theorem RadixNumeral.of_foldlM {base : Nat} {cs front : List Char} {total n : Nat}
    (numeral : RadixNumeral base front total)
    (read : cs.foldlM (fun total c => (digitOfBase? base c).map (total * base + ·)) total =
      some n) :
    RadixNumeral base (front ++ cs) n := by
  induction cs generalizing front total with
  | nil =>
      cases read
      rwa [List.append_nil]
  | cons c cs ih =>
      rw [List.foldlM_cons] at read
      obtain ⟨next, first, rest⟩ := Option.bind_eq_some_iff.mp read
      obtain ⟨d, digit, rfl⟩ := Option.map_eq_some_iff.mp first
      have longer := ih (.append numeral (digitOfBase?_eq_some_iff.mp digit)) rest
      rwa [List.append_assoc] at longer

theorem natOfDigits?_append {base : Nat} {cs : List Char} (nonempty : cs ≠ []) (c : Char) :
    natOfDigits? base (cs ++ [c]) =
      (natOfDigits? base cs).bind fun n => (digitOfBase? base c).map (n * base + ·) := by
  simp [natOfDigits?, nonempty, List.foldlM_append]

/-- **Digits of a base are read as the number they stand for, and nothing else is read.** -/
theorem natOfDigits?_eq_some_iff {base : Nat} {cs : List Char} {n : Nat} :
    natOfDigits? base cs = some n ↔ RadixNumeral base cs n := by
  constructor
  · intro read
    cases cs with
    | nil => exact nomatch read
    | cons c cs =>
        rw [natOfDigits?, List.isEmpty_cons, if_neg Bool.false_ne_true, List.foldlM_cons] at read
        obtain ⟨first, one, rest⟩ := Option.bind_eq_some_iff.mp read
        obtain ⟨d, digit, rfl⟩ := Option.map_eq_some_iff.mp one
        rw [Nat.zero_mul, Nat.zero_add] at rest
        exact RadixNumeral.of_foldlM (.digit (digitOfBase?_eq_some_iff.mp digit)) rest
  · intro numeral
    induction numeral with
    | digit digit => simp [natOfDigits?, digitOfBase?_eq_some_iff.mpr digit]
    | append front last ih =>
        rw [natOfDigits?_append front.ne_nil, ih, digitOfBase?_eq_some_iff.mpr last]
        rfl

/-! ## Words -/

theorem not_isDigit_plus (base d : Nat) : ¬ IsDigit base '+' d := by
  rintro ⟨-, listed⟩
  exact nomatch digitValue?_of_getElem? listed

theorem not_radixNumeral_plus {base n : Nat} {digits : List Char} :
    ¬ RadixNumeral base ('+' :: digits) n := by
  intro numeral
  obtain ⟨d, digit⟩ := numeral.isDigit '+' List.mem_cons_self
  exact not_isDigit_plus base d digit

/-- The text stands for the number, perhaps after a plus sign. -/
def SignedNumeral (base : Nat) (cs : List Char) (n : Nat) : Prop :=
  RadixNumeral base cs n ∨ ∃ digits, cs = '+' :: digits ∧ RadixNumeral base digits n

/-- What is read is the digits of a number below `2 ^ 64`, perhaps after a plus sign. -/
theorem readWord?_eq_some_iff {base : Nat} {cs : List Char} {n : Nat} :
    readWord? base cs = some n ↔ SignedNumeral base cs n ∧ n < UInt64.size := by
  unfold readWord?
  dsimp only
  rw [Option.filter_eq_some_iff, decide_eq_true_eq]
  refine and_congr_left fun _ => ?_
  split
  · next digits =>
      rw [natOfDigits?_eq_some_iff, SignedNumeral]
      constructor
      · intro numeral
        exact .inr ⟨digits, rfl, numeral⟩
      · rintro (numeral | ⟨_, ⟨⟩, numeral⟩)
        · exact absurd numeral not_radixNumeral_plus
        · exact numeral
  · next unsigned =>
      rw [natOfDigits?_eq_some_iff, SignedNumeral]
      constructor
      · exact .inl
      · rintro (numeral | ⟨digits, signed, -⟩)
        · exact numeral
        · exact absurd signed (unsigned digits)

/-! ## Texts -/

namespace Double

/-- The number is the double nearest to a natural number. -/
def IsNearestNat (x : Double) (n : Nat) : Prop :=
  x.IsNearest false (n * Magnitude.unitsPerOne) 1

theorem isNearestNat_ofNat (n : Nat) : (ofNat n).IsNearestNat n := by
  unfold ofNat IsNearestNat
  exact isNearest_nearest false (n * Magnitude.unitsPerOne) Nat.one_pos

/-- NaN is near to nothing. -/
theorem IsNearestNat.ne_nan {x : Double} {n : Nat} (nearest : x.IsNearestNat n) : x ≠ nan := by
  rintro rfl
  exact nomatch nearest

/-- Digits are read as a number, whatever their number is: the text is a number exactly when it is
digits of the base and nothing else, and then it is the double nearest to what they stand for. -/
def ReadsDigits (base : Nat) (digits : List Char) (x : Double) : Prop :=
  (x ≠ nan ↔ ∃ n, RadixNumeral base digits n) ∧
    ∀ n, RadixNumeral base digits n → x.IsNearestNat n

variable {s : String} {letter : Char} {base : Nat} {digits : List Char}

theorem ofTrimmedText_of_radix (radix : baseOfLetter? letter = some base) :
    ofTrimmedText ('0' :: letter :: digits) = ((readWord? base digits).map ofNat).getD nan := by
  have word (c : Char) (other : c ≠ '0') (cs : List Char) : '0' :: letter :: digits ≠ c :: cs :=
    fun same => other (List.cons.inj same).1.symm
  have unsigned : ¬ ('0' :: letter :: digits = "Infinity".toList ∨
      '0' :: letter :: digits = "+Infinity".toList) :=
    not_or.mpr ⟨word 'I' (by decide) _, word '+' (by decide) _⟩
  have negative : '0' :: letter :: digits ≠ "-Infinity".toList := word '-' (by decide) _
  unfold ofTrimmedText
  rw [if_neg unsigned, if_neg negative]
  simp only [radix]

/-- A text that begins with a zero and the letter of a base is read as a word of that base. -/
theorem ofText_eq_of_radix (trimmed : Text.trim s.toList = '0' :: letter :: digits)
    (radix : baseOfLetter? letter = some base) :
    ofText s = ((readWord? base digits).map ofNat).getD nan := by
  rw [← ofTrimmedText_of_radix radix]
  unfold ofText ofChars
  rw [trimmed]
  exact if_neg Bool.false_ne_true

theorem ofText_of_signedNumeral (trimmed : Text.trim s.toList = '0' :: letter :: digits)
    (radix : baseOfLetter? letter = some base) {n : Nat} (numeral : SignedNumeral base digits n)
    (small : n < UInt64.size) : ofText s = ofNat n := by
  rw [ofText_eq_of_radix trimmed radix, readWord?_eq_some_iff.mpr ⟨numeral, small⟩,
    Option.map_some, Option.getD_some]

theorem exists_signedNumeral (trimmed : Text.trim s.toList = '0' :: letter :: digits)
    (radix : baseOfLetter? letter = some base) (number : ofText s ≠ nan) :
    ∃ n, SignedNumeral base digits n ∧ n < UInt64.size := by
  rw [ofText_eq_of_radix trimmed radix] at number
  cases read : readWord? base digits with
  | none =>
      rw [read, Option.map_none, Option.getD_none] at number
      exact absurd rfl number
  | some n => exact ⟨n, readWord?_eq_some_iff.mp read⟩

/-- A number of `2 ^ 64` or more is not read. -/
theorem ofText_of_large (trimmed : Text.trim s.toList = '0' :: letter :: digits)
    (radix : baseOfLetter? letter = some base) {n : Nat} (numeral : RadixNumeral base digits n)
    (large : UInt64.size ≤ n) : ofText s = nan := by
  refine Classical.byContradiction fun number => ?_
  obtain ⟨other, signed, small⟩ := exists_signedNumeral trimmed radix number
  rcases signed with unsigned | ⟨_, rfl, -⟩
  · have same := natOfDigits?_eq_some_iff.mpr unsigned
    rw [natOfDigits?_eq_some_iff.mpr numeral] at same
    have := Option.some.inj same
    omega
  · exact not_radixNumeral_plus numeral

/-- **Numbers below `2 ^ 64` are read as the double nearest to them, with or without a plus sign,
and nothing else is read.** So reading keeps to the digits of the base, without a limit and without
signs, exactly where no such number stands behind a plus sign and no digits stand for a greater
one. -/
theorem ofText_radix (trimmed : Text.trim s.toList = '0' :: letter :: digits)
    (radix : baseOfLetter? letter = some base) :
    (∀ n, SignedNumeral base digits n → n < UInt64.size → (ofText s).IsNearestNat n) ∧
    (ofText s ≠ nan → ∃ n, SignedNumeral base digits n ∧ n < UInt64.size) ∧
    (ReadsDigits base digits (ofText s) ↔
      (∀ rest n, digits = '+' :: rest → RadixNumeral base rest n → UInt64.size ≤ n) ∧
      ∀ n, RadixNumeral base digits n → n < UInt64.size) := by
  have nearest (n : Nat) (numeral : SignedNumeral base digits n) (small : n < UInt64.size) :
      (ofText s).IsNearestNat n := by
    rw [ofText_of_signedNumeral trimmed radix numeral small]
    exact isNearestNat_ofNat n
  refine ⟨nearest, exists_signedNumeral trimmed radix, ?_, ?_⟩
  · rintro ⟨number, rounded⟩
    refine ⟨fun rest n signed numeral => Nat.le_of_not_lt fun small => ?_, fun n numeral => ?_⟩
    · have read := (nearest n (.inr ⟨rest, signed, numeral⟩) small).ne_nan
      obtain ⟨m, unsigned⟩ := number.mp read
      rw [signed] at unsigned
      exact not_radixNumeral_plus unsigned
    · refine Nat.lt_of_not_le fun large => ?_
      exact (rounded n numeral).ne_nan (ofText_of_large trimmed radix numeral large)
  · rintro ⟨unsigned, bounded⟩
    refine ⟨⟨fun number => ?_, ?_⟩, fun n numeral => nearest n (.inl numeral) (bounded n numeral)⟩
    · obtain ⟨n, numeral | ⟨rest, signed, numeral⟩, small⟩ :=
        exists_signedNumeral trimmed radix number
      · exact ⟨n, numeral⟩
      · exact absurd (unsigned rest n signed numeral) (Nat.not_le_of_lt small)
    · rintro ⟨n, numeral⟩
      exact (nearest n (.inl numeral) (bounded n numeral)).ne_nan

/-- The greatest number of four digits, in capital letters and between blanks. -/
theorem ofText_radix_capital :
    Text.trim " 0XFFFF\t".toList = '0' :: 'X' :: "FFFF".toList ∧
      baseOfLetter? 'X' = some 16 ∧ (ofText " 0XFFFF\t").IsNearestNat 65535 := by
  have trimmed : Text.trim " 0XFFFF\t".toList = '0' :: 'X' :: "FFFF".toList := by decide
  have numeral : RadixNumeral 16 "FFFF".toList 65535 :=
    natOfDigits?_eq_some_iff.mp (by decide)
  exact ⟨trimmed, rfl, (ofText_radix trimmed rfl).1 65535 (.inl numeral) (by decide)⟩

/-- Digits after a plus sign are read, although the sign is no digit, and the digits of `2 ^ 64` are
not read, although they are digits. -/
theorem not_readsDigits_plus :
    (Text.trim "0x+1".toList = '0' :: 'x' :: "+1".toList ∧
      ¬ ReadsDigits 16 "+1".toList (ofText "0x+1")) ∧
    (Text.trim "0x10000000000000000".toList = '0' :: 'x' :: "10000000000000000".toList ∧
      ¬ ReadsDigits 16 "10000000000000000".toList (ofText "0x10000000000000000")) := by
  have signed : Text.trim "0x+1".toList = '0' :: 'x' :: "+1".toList := by decide
  have large : Text.trim "0x10000000000000000".toList =
      '0' :: 'x' :: "10000000000000000".toList := by decide
  refine ⟨⟨signed, fun reads => ?_⟩, large, fun reads => ?_⟩
  · have one : RadixNumeral 16 ['1'] 1 := natOfDigits?_eq_some_iff.mp (by decide)
    have number : ofText "0x+1" ≠ nan := by
      rw [ofText_of_signedNumeral signed rfl (.inr ⟨['1'], rfl, one⟩) (by decide)]
      exact (isNearestNat_ofNat 1).ne_nan
    obtain ⟨n, numeral⟩ := reads.1.mp number
    exact not_radixNumeral_plus numeral
  · have numeral : RadixNumeral 16 "10000000000000000".toList UInt64.size :=
      natOfDigits?_eq_some_iff.mp (by decide)
    have nan := ofText_of_large large rfl numeral (Nat.le_refl _)
    exact reads.1.mpr ⟨_, numeral⟩ nan

end Double

end PathQuery
