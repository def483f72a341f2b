import PathQuery.Double.Printing
import PathQuery.Double.Reading
import PathQuery.Json.Token
import PathQuery.Proofs.Double.Fractions
import PathQuery.Proofs.Text.Runs

/-!
# The text of a number is a numeral

`Numeral.chars` writes a numeral down, and reading the text gives the numeral back
(`Numeral.read?_chars`). The text of a decimal, positional or with an exponent, is the text of a
numeral whose value differs from the decimal by zeros at the end of the coefficient
(`Decimal.exists_numeral`). Rounding does not see those, so the text of a double reads as the double
(`Magnitude.exists_numeral`).

All numerals here are `WellFormed`: they have digits in every place where JSON wants digits, and no
zeros in front.
-/

set_option autoImplicit false

namespace PathQuery

open Text

/-! ## Digits -/

theorem digitOfBase?_ten {c : Char} (digit : c.isDigit = true) :
    digitOfBase? 10 c = some (c.toNat - '0'.toNat) := by
  have bounds : 48 ≤ c.toNat ∧ c.toNat ≤ 57 := Char.isDigit_iff_toNat.mp digit
  have small : c.toNat - 48 < 10 := by omega
  simp [digitOfBase?, digitValue?, digit, small]

theorem natOfDigits?_ten {cs : List Char} (digits : Run Char.isDigit cs) :
    natOfDigits? 10 cs = some (Nat.ofDigitChars 10 cs 0) := by
  have fold : ∀ cs : List Char, (∀ c ∈ cs, c.isDigit = true) → ∀ total : Nat,
      cs.foldlM (fun total c => (digitOfBase? 10 c).map (total * 10 + ·)) total =
        some (Nat.ofDigitChars 10 cs total) := by
    intro cs
    induction cs with
    | nil => exact fun _ _ => by simp
    | cons c cs inductionHypothesis =>
        intro members total
        have first := digitOfBase?_ten (members c (List.mem_cons_self ..))
        have rest := inductionHypothesis fun d member => members d (List.mem_cons_of_mem _ member)
        simp [List.foldlM_cons, first, rest, Nat.ofDigitChars_cons, Nat.mul_comm]
  have nonempty : cs.isEmpty = false := by simpa using digits.ne_nil
  rw [natOfDigits?, nonempty]
  exact fold cs digits.members 0

theorem run_toDigits (n : Nat) : Run Char.isDigit (Nat.toDigits 10 n) :=
  ⟨Nat.toDigits_ne_nil, fun _ => Nat.isDigit_of_mem_toDigits (by decide) (by decide)⟩

/-- The digits of a positive number do not begin with zero. -/
theorem head?_toDigits {n : Nat} (positive : 0 < n) : (Nat.toDigits 10 n).head? ≠ some '0' := by
  induction n using Nat.strongRecOn with
  | ind n inductionHypothesis =>
      rw [Nat.toDigits_eq_if (by decide)]
      split
      · simpa using Nat.ne_of_gt positive
      · have tens : 0 < n / 10 := by omega
        have first := inductionHypothesis (n / 10) (by omega) tens
        have nonempty : Nat.toDigits 10 (n / 10) ≠ [] := Nat.toDigits_ne_nil
        obtain ⟨digit, rest, digits⟩ := List.exists_cons_of_ne_nil nonempty
        rw [digits] at first ⊢
        simpa using first

namespace Numeral

theorem readInt?_signedExponent (exponent : Int) :
    readInt? (Decimal.signedExponent exponent) = some exponent := by
  have digits := natOfDigits?_ten (run_toDigits exponent.natAbs)
  rw [Nat.ofDigitChars_ten_toDigits] at digits
  have split : splitSign (Decimal.signedExponent exponent) =
      (decide (exponent < 0), Nat.toDigits 10 exponent.natAbs) := by
    by_cases negative : exponent < 0
    · simp [Decimal.signedExponent, negative, splitSign]
    · simp [Decimal.signedExponent, negative, splitSign]
  have sign : (if decide (exponent < 0) = true then -(exponent.natAbs : Int)
      else exponent.natAbs) = exponent := by
    simp only [decide_eq_true_eq]
    omega
  simp only [readInt?, split, digits]
  exact congrArg some sign

/-! ## Writing a numeral -/

/-- A point and the digits after it, if there is a point. -/
def fractionChars : Option (List Char) → List Char
  | none => []
  | some digits => '.' :: digits

/-- The letter and the signed exponent after it, if there is one. -/
def exponentChars : Option Int → List Char
  | none => []
  | some exponent => 'e' :: Decimal.signedExponent exponent

/-- The text of a numeral. -/
def chars (n : Numeral) : List Char :=
  n.whole ++ (fractionChars n.fraction ++ exponentChars n.exponent)

/-- There are digits before the point, without zeros in front, and after it. -/
structure WellFormed (n : Numeral) : Prop where
  whole : Run Char.isDigit n.whole
  begun : n.whole = ['0'] ∨ n.whole.head? ≠ some '0'
  fraction : ∀ digits ∈ n.fraction, Run Char.isDigit digits

/-- A numeral begins with a digit. -/
theorem exists_first {n : Numeral} (wellFormed : n.WellFormed) :
    ∃ first rest, n.chars = first :: rest ∧ first.isDigit = true :=
  wellFormed.whole.append _

/-- The text of a numeral has digits, a point, the letter of an exponent and signs. -/
theorem mem_chars {n : Numeral} (wellFormed : n.WellFormed) :
    ∀ c ∈ n.chars, c.isDigit = true ∨ c ∈ ['.', 'e', '+', '-'] := by
  intro c member
  rcases List.mem_append.mp member with first | later
  · exact .inl (wellFormed.whole.members c first)
  rcases List.mem_append.mp later with fraction | exponent
  · cases places : n.fraction with
    | none =>
        rw [places] at fraction
        exact absurd fraction List.not_mem_nil
    | some digits =>
        rw [places] at fraction
        rcases List.mem_cons.mp fraction with rfl | digit
        · exact .inr (by decide)
        · exact .inl ((wellFormed.fraction digits places).members c digit)
  · cases power : n.exponent with
    | none =>
        rw [power] at exponent
        exact absurd exponent List.not_mem_nil
    | some e =>
        rw [power, exponentChars, Decimal.signedExponent] at exponent
        rcases List.mem_cons.mp exponent with rfl | later
        · exact .inr (by decide)
        rcases List.mem_cons.mp later with rfl | digit
        · refine .inr ?_
          split <;> decide
        · exact .inl ((run_toDigits _).members c digit)

theorem stops_exponentChars (exponent : Option Int) :
    Stops Char.isDigit (exponentChars exponent) := by
  cases exponent with
  | none => exact stops_nil _
  | some exponent => exact stops_cons (by decide) _

theorem stops_fractionChars (fraction : Option (List Char)) (exponent : Option Int) :
    Stops Char.isDigit (fractionChars fraction ++ exponentChars exponent) := by
  cases fraction with
  | none => exact stops_exponentChars exponent
  | some digits => exact stops_cons (by decide) _

theorem readExponent?_exponentChars (exponent : Option Int) :
    readExponent? (exponentChars exponent) = some exponent := by
  cases exponent with
  | none => rfl
  | some exponent => simp [exponentChars, readExponent?, readInt?_signedExponent]

/-- **Reading the text of a numeral gives the numeral.** -/
theorem read?_chars {n : Numeral} (wellFormed : n.WellFormed) : read? n.chars = some n := by
  obtain ⟨whole, fraction, exponent⟩ := n
  have digits := wellFormed.whole.members
  have nonempty : whole.isEmpty = false := by simpa using wellFormed.whole.ne_nil
  have taken := takeWhile_append digits (stops_fractionChars fraction exponent)
  have left := dropWhile_append digits (stops_fractionChars fraction exponent)
  have last := readExponent?_exponentChars exponent
  simp only [read?, chars, taken, left]
  cases fraction with
  | none =>
      cases exponent with
      | none => simp [fractionChars, exponentChars, readExponent?, nonempty]
      | some exponent =>
          simp only [exponentChars] at last
          simp [fractionChars, exponentChars, last, nonempty]
  | some places =>
      have members := (wellFormed.fraction places rfl).members
      have taken := takeWhile_append members (stops_exponentChars exponent)
      have left := dropWhile_append members (stops_exponentChars exponent)
      simp [fractionChars, taken, left, last, nonempty]

theorem WellFormed.isStrict {n : Numeral} (wellFormed : n.WellFormed) :
    Json.Token.isStrict n = true := by
  have fraction : n.fraction ≠ some [] := fun none => (wellFormed.fraction [] none).ne_nil rfl
  have nonempty : n.whole ≠ [] := wellFormed.whole.ne_nil
  rcases wellFormed.begun with zero | begun
  · simp [Json.Token.isStrict, Json.Token.wellBegun, zero, fraction]
  · simp [Json.Token.isStrict, Json.Token.wellBegun, begun, nonempty, fraction]

/-- The numeral stands for the decimal, up to zeros at the end of the coefficient, and the text is
the text of the numeral. -/
structure Writes (n : Numeral) (d : Decimal) (text : List Char) : Prop where
  wellFormed : n.WellFormed
  chars : n.chars = text
  value : ∃ zeros, n.toDecimal = d.scaleUp zeros

end Numeral

/-! ## The text of a decimal -/

namespace Decimal

/-- The decimal with the given digits and its point at the given place. -/
def ofDigits (digits : List Char) (point : Int) : Decimal :=
  ⟨Nat.ofDigitChars 10 digits 0, point - digits.length⟩

theorem exists_digits_eq (d : Decimal) :
    ∃ zeros, d.digits = d.significantDigits ++ List.replicate zeros '0' := by
  have zeros : d.digits.reverse.takeWhile (· == '0') =
      List.replicate (d.digits.reverse.takeWhile (· == '0')).length '0' := by
    refine List.eq_replicate_of_mem fun c member => ?_
    have all := List.all_eq_true.mp (@List.all_takeWhile _ (· == '0') d.digits.reverse) c member
    simpa using all
  refine ⟨(d.digits.reverse.takeWhile (· == '0')).length, ?_⟩
  calc d.digits
      = (d.digits.reverse.takeWhile (· == '0') ++ d.digits.reverse.dropWhile (· == '0')).reverse :=
        by rw [List.takeWhile_append_dropWhile, List.reverse_reverse]
    _ = d.significantDigits ++ List.replicate _ '0' := by
        rw [List.reverse_append, zeros, List.reverse_replicate, List.length_replicate]
        rfl

/-- The digits without the zeros at the end make the same number. -/
theorem exists_eq_scaleUp (d : Decimal) :
    ∃ zeros, d = (ofDigits d.significantDigits d.point).scaleUp zeros := by
  obtain ⟨zeros, digits⟩ := d.exists_digits_eq
  have length : d.digits.length = d.significantDigits.length + zeros := by
    rw [digits, List.length_append, List.length_replicate]
  have coefficient : d.coefficient = Nat.ofDigitChars 10 d.significantDigits 0 * 10 ^ zeros := by
    rw [Nat.mul_comm, ← Nat.ofDigitChars_replicate_zero, ← Nat.ofDigitChars_append, ← digits]
    exact Nat.ofDigitChars_ten_toDigits.symm
  have exponent : d.exponent = d.point - d.significantDigits.length - zeros := by
    rw [point, length]
    omega
  refine ⟨zeros, ?_⟩
  rw [scaleUp, ofDigits, ← coefficient, ← exponent]

theorem run_significantDigits {d : Decimal} (positive : 0 < d.coefficient) :
    Run Char.isDigit d.significantDigits ∧ d.significantDigits.head? ≠ some '0' := by
  obtain ⟨zeros, digits⟩ := d.exists_digits_eq
  have run : Run Char.isDigit d.digits := run_toDigits d.coefficient
  have begun : d.digits.head? ≠ some '0' := head?_toDigits positive
  rw [digits] at run begun
  have nonempty : d.significantDigits ≠ [] := by
    intro none
    have replicated := digits
    rw [none, List.nil_append] at replicated
    have zero : d.coefficient = 0 := by
      rw [← @Nat.ofDigitChars_ten_toDigits d.coefficient, show Nat.toDigits 10 d.coefficient =
        List.replicate zeros '0' from replicated, Nat.ofDigitChars_replicate_zero, Nat.mul_zero]
    omega
  refine ⟨⟨nonempty, fun c member => run.members c (List.mem_append_left _ member)⟩, ?_⟩
  obtain ⟨first, rest, split⟩ := List.exists_cons_of_ne_nil nonempty
  rw [split] at begun ⊢
  simpa using begun

variable {digits : List Char}

theorem isDigit_of_mem_zeros {zeros : Nat} {c : Char} (member : c ∈ List.replicate zeros '0') :
    c.isDigit = true := by
  rw [List.eq_of_mem_replicate member]
  rfl

/-- Zeros between the point and the digits. -/
theorem writes_zerosBefore (run : Run Char.isDigit digits) {point : Int} (left : point ≤ 0) :
    Numeral.Writes ⟨['0'], some (List.replicate (-point).toNat '0' ++ digits), none⟩
      (ofDigits digits point) ('0' :: '.' :: (List.replicate (-point).toNat '0' ++ digits)) := by
  refine ⟨⟨⟨nofun, List.all_eq_true.mp rfl⟩, .inl rfl, ?_⟩, ?_, 0, ?_⟩
  · rintro _ ⟨⟩
    refine ⟨by simp [run.ne_nil], fun c member => ?_⟩
    rcases List.mem_append.mp member with zero | digit
    · exact isDigit_of_mem_zeros zero
    · exact run.members c digit
  · simp [Numeral.chars, Numeral.fractionChars, Numeral.exponentChars]
  · have value : Nat.ofDigitChars 10 (['0'] ++ (List.replicate (-point).toNat '0' ++ digits)) 0 =
        Nat.ofDigitChars 10 digits 0 := by
      simp [Nat.ofDigitChars_cons, Nat.ofDigitChars_append]
    simp only [Numeral.toDecimal, ofDigits, scaleUp, Option.getD_some, value, List.length_append,
      List.length_replicate, Decimal.mk.injEq]
    simp
    omega

/-- Zeros between the digits and the point, which is left out. -/
theorem writes_zerosAfter (run : Run Char.isDigit digits) (begun : digits.head? ≠ some '0')
    {point : Int} (right : digits.length ≤ point) :
    Numeral.Writes ⟨digits ++ List.replicate (point - digits.length).toNat '0', none, none⟩
      (ofDigits digits point)
      (digits ++ List.replicate (point - digits.length).toNat '0') := by
  refine ⟨⟨⟨by simp [run.ne_nil], fun c member => ?_⟩, .inr ?_, nofun⟩, ?_,
    (point - digits.length).toNat, ?_⟩
  · rcases List.mem_append.mp member with digit | zero
    · exact run.members c digit
    · exact isDigit_of_mem_zeros zero
  · obtain ⟨first, rest, split⟩ := List.exists_cons_of_ne_nil run.ne_nil
    rw [split] at begun ⊢
    simpa using begun
  · simp [Numeral.chars, Numeral.fractionChars, Numeral.exponentChars]
  · simp only [Numeral.toDecimal, ofDigits, scaleUp, Decimal.mk.injEq]
    constructor
    · simp [Nat.ofDigitChars_append, Nat.mul_comm]
    · simp
      omega

/-- The point among the digits. -/
theorem writes_pointAmong (run : Run Char.isDigit digits) (begun : digits.head? ≠ some '0')
    {point : Int} (left : ¬ point ≤ 0) (right : ¬ digits.length ≤ point) :
    Numeral.Writes ⟨digits.take point.toNat, some (digits.drop point.toNat), none⟩
      (ofDigits digits point) (digits.take point.toNat ++ '.' :: digits.drop point.toNat) := by
  refine ⟨⟨⟨?_, fun c member => run.members c (List.mem_of_mem_take member)⟩, .inr ?_, ?_⟩, ?_,
    0, ?_⟩
  · simp [run.ne_nil]
    omega
  · rw [List.head?_take, if_neg (by omega)]
    exact begun
  · rintro _ ⟨⟩
    refine ⟨?_, fun c member => run.members c (List.mem_of_mem_drop member)⟩
    simp
    omega
  · simp [Numeral.chars, Numeral.fractionChars, Numeral.exponentChars]
  · simp only [Numeral.toDecimal, ofDigits, scaleUp, Decimal.mk.injEq]
    constructor
    · simp
    · simp
      omega

theorem exists_positional (run : Run Char.isDigit digits) (begun : digits.head? ≠ some '0')
    (point : Int) : ∃ n : Numeral, n.Writes (ofDigits digits point) (positional digits point) := by
  unfold positional
  split
  · next left => exact ⟨_, writes_zerosBefore run left⟩
  · next left =>
      split
      · next right => exact ⟨_, writes_zerosAfter run begun right⟩
      · next right => exact ⟨_, writes_pointAmong run begun left right⟩

theorem exists_scientific (run : Run Char.isDigit digits) (begun : digits.head? ≠ some '0')
    (point : Int) : ∃ n : Numeral, n.Writes (ofDigits digits point) (scientific digits point) := by
  match digits with
  | [] => exact absurd rfl run.ne_nil
  | [digit] =>
      refine ⟨⟨[digit], none, some (point - 1)⟩, ⟨run, .inr begun, by simp⟩, rfl, 0, ?_⟩
      simp [Numeral.toDecimal, ofDigits, scaleUp]
  | digit :: next :: rest =>
      refine ⟨⟨[digit], some (next :: rest), some (point - 1)⟩, ⟨⟨by simp, fun c member => ?_⟩,
        .inr (by simpa using begun), ?_⟩, by simp [Numeral.chars, Numeral.fractionChars,
          Numeral.exponentChars, scientific], 0, ?_⟩
      · rw [List.mem_singleton.mp member]
        exact run.members digit (List.mem_cons_self ..)
      · rintro _ ⟨⟩
        exact ⟨by simp, fun c member => run.members c (List.mem_cons_of_mem _ member)⟩
      · simp [Numeral.toDecimal, ofDigits, scaleUp]
        omega

/-- **The text of a positive decimal is the text of a numeral with its value.** -/
theorem exists_numeral {d : Decimal} (positive : 0 < d.coefficient) :
    ∃ n : Numeral, n.Writes (ofDigits d.significantDigits d.point) d.text := by
  obtain ⟨run, begun⟩ := run_significantDigits positive
  unfold text
  split
  · exact exists_positional run begun d.point
  · exact exists_scientific run begun d.point

end Decimal

/-! ## The text of a double -/

/-- **The text of a positive magnitude is the text of a numeral that rounds to it.** -/
theorem Magnitude.exists_numeral {m : Magnitude} (positive : 0 < m.units) :
    ∃ n : Numeral, n.WellFormed ∧ n.chars = m.shortest.text ∧ n.toDecimal.roundsTo m = true := by
  have rounds := m.roundsTo_shortest
  obtain ⟨n, wellFormed, chars, up, value⟩ :=
    Decimal.exists_numeral (Decimal.coefficient_pos_of_roundsTo rounds positive)
  obtain ⟨zeros, trimmed⟩ := m.shortest.exists_eq_scaleUp
  refine ⟨n, wellFormed, chars, ?_⟩
  rw [value, Decimal.roundsTo_scaleUp, ← Decimal.roundsTo_scaleUp _ zeros, ← trimmed]
  exact rounds

end PathQuery
