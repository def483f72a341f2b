import PathQuery.Proofs.Double.Numerals
import PathQuery.Proofs.Double.Radix

/-!
# Which texts are decimals

`SignedDecimal` is the grammar of decimals: an optional sign, digits with an optional point, and an
optional exponent. Reading accepts these texts and no others, and what it makes of one is the double
nearest to the decimal (`Decimal.isNearest_toDouble`). Beside them it accepts nothing but blanks and
`Infinity` with an optional sign (`Double.ofText_decimal`), as long as the text does not begin with
the prefix of a base.

The reading of the standard library knows other words for infinities and for NaN. They all have an
`n`, and so they never pass the filter that comes before it (`Double.ofWord?_eq_none`), while every
decimal does (`isDecimalChar_of_signedDecimal`).
-/

set_option autoImplicit false

namespace PathQuery

open Text

/-! ## The grammar -/

/-- No sign, a plus sign, or a minus sign. -/
inductive SignText : List Char → Bool → Prop
  | absent : SignText [] false
  | plus : SignText ['+'] false
  | minus : SignText ['-'] true

/-- Digits, with or without a point before, among or behind them. They make up the number, and the
last `places` of them follow the point. -/
inductive MantissaText : List Char → Nat → Nat → Prop
  | whole {cs : List Char} {n : Nat} (digits : RadixNumeral 10 cs n) : MantissaText cs n 0
  | pointed {left right : List Char} {n : Nat} (digits : RadixNumeral 10 (left ++ right) n) :
      MantissaText (left ++ '.' :: right) n right.length

/-- Nothing, or the letter of an exponent, an optional sign and digits. -/
inductive ExponentText : List Char → Int → Prop
  | absent : ExponentText [] 0
  | power {letter : Char} {sign cs : List Char} {negative : Bool} {n : Nat}
      (announced : letter = 'e' ∨ letter = 'E') (signed : SignText sign negative)
      (digits : RadixNumeral 10 cs n) :
      ExponentText (letter :: (sign ++ cs)) (if negative then -n else n)

/-- The text of a decimal without a sign. -/
inductive UnsignedDecimal : List Char → Decimal → Prop
  | mk {front back : List Char} {n places : Nat} {power : Int}
      (mantissa : MantissaText front n places) (exponent : ExponentText back power) :
      UnsignedDecimal (front ++ back) ⟨n, power - places⟩

/-- The text of a decimal, perhaps behind a sign. -/
def SignedDecimal (cs : List Char) (negative : Bool) (d : Decimal) : Prop :=
  ∃ sign digits, SignText sign negative ∧ UnsignedDecimal digits d ∧ cs = sign ++ digits

/-! ## Digits -/

theorem IsDigit.isDigit {c : Char} {d : Nat} (digit : IsDigit 10 c d) : c.isDigit = true := by
  obtain ⟨small, listed⟩ := digit
  have all : ∀ d < 10, smallDigits[d]?.all Char.isDigit = true ∧
      capitalDigits[d]?.all Char.isDigit = true := by decide
  rcases listed with listed | listed
  · simpa [listed] using (all d small).1
  · simpa [listed] using (all d small).2

/-- The digits of base ten are what numerals are made of. -/
theorem radixNumeral_ten_iff {cs : List Char} {n : Nat} :
    RadixNumeral 10 cs n ↔ Run Char.isDigit cs ∧ Nat.ofDigitChars 10 cs 0 = n := by
  rw [← natOfDigits?_eq_some_iff]
  constructor
  · intro read
    have numeral := natOfDigits?_eq_some_iff.mp read
    have run : Run Char.isDigit cs := by
      refine ⟨numeral.ne_nil, fun c member => ?_⟩
      obtain ⟨d, digit⟩ := numeral.isDigit c member
      exact digit.isDigit
    rw [natOfDigits?_ten run] at read
    exact ⟨run, Option.some.inj read⟩
  · rintro ⟨run, rfl⟩
    exact natOfDigits?_ten run

namespace Numeral

/-! ## Signs -/

def isSign (c : Char) : Bool := c == '+' || c == '-'

/-- A digit is no sign. -/
theorem isSign_eq_false {c : Char} (digit : c.isDigit = true) : isSign c = false := by
  rw [isSign, Bool.or_eq_false_iff, beq_eq_false_iff_ne, beq_eq_false_iff_ne]
  constructor
  · rintro rfl
    exact nomatch digit
  · rintro rfl
    exact nomatch digit

/-- Every text begins with the sign that is taken from it. -/
theorem exists_signText (cs : List Char) :
    ∃ sign, SignText sign (splitSign cs).1 ∧ cs = sign ++ (splitSign cs).2 := by
  unfold splitSign
  split
  · exact ⟨_, .minus, rfl⟩
  · exact ⟨_, .plus, rfl⟩
  · exact ⟨_, .absent, rfl⟩

/-- A sign is taken from what begins with no sign. -/
theorem splitSign_append {sign cs : List Char} {negative : Bool} (signed : SignText sign negative)
    (unsigned : Stops isSign cs) : splitSign (sign ++ cs) = (negative, cs) := by
  cases signed with
  | plus => rfl
  | minus => rfl
  | absent =>
      rw [List.nil_append]
      unfold splitSign
      split
      · exact nomatch unsigned '-' rfl
      · exact nomatch unsigned '+' rfl
      · rfl

/-! ## Exponents -/

theorem readInt?_eq (cs : List Char) :
    readInt? cs = (natOfDigits? 10 (splitSign cs).2).map fun n : Nat =>
      if (splitSign cs).1 then -(n : Int) else n := by
  unfold readInt?
  dsimp only
  cases natOfDigits? 10 (splitSign cs).2 with
  | none => rfl
  | some n => rfl

/-- **What is read as an exponent is the text of one.** -/
theorem readExponent?_iff {cs : List Char} {power : Int} :
    (∃ exponent, readExponent? cs = some exponent ∧ exponent.getD 0 = power) ↔
      ExponentText cs power := by
  constructor
  · rintro ⟨exponent, read, rfl⟩
    unfold readExponent? at read
    split at read
    · cases read
      exact .absent
    · next letter rest =>
        split at read
        · next announced =>
            obtain ⟨i, integer, rfl⟩ := Option.map_eq_some_iff.mp read
            rw [readInt?_eq] at integer
            obtain ⟨n, digits, rfl⟩ := Option.map_eq_some_iff.mp integer
            obtain ⟨sign, signed, split⟩ := exists_signText rest
            have text := ExponentText.power announced signed (natOfDigits?_eq_some_iff.mp digits)
            rwa [← split] at text
        · exact absurd read.symm (Option.some_ne_none _)
  · intro text
    cases text with
    | absent => exact ⟨none, rfl, rfl⟩
    | @power letter sign digits negative n announced signed numeral =>
        have unsigned : Stops isSign digits := by
          have run := (radixNumeral_ten_iff.mp numeral).1
          rw [← List.append_nil digits]
          exact run.stops (fun _ => isSign_eq_false) []
        have integer : readInt? (sign ++ digits) = some (if negative then -(n : Int) else n) := by
          rw [readInt?_eq, splitSign_append signed unsigned, natOfDigits?_eq_some_iff.mpr numeral]
          rfl
        refine ⟨some _, ?_, rfl⟩
        rw [readExponent?, if_pos announced, integer]
        rfl

/-- The text of an exponent begins with its letter. -/
theorem stops_exponentText {cs : List Char} {power : Int} (text : ExponentText cs power)
    {isMember : Char → Bool} (small : isMember 'e' = false) (capital : isMember 'E' = false) :
    Stops isMember cs := by
  cases text with
  | absent => exact stops_nil isMember
  | power announced _ _ =>
      refine stops_cons ?_ _
      rcases announced with rfl | rfl
      · exact small
      · exact capital

/-! ## Numerals -/

section Reading

variable {whole rest : List Char}

theorem read?_of_point (digits : ∀ c ∈ whole, c.isDigit = true) (rest : List Char) :
    read? (whole ++ '.' :: rest) =
      if whole ++ rest.takeWhile Char.isDigit = [] then none
      else (readExponent? (rest.dropWhile Char.isDigit)).map fun exponent =>
        ⟨whole, some (rest.takeWhile Char.isDigit), exponent⟩ := by
  have stops : Stops Char.isDigit ('.' :: rest) := stops_cons (by decide) rest
  unfold read?
  simp only [takeWhile_append digits stops, dropWhile_append digits stops, Option.getD_some,
    Bool.and_eq_true, List.isEmpty_iff, List.append_eq_nil_iff]

theorem read?_of_stops (digits : ∀ c ∈ whole, c.isDigit = true) (stops : Stops Char.isDigit rest)
    (noPoint : ∀ places, rest ≠ '.' :: places) :
    read? (whole ++ rest) =
      if whole = [] then none
      else (readExponent? rest).map fun exponent => ⟨whole, none, exponent⟩ := by
  unfold read?
  simp only [takeWhile_append digits stops, dropWhile_append digits stops, Option.getD_none,
    List.isEmpty_nil, Bool.and_true, List.isEmpty_iff]

/-- What is read as a numeral is the text of a decimal. -/
theorem unsignedDecimal_of_read? {cs : List Char} {n : Numeral} (read : read? cs = some n) :
    UnsignedDecimal cs n.toDecimal := by
  have split : cs = cs.takeWhile Char.isDigit ++ cs.dropWhile Char.isDigit :=
    List.takeWhile_append_dropWhile.symm
  have members (cs : List Char) : ∀ c ∈ cs.takeWhile Char.isDigit, c.isDigit = true :=
    fun c member => List.all_eq_true.mp List.all_takeWhile c member
  have stops : Stops Char.isDigit (cs.dropWhile Char.isDigit) := stops_dropWhile _ _
  have digits := members cs
  generalize cs.takeWhile Char.isDigit = whole at split digits
  generalize cs.dropWhile Char.isDigit = rest at split stops
  subst split
  by_cases point : ∃ places, rest = '.' :: places
  · obtain ⟨places, rfl⟩ := point
    rw [read?_of_point digits] at read
    split at read
    · exact absurd read.symm (Option.some_ne_none _)
    · next nonempty =>
        obtain ⟨exponent, readExponent, rfl⟩ := Option.map_eq_some_iff.mp read
        have numeral : Run Char.isDigit (whole ++ places.takeWhile Char.isDigit) :=
          ⟨nonempty, List.forall_mem_append.mpr ⟨digits, members places⟩⟩
        have text := UnsignedDecimal.mk (.pointed (radixNumeral_ten_iff.mpr ⟨numeral, rfl⟩))
          (readExponent?_iff.mp ⟨exponent, readExponent, rfl⟩)
        rwa [List.append_assoc, List.cons_append, List.takeWhile_append_dropWhile] at text
  · rw [read?_of_stops digits stops (fun places same => point ⟨places, same⟩)] at read
    split at read
    · exact absurd read.symm (Option.some_ne_none _)
    · next nonempty =>
        obtain ⟨exponent, readExponent, rfl⟩ := Option.map_eq_some_iff.mp read
        have numeral : RadixNumeral 10 whole (Nat.ofDigitChars 10 (whole ++ []) 0) := by
          rw [List.append_nil]
          exact radixNumeral_ten_iff.mpr ⟨⟨nonempty, digits⟩, rfl⟩
        exact .mk (.whole numeral) (readExponent?_iff.mp ⟨exponent, readExponent, rfl⟩)

/-- The text of a decimal is read as a numeral with its value. -/
theorem exists_read? {cs : List Char} {d : Decimal} (text : UnsignedDecimal cs d) :
    ∃ n, read? cs = some n ∧ n.toDecimal = d := by
  obtain @⟨front, back, n, places, power, mantissa, exponent⟩ := text
  have stops : Stops Char.isDigit back := stops_exponentText exponent (by decide) (by decide)
  obtain ⟨e, readExponent, rfl⟩ := readExponent?_iff.mpr exponent
  cases mantissa with
  | whole numeral =>
      obtain ⟨run, rfl⟩ := radixNumeral_ten_iff.mp numeral
      have noPoint : ∀ places, back ≠ '.' :: places := by
        rintro places rfl
        have point := @stops_exponentText _ _ exponent (· == '.') rfl rfl '.' rfl
        exact Bool.false_ne_true point.symm
      refine ⟨⟨front, none, e⟩, ?_, ?_⟩
      · rw [read?_of_stops run.members stops noPoint, if_neg run.ne_nil, readExponent]
        rfl
      · simp [toDecimal]
  | @pointed left right _ numeral =>
      obtain ⟨run, rfl⟩ := radixNumeral_ten_iff.mp numeral
      obtain ⟨digitsLeft, digitsRight⟩ := List.forall_mem_append.mp run.members
      refine ⟨⟨left, some right, e⟩, ?_, rfl⟩
      rw [List.append_assoc, List.cons_append, read?_of_point digitsLeft,
        takeWhile_append digitsRight stops, dropWhile_append digitsRight stops,
        if_neg run.ne_nil, readExponent]
      rfl

end Reading

/-- The text of a decimal without a sign begins with a digit or a point. -/
theorem stops_sign {cs : List Char} {d : Decimal} (text : UnsignedDecimal cs d) :
    Stops isSign cs := by
  obtain @⟨front, back, n, places, power, mantissa, -⟩ := text
  cases mantissa with
  | whole numeral => exact (radixNumeral_ten_iff.mp numeral).1.stops (fun _ => isSign_eq_false) back
  | @pointed left right _ numeral =>
      cases left with
      | nil => exact stops_cons rfl _
      | cons c left =>
          have run := (radixNumeral_ten_iff.mp numeral).1
          exact stops_cons (isSign_eq_false (run.members c List.mem_cons_self)) _

end Numeral

/-! ## The filter -/

theorem isDecimalChar_of_isDigit {c : Char} (digit : c.isDigit = true) :
    Double.isDecimalChar c = true := by
  simp [Double.isDecimalChar, digit]

theorem isDecimalChar_of_signText {cs : List Char} {negative : Bool}
    (text : SignText cs negative) : ∀ c ∈ cs, Double.isDecimalChar c = true := by
  cases text with
  | absent => exact List.forall_mem_nil _
  | plus => exact List.all_eq_true.mp rfl
  | minus => exact List.all_eq_true.mp rfl

theorem isDecimalChar_of_radixNumeral {cs : List Char} {n : Nat} (numeral : RadixNumeral 10 cs n) :
    ∀ c ∈ cs, Double.isDecimalChar c = true :=
  fun c member => isDecimalChar_of_isDigit ((radixNumeral_ten_iff.mp numeral).1.members c member)

theorem isDecimalChar_of_mantissaText {cs : List Char} {n places : Nat}
    (text : MantissaText cs n places) : ∀ c ∈ cs, Double.isDecimalChar c = true := by
  cases text with
  | whole numeral => exact isDecimalChar_of_radixNumeral numeral
  | pointed numeral =>
      obtain ⟨left, right⟩ := List.forall_mem_append.mp (isDecimalChar_of_radixNumeral numeral)
      exact List.forall_mem_append.mpr ⟨left, List.forall_mem_cons.mpr ⟨rfl, right⟩⟩

theorem isDecimalChar_of_exponentText {cs : List Char} {power : Int}
    (text : ExponentText cs power) : ∀ c ∈ cs, Double.isDecimalChar c = true := by
  cases text with
  | absent => exact List.forall_mem_nil _
  | power announced signed numeral =>
      refine List.forall_mem_cons.mpr ⟨?_, List.forall_mem_append.mpr
        ⟨isDecimalChar_of_signText signed, isDecimalChar_of_radixNumeral numeral⟩⟩
      rcases announced with rfl | rfl <;> rfl

/-- **Every decimal passes the filter.** -/
theorem isDecimalChar_of_signedDecimal {cs : List Char} {negative : Bool} {d : Decimal}
    (text : SignedDecimal cs negative d) : ∀ c ∈ cs, Double.isDecimalChar c = true := by
  obtain ⟨sign, digits, signed, unsigned, rfl⟩ := text
  cases unsigned with
  | mk mantissa exponent =>
      exact List.forall_mem_append.mpr ⟨isDecimalChar_of_signText signed,
        List.forall_mem_append.mpr
          ⟨isDecimalChar_of_mantissaText mantissa, isDecimalChar_of_exponentText exponent⟩⟩

/-- No character of decimals is an `n` of either case. -/
theorem Double.toLower_ne_n {c : Char} (member : isDecimalChar c = true) : c.toLower ≠ 'n' := by
  simp only [isDecimalChar, Bool.or_eq_true, beq_iff_eq] at member
  rcases member with ((((digit | rfl) | rfl) | rfl) | rfl) | rfl
  · have bounds : 48 ≤ c.toNat ∧ c.toNat ≤ 57 := Char.isDigit_iff_toNat.mp digit
    have small : c.toLower = c := dif_neg fun ⟨capital, _⟩ =>
      absurd (show 65 ≤ c.toNat from capital) (by omega)
    rw [small]
    rintro rfl
    exact nomatch digit
  all_goals decide

/-- **No word for an infinity or for NaN passes the filter**, since they all have an `n`. -/
theorem Double.ofWord?_eq_none {cs : List Char} (members : ∀ c ∈ cs, isDecimalChar c = true)
    (negative : Bool) : ofWord? negative (cs.map Char.toLower) = none := by
  have absent : 'n' ∉ cs.map Char.toLower := by
    intro listed
    obtain ⟨c, member, lower⟩ := List.mem_map.mp listed
    exact toLower_ne_n (members c member) lower
  have other {word : List Char} (letter : 'n' ∈ word) : cs.map Char.toLower ≠ word :=
    fun same => absent (same ▸ letter)
  unfold ofWord?
  rw [if_neg (not_or.mpr ⟨other (by decide), other (by decide)⟩), if_neg (other (by decide))]

/-! ## Doubles -/

theorem Decimal.toDouble_ne_nan (d : Decimal) (negative : Bool) : d.toDouble negative ≠ .nan := by
  rw [d.toDouble_eq_nearest]
  exact Double.nearest_ne_nan _ _ _

/-- **A decimal is rounded to the nearest double.** -/
theorem Decimal.isNearest_toDouble (d : Decimal) (negative : Bool) :
    (d.toDouble negative).IsNearest negative d.unitsNum d.unitsDen := by
  rw [d.toDouble_eq_nearest]
  exact Double.isNearest_nearest negative d.unitsNum d.unitsDen_pos

namespace Double

/-- Characters of decimals are read as a numeral behind a sign, or not at all. -/
theorem ofDecimalText_eq {cs : List Char} (members : ∀ c ∈ cs, isDecimalChar c = true) :
    ofDecimalText cs = ((Numeral.read? (Numeral.splitSign cs).2).map
      (·.toDouble (Numeral.splitSign cs).1)).getD nan := by
  obtain ⟨sign, -, split⟩ := Numeral.exists_signText cs
  have behind : ∀ c ∈ (Numeral.splitSign cs).2, isDecimalChar c = true := by
    intro c member
    refine members c ?_
    rw [split]
    exact List.mem_append_right sign member
  unfold ofDecimalText parse?
  rw [if_pos (List.all_eq_true.mpr members)]
  dsimp only
  rw [ofWord?_eq_none behind]

/-- The text of a decimal is read as the double that the decimal is rounded to. -/
theorem ofDecimalText_of_signedDecimal {cs : List Char} {negative : Bool} {d : Decimal}
    (text : SignedDecimal cs negative d) : ofDecimalText cs = d.toDouble negative := by
  rw [ofDecimalText_eq (isDecimalChar_of_signedDecimal text)]
  obtain ⟨sign, digits, signed, unsigned, rfl⟩ := text
  obtain ⟨n, read, rfl⟩ := Numeral.exists_read? unsigned
  rw [Numeral.splitSign_append signed (Numeral.stops_sign unsigned), read]
  rfl

/-- What is read as a decimal is the text of one. -/
theorem exists_signedDecimal {cs : List Char} (number : ofDecimalText cs ≠ nan) :
    ∃ negative d, SignedDecimal cs negative d := by
  by_cases members : cs.all isDecimalChar = true
  · rw [ofDecimalText_eq (List.all_eq_true.mp members)] at number
    cases read : Numeral.read? (Numeral.splitSign cs).2 with
    | none =>
        rw [read] at number
        exact absurd rfl number
    | some n =>
        obtain ⟨sign, signed, split⟩ := Numeral.exists_signText cs
        exact ⟨_, _, sign, _, signed, Numeral.unsignedDecimal_of_read? read, split⟩
  · exact absurd (if_neg members) number

/-- No text of a decimal is a word that is not read as a decimal. -/
theorem ne_of_signedDecimal {cs word : List Char} {negative : Bool} {d : Decimal}
    (text : SignedDecimal cs negative d) (unread : ofDecimalText word = nan) : cs ≠ word := by
  rintro rfl
  rw [ofDecimalText_of_signedDecimal text] at unread
  exact d.toDouble_ne_nan negative unread

/-! ## Texts -/

/-- The letters that announce a base behind a zero. -/
def baseLetters : List Char := ['x', 'X', 'o', 'O', 'b', 'B']

/-- The text does not begin with a zero and the letter of a base. -/
def Unprefixed (cs : List Char) : Prop := ∀ letter ∈ baseLetters, ¬ ['0', letter] <+: cs

theorem baseOfLetter?_eq_none_iff {letter : Char} :
    baseOfLetter? letter = none ↔ letter ∉ baseLetters := by
  constructor
  · intro none listed
    have all : ∀ letter ∈ baseLetters, (baseOfLetter? letter).isSome = true :=
      List.all_eq_true.mp rfl
    have found := all letter listed
    rw [none] at found
    exact Bool.false_ne_true found
  · intro other
    simp only [baseLetters, List.mem_cons, List.not_mem_nil, or_false, not_or] at other
    simp [baseOfLetter?, other]

theorem unprefixed_iff {cs : List Char} : Unprefixed cs ↔
    ∀ letter digits, cs = '0' :: letter :: digits → baseOfLetter? letter = none := by
  constructor
  · rintro unprefixed letter digits rfl
    refine baseOfLetter?_eq_none_iff.mpr fun listed => unprefixed letter listed ?_
    exact List.prefix_append ['0', letter] digits
  · rintro plain letter listed ⟨digits, rfl⟩
    exact baseOfLetter?_eq_none_iff.mp (plain letter digits rfl) listed

/-- An infinity is read with any sign, or without. -/
theorem ofTrimmedText_infinity {sign : List Char} {negative : Bool}
    (signed : SignText sign negative) :
    ofTrimmedText (sign ++ "Infinity".toList) = infinite negative := by
  cases signed <;> decide

variable {cs : List Char}

/-- What is neither an infinity nor a number of some base is read as a decimal. -/
theorem ofTrimmedText_cases (unprefixed : Unprefixed cs) :
    (∃ sign negative, SignText sign negative ∧ cs = sign ++ "Infinity".toList) ∨
      ofTrimmedText cs = ofDecimalText cs := by
  by_cases unsigned : cs = "Infinity".toList
  · exact .inl ⟨_, _, .absent, unsigned⟩
  by_cases positive : cs = "+Infinity".toList
  · exact .inl ⟨_, _, .plus, positive⟩
  by_cases negative : cs = "-Infinity".toList
  · exact .inl ⟨_, _, .minus, negative⟩
  refine .inr ?_
  unfold ofTrimmedText
  rw [if_neg (not_or.mpr ⟨unsigned, positive⟩), if_neg negative]
  split
  · next letter digits => rw [unprefixed_iff.mp unprefixed letter digits rfl]
  · rfl

theorem ofChars_of_empty (empty : Text.trim cs = []) : ofChars cs = zero := by
  unfold ofChars
  exact if_pos (List.isEmpty_iff.mpr empty)

theorem ofChars_of_filled (filled : Text.trim cs ≠ []) :
    ofChars cs = ofTrimmedText (Text.trim cs) := by
  unfold ofChars
  exact if_neg (by simpa using filled)

theorem ofChars_of_infinity {sign : List Char} {negative : Bool} (signed : SignText sign negative)
    (split : Text.trim cs = sign ++ "Infinity".toList) : ofChars cs = infinite negative := by
  have filled : Text.trim cs ≠ [] := by
    rw [split]
    exact List.append_ne_nil_of_right_ne_nil sign (by decide)
  rw [ofChars_of_filled filled, split, ofTrimmedText_infinity signed]

/-- **The text of a decimal is read as the double that the decimal is rounded to**, with blanks
around it too. -/
theorem ofChars_of_signedDecimal {negative : Bool} {d : Decimal}
    (text : SignedDecimal (Text.trim cs) negative d) (unprefixed : Unprefixed (Text.trim cs)) :
    ofChars cs = d.toDouble negative := by
  have filled : Text.trim cs ≠ [] := ne_of_signedDecimal text (by decide)
  rw [ofChars_of_filled filled, ← ofDecimalText_of_signedDecimal text]
  rcases ofTrimmedText_cases unprefixed with ⟨sign, negative, signed, split⟩ | same
  · refine absurd split (ne_of_signedDecimal text ?_)
    cases signed <;> decide
  · exact same

/-- **The texts that are read as numbers are blanks, infinities and decimals**, unless they begin
with the prefix of a base. Blanks around them do not count. A text of blanks only is zero, and a
decimal is the double nearest to it, an infinity if it is too large. -/
theorem ofText_decimal {s : String} (unprefixed : Unprefixed (Text.trim s.toList)) :
    let text := Text.trim s.toList
    (ofText s ≠ nan ↔ text = [] ∨
      (∃ sign negative, SignText sign negative ∧ text = sign ++ "Infinity".toList) ∨
      ∃ negative d, SignedDecimal text negative d) ∧
    (text = [] → ofText s = zero) ∧
    (∀ sign negative, SignText sign negative → text = sign ++ "Infinity".toList →
      ofText s = infinite negative) ∧
    ∀ negative d, SignedDecimal text negative d →
      (ofText s).IsNearest negative d.unitsNum d.unitsDen := by
  intro text
  have decimal (negative : Bool) (d : Decimal) (grammar : SignedDecimal text negative d) :
      ofText s = d.toDouble negative := ofChars_of_signedDecimal grammar unprefixed
  refine ⟨⟨fun number => ?_, ?_⟩, ofChars_of_empty, fun _ _ => ofChars_of_infinity,
    fun negative d grammar => ?_⟩
  · by_cases empty : text = []
    · exact .inl empty
    rcases ofTrimmedText_cases unprefixed with word | same
    · exact .inr (.inl word)
    · unfold ofText at number
      rw [ofChars_of_filled empty, same] at number
      exact .inr (.inr (exists_signedDecimal number))
  · rintro (empty | ⟨sign, negative, signed, split⟩ | ⟨negative, d, grammar⟩)
    · unfold ofText
      rw [ofChars_of_empty empty]
      exact nofun
    · unfold ofText
      rw [ofChars_of_infinity signed split]
      exact nofun
    · rw [decimal negative d grammar]
      exact d.toDouble_ne_nan negative
  · rw [decimal negative d grammar]
    exact d.isNearest_toDouble negative

/-- A sign, a point in front of the digits, and an exponent with a capital letter and a sign of its
own, between blanks. -/
theorem ofText_decimal_signed :
    Unprefixed (Text.trim " -.25E+1\n".toList) ∧
      SignedDecimal (Text.trim " -.25E+1\n".toList) true ⟨25, -1⟩ ∧
      (ofText " -.25E+1\n").IsNearest true (Decimal.unitsNum ⟨25, -1⟩)
        (Decimal.unitsDen ⟨25, -1⟩) := by
  have trimmed : Text.trim " -.25E+1\n".toList = "-.25E+1".toList := by decide
  have unprefixed : Unprefixed (Text.trim " -.25E+1\n".toList) := by
    rw [trimmed]
    exact unprefixed_iff.mpr fun letter digits same => absurd (List.cons.inj same).1 (by decide)
  have mantissa : MantissaText ".25".toList 25 2 :=
    .pointed (natOfDigits?_eq_some_iff.mp (by decide) : RadixNumeral 10 ([] ++ ['2', '5']) 25)
  have exponent : ExponentText "E+1".toList 1 :=
    .power (.inr rfl) .plus (natOfDigits?_eq_some_iff.mp (by decide) : RadixNumeral 10 ['1'] 1)
  have grammar : SignedDecimal (Text.trim " -.25E+1\n".toList) true ⟨25, -1⟩ :=
    ⟨_, _, .minus, .mk mantissa exponent, trimmed⟩
  exact ⟨unprefixed, grammar, (ofText_decimal unprefixed).2.2.2 true _ grammar⟩

end Double

end PathQuery
