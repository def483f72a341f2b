import PathQuery.Double.Decimal
import PathQuery.Text.Blank

/-!
# Reading numbers

A `Numeral` is an unsigned decimal as it is written: digits, perhaps a point with digits, perhaps
an exponent. `Numeral.read?` reads a whole text as one, `Numeral.toDouble` rounds it correctly.

`Double.parse?` is the reading of the standard library, which also knows words for infinities and
for NaN, in any case.

`Double.ofText` is the lenient reading that comparisons use. Blanks around the text do not count
and an empty text is zero. `Infinity` may have a sign. After `0x`, `0o` or `0b`, in either case, a
64-bit whole number of that base follows, which may have a plus sign. Everything else is left to
`Double.parse?`, if it has only characters that decimals are made of, and is no number if it has
others.
-/

set_option autoImplicit false

namespace PathQuery

/-! ## Digits of a base -/

/-- What a digit is worth in bases up to sixteen. -/
def digitValue? (c : Char) : Option Nat :=
  if c.isDigit then some (c.toNat - '0'.toNat)
  else if 'a' ≤ c ∧ c ≤ 'f' then some (c.toNat - 'a'.toNat + 10)
  else if 'A' ≤ c ∧ c ≤ 'F' then some (c.toNat - 'A'.toNat + 10)
  else none

/-- What a digit is worth in the given base, if it is one. -/
def digitOfBase? (base : Nat) (c : Char) : Option Nat :=
  (digitValue? c).filter (· < base)

/-- The number that digits of a base stand for. There must be at least one digit. -/
def natOfDigits? (base : Nat) (cs : List Char) : Option Nat :=
  if cs.isEmpty then none
  else cs.foldlM (fun total c => (digitOfBase? base c).map (total * base + ·)) 0

/-! ## Numerals -/

/-- A decimal as it is written, without its sign. -/
structure Numeral where
  /-- The digits before the point. -/
  whole : List Char
  /-- The digits after the point, if there is one. -/
  fraction : Option (List Char)
  /-- The power of ten, if there is an `e` or `E`. -/
  exponent : Option Int

namespace Numeral

/-- The sign at the head of a text, and what follows. A text without a sign is positive. -/
def splitSign : List Char → Bool × List Char
  | '-' :: rest => (true, rest)
  | '+' :: rest => (false, rest)
  | cs => (false, cs)

/-- The integer that a text of digits with an optional sign stands for. -/
def readInt? (cs : List Char) : Option Int :=
  let (negative, digits) := splitSign cs
  (natOfDigits? 10 digits).map fun n => if negative then -(n : Int) else n

/-- Reads what follows the digits and the point of a numeral: nothing, or an exponent. -/
def readExponent? : List Char → Option (Option Int)
  | [] => some none
  | c :: rest => if c = 'e' ∨ c = 'E' then (readInt? rest).map some else none

/-- Reads a whole text as a numeral. There is at least one digit before the exponent. -/
def read? (cs : List Char) : Option Numeral :=
  let whole := cs.takeWhile Char.isDigit
  let (fraction, rest) := match cs.dropWhile Char.isDigit with
    | '.' :: rest => (some (rest.takeWhile Char.isDigit), rest.dropWhile Char.isDigit)
    | rest => (none, rest)
  if whole.isEmpty && (fraction.getD []).isEmpty then none
  else (readExponent? rest).map fun exponent => ⟨whole, fraction, exponent⟩

/-- The value of a numeral. -/
def toDecimal (n : Numeral) : Decimal :=
  let fraction := n.fraction.getD []
  ⟨Nat.ofDigitChars 10 (n.whole ++ fraction) 0, n.exponent.getD 0 - fraction.length⟩

/-- The double nearest to a numeral, with the given sign. -/
def toDouble (negative : Bool) (n : Numeral) : Double := n.toDecimal.toDouble negative

/-- The numeral is a row of digits only. -/
def isWhole (n : Numeral) : Bool := n.fraction.isNone && n.exponent.isNone

end Numeral

namespace Double

/-! ## The reading of the standard library -/

/-- The infinity or NaN that a word stands for, in small letters. -/
def ofWord? (negative : Bool) (word : List Char) : Option Double :=
  if word = "inf".toList ∨ word = "infinity".toList then some (infinite negative)
  else if word = "nan".toList then some nan
  else none

/-- Reads a number with an optional sign: a numeral, or a word in any case. -/
def parse? (cs : List Char) : Option Double :=
  let (negative, rest) := Numeral.splitSign cs
  match ofWord? negative (rest.map Char.toLower) with
  | some number => some number
  | none => (Numeral.read? rest).map (·.toDouble negative)

example : parse? "-INF".toList = some (infinite true) := by decide
example : parse? "+nan".toList = some nan := by decide

end Double

/-! ## Lenient reading -/

/-- The base that a letter after a leading zero announces. -/
def baseOfLetter? (c : Char) : Option Nat :=
  if c = 'x' ∨ c = 'X' then some 16
  else if c = 'o' ∨ c = 'O' then some 8
  else if c = 'b' ∨ c = 'B' then some 2
  else none

/-- A whole number of the given base below `2 ^ 64`, which may have a plus sign. -/
def readWord? (base : Nat) (cs : List Char) : Option Nat :=
  let digits := match cs with
    | '+' :: rest => rest
    | _ => cs
  (natOfDigits? base digits).filter (· < UInt64.size)

namespace Double

/-- The characters that decimals are made of. -/
def isDecimalChar (c : Char) : Bool :=
  c.isDigit || c == '+' || c == '-' || c == '.' || c == 'e' || c == 'E'

/-- Reads a number that is made of the characters of decimals only. What is none is NaN. -/
def ofDecimalText (cs : List Char) : Double :=
  if cs.all isDecimalChar then (parse? cs).getD nan else nan

/-- Reads a text that has no blanks around it and is not empty. -/
def ofTrimmedText (cs : List Char) : Double :=
  if cs = "Infinity".toList ∨ cs = "+Infinity".toList then infinite false
  else if cs = "-Infinity".toList then infinite true
  else match cs with
    | '0' :: letter :: digits =>
        match baseOfLetter? letter with
        | some base => ((readWord? base digits).map ofNat).getD nan
        | none => ofDecimalText cs
    | _ => ofDecimalText cs

/-- The number that a text stands for, or NaN. -/
def ofChars (cs : List Char) : Double :=
  let trimmed := Text.trim cs
  if trimmed.isEmpty then zero else ofTrimmedText trimmed

/-- The number that a text stands for, or NaN. -/
def ofText (s : String) : Double := ofChars s.toList

example : ofText " 0x1F " = ofNat 31 := by decide +kernel
example : ofText "0o+17" = ofNat 15 := by decide +kernel
example : ofText "-0x1" = nan := by decide +kernel
example : ofText "2.50e1" = ofNat 25 := by decide +kernel
example : ofText "1e400" = infinite false := by decide +kernel
example : ofText "-1e-400" = finite true .zero := by decide +kernel
example : ofText "1e" = nan := by decide +kernel
example : ofText "-inf" = nan := by decide +kernel

end Double

end PathQuery
