import PathQuery.Double.Decimal

/-!
# The text of a number

A number is printed with the digits of its shortest decimal. Numbers from `10 ^ -6` up to
`10 ^ 21` are positional, without a point when they are whole. All others have one digit before
the point and a signed exponent. Both zeros are `0`.
-/

set_option autoImplicit false

namespace PathQuery

namespace Decimal

/-- The greatest place of the point at which a decimal is still positional. -/
def greatestPoint : Int := 21

/-- The least place of the point at which a decimal is still positional. -/
def leastPoint : Int := -5

/-- The digits without the zeros at the end. -/
def significantDigits (d : Decimal) : List Char :=
  (d.digits.reverse.dropWhile (· == '0')).reverse

/-- Positional text: the point stands among the digits, or zeros fill the gap up to it. -/
def positional (digits : List Char) (point : Int) : List Char :=
  if point ≤ 0 then '0' :: '.' :: (List.replicate (-point).toNat '0' ++ digits)
  else if digits.length ≤ point then
    digits ++ List.replicate (point - digits.length).toNat '0'
  else digits.take point.toNat ++ '.' :: digits.drop point.toNat

/-- An exponent, which always has its sign. -/
def signedExponent (exponent : Int) : List Char :=
  (if exponent < 0 then '-' else '+') :: Nat.toDigits 10 exponent.natAbs

/-- Text with an exponent: the point follows the first digit, and is left out after the last. -/
def scientific (digits : List Char) (point : Int) : List Char :=
  match digits with
  | [] => []
  | [digit] => digit :: 'e' :: signedExponent (point - 1)
  | digit :: rest => digit :: '.' :: (rest ++ 'e' :: signedExponent (point - 1))

/-- The text of a positive decimal. -/
def text (d : Decimal) : List Char :=
  if leastPoint ≤ d.point ∧ d.point ≤ greatestPoint then positional d.significantDigits d.point
  else scientific d.significantDigits d.point

example : text ⟨1, 20⟩ = "100000000000000000000".toList := by decide +kernel
example : text ⟨1, 21⟩ = "1e+21".toList := by decide +kernel
example : text ⟨10, -7⟩ = "0.000001".toList := by decide +kernel
example : text ⟨15, -8⟩ = "1.5e-7".toList := by decide +kernel
example : text ⟨1025, -1⟩ = "102.5".toList := by decide +kernel

end Decimal

namespace Double

/-- The text of a number, as a list of characters. -/
def chars : Double → List Char
  | nan => "NaN".toList
  | infinite negative => (if negative then "-Infinity" else "Infinity").toList
  | finite negative m =>
      if m.units = 0 then ['0']
      else if negative then '-' :: m.shortest.text
      else m.shortest.text

/-- The text of a number. -/
def text (n : Double) : String := String.ofList n.chars

end Double

end PathQuery
