/-!
# Order by code units

Texts are ordered by their sixteen-bit code units. A character beyond `0xffff` is written as two
units, the first from `0xd800` to `0xdbff`, so it comes before the characters from `0xe000` on,
although its code point is greater.
-/

set_option autoImplicit false

namespace PathQuery.Text

/-- The sixteen-bit code units of a character. -/
def codeUnits (c : Char) : List Nat :=
  let n := c.toNat
  if n < 0x10000 then [n]
  else [0xd800 + (n - 0x10000) / 0x400, 0xdc00 + (n - 0x10000) % 0x400]

/-- The order of two texts by their code units. -/
def compare (s t : String) : Ordering :=
  Ord.compare (s.toList.flatMap codeUnits) (t.toList.flatMap codeUnits)

end PathQuery.Text
