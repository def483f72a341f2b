import PathQuery.Double.Printing
import PathQuery.Json.Basic

/-!
# Writing JSON

Documents are written without blanks. A string escapes the quote, the backslash and the control
characters, by a letter where JSON has one and by four hexadecimal digits elsewhere; every other
character stands for itself. Numbers have the text that numbers have everywhere.
-/

set_option autoImplicit false

namespace PathQuery

namespace JsonNumber

/-- The text of a number. -/
def chars : JsonNumber → List Char
  | integer i => if i < 0 then '-' :: Nat.toDigits 10 i.natAbs else Nat.toDigits 10 i.natAbs
  | real negative m => (Double.finite negative m).chars

end JsonNumber

namespace Json

/-- A character as it stands in a string. -/
def escape (c : Char) : List Char :=
  if c = '"' then ['\\', '"']
  else if c = '\\' then ['\\', '\\']
  else if c = '\x08' then ['\\', 'b']
  else if c = '\x0c' then ['\\', 'f']
  else if c = '\n' then ['\\', 'n']
  else if c = '\r' then ['\\', 'r']
  else if c = '\t' then ['\\', 't']
  else if c.toNat < 0x20 then
    ['\\', 'u', '0', '0', Nat.digitChar (c.toNat / 16), Nat.digitChar (c.toNat % 16)]
  else [c]

/-- A string in quotes. -/
def quote (s : String) : List Char := '"' :: (s.toList.flatMap escape ++ ['"'])

mutual
/-- The text of a document. -/
def chars : Json → List Char
  | null => "null".toList
  | bool b => if b then "true".toList else "false".toList
  | number n => n.chars
  | string s => quote s
  | list items => '[' :: (itemChars items ++ [']'])
  | object entries => '{' :: (entryChars entries ++ ['}'])

/-- The texts of items, with commas between them. -/
def itemChars : List Json → List Char
  | [] => []
  | [item] => item.chars
  | item :: rest => item.chars ++ ',' :: itemChars rest

/-- The texts of entries, with commas between them. -/
def entryChars : List (String × Json) → List Char
  | [] => []
  | [(key, value)] => quote key ++ ':' :: value.chars
  | (key, value) :: rest => quote key ++ ':' :: (value.chars ++ ',' :: entryChars rest)
end

/-- The text of a document. -/
def text (json : Json) : String := String.ofList json.chars

end Json

end PathQuery
