import PathQuery.Double.Scaling
import PathQuery.Json.Basic

/-!
# Tokens of a JSON text

A JSON text is cut into tokens before its structure is read: the six punctuation marks, strings,
and words, which are the runs of all other characters. `Token.scan` reads one character after the
other; `Token.Mode` says what it is in the middle of. A word has to be `true`, `false`, `null` or a
number (`Token.ofWord?`).

In a string no control character may stand as it is, and a character beyond `0xffff` is escaped as
two code units, the first of which is an error without the second. Numbers are read by scaling, and
one that is too large for a double is an error as well.
-/

set_option autoImplicit false

namespace PathQuery.Json

/-- A token of a JSON text. -/
inductive Token where
  | openList
  | closeList
  | openObject
  | closeObject
  | comma
  | colon
  | string (s : String)
  | word (chars : List Char)

namespace Token

/-- The characters that may stand between tokens. -/
def isSpace (c : Char) : Bool := c == ' ' || c == '\t' || c == '\n' || c == '\r'

def punctuation? (c : Char) : Option Token :=
  if c = '[' then some openList
  else if c = ']' then some closeList
  else if c = '{' then some openObject
  else if c = '}' then some closeObject
  else if c = ',' then some comma
  else if c = ':' then some colon
  else none

/-! ## Words -/

/-- The digits before the point are one zero, or do not begin with one. -/
def wellBegun (whole : List Char) : Bool :=
  whole == ['0'] || (!whole.isEmpty && whole.head? != some '0')

/-- The numeral has digits on both sides of its point, and no zeros in front. -/
def isStrict (n : Numeral) : Bool := wellBegun n.whole && n.fraction != some []

/-- The number of a numeral: an integer if it is written as one and is not too large, else what
scaling makes of its leading digits. Minus zero is a double. -/
def numberOfNumeral? (negative : Bool) (n : Numeral) : Option JsonNumber :=
  let whole := n.toDecimal.coefficient
  if n.isWhole && whole ≤ JsonNumber.greatestInteger && !(negative && whole == 0) then
    some (.integer (if negative then -whole else whole))
  else n.leading.scaled?.map (.real negative)

/-- The number that a word is. -/
def number? (word : List Char) : Option JsonNumber :=
  let (negative, rest) := match word with
    | '-' :: rest => (true, rest)
    | _ => (false, word)
  ((Numeral.read? rest).filter isStrict).bind (numberOfNumeral? negative)

/-- The document that a word is. -/
def ofWord? (word : List Char) : Option Json :=
  if word = "null".toList then some .null
  else if word = "true".toList then some (.bool true)
  else if word = "false".toList then some (.bool false)
  else (number? word).map .number

/-! ## Strings -/

/-- The character that a letter after a backslash stands for. -/
def ofEscape? (c : Char) : Option Char :=
  if c = '"' ∨ c = '\\' ∨ c = '/' then some c
  else if c = 'b' then some '\x08'
  else if c = 'f' then some '\x0c'
  else if c = 'n' then some '\n'
  else if c = 'r' then some '\r'
  else if c = 't' then some '\t'
  else none

/-- The code unit is the first of a pair. -/
def isLeading (unit : Nat) : Bool := 0xd800 ≤ unit && unit ≤ 0xdbff

/-- The code unit is the second of a pair. -/
def isTrailing (unit : Nat) : Bool := 0xdc00 ≤ unit && unit ≤ 0xdfff

/-- The character of a pair of code units. -/
def ofPair (leading trailing : Nat) : Char :=
  Char.ofNat (0x10000 + (leading - 0xd800) * 0x400 + (trailing - 0xdc00))

/-! ## Scanning -/

/-- What scanning is in the middle of. The characters of a word or a string that have been read
already stand in reverse. -/
inductive Mode where
  | between
  | word (read : List Char)
  | string (read : List Char)
  /-- After a backslash in a string. -/
  | escape (read : List Char)
  /-- Among the hexadecimal digits of a code unit. -/
  | unit (read : List Char) (leading : Option Nat) (digitsLeft value : Nat)
  /-- After the first unit of a pair, before the backslash of the second. -/
  | pairBackslash (read : List Char) (leading : Nat)
  /-- After the backslash of the second unit of a pair. -/
  | pairLetter (read : List Char) (leading : Nat)

/-- The mode after a whole code unit. -/
def afterUnit? (read : List Char) (leading : Option Nat) (unit : Nat) : Option Mode :=
  match leading with
  | none =>
      if isLeading unit then some (.pairBackslash read unit)
      else if isTrailing unit then none
      else some (.string (Char.ofNat unit :: read))
  | some first =>
      if isTrailing unit then some (.string (ofPair first unit :: read)) else none

/-- The tokens that one character completes and the mode after it. -/
def step? (mode : Mode) (c : Char) : Option (List Token × Mode) :=
  match mode with
  | .between =>
      if isSpace c then some ([], .between)
      else if c = '"' then some ([], .string [])
      else match punctuation? c with
        | some token => some ([token], .between)
        | none => some ([], .word [c])
  | .word read =>
      if isSpace c then some ([.word read.reverse], .between)
      else if c = '"' then some ([.word read.reverse], .string [])
      else match punctuation? c with
        | some mark => some ([.word read.reverse, mark], .between)
        | none => some ([], .word (c :: read))
  | .string read =>
      if c = '"' then some ([.string (String.ofList read.reverse)], .between)
      else if c = '\\' then some ([], .escape read)
      else if c.toNat < 0x20 then none
      else some ([], .string (c :: read))
  | .escape read =>
      if c = 'u' then some ([], .unit read none 4 0)
      else (ofEscape? c).map fun char => ([], .string (char :: read))
  | .unit read leading digitsLeft value =>
      (digitValue? c).bind fun digit =>
        let value := value * 16 + digit
        if digitsLeft ≤ 1 then (afterUnit? read leading value).map fun mode => ([], mode)
        else some ([], .unit read leading (digitsLeft - 1) value)
  | .pairBackslash read leading =>
      if c = '\\' then some ([], .pairLetter read leading) else none
  | .pairLetter read leading =>
      if c = 'u' then some ([], .unit read (some leading) 4 0) else none

/-- The tokens that the end of the text completes. -/
def finish? : Mode → Option (List Token)
  | .between => some []
  | .word read => some [.word read.reverse]
  | _ => none

/-- The tokens of a text, in the given mode. -/
def scan (mode : Mode) : List Char → Option (List Token)
  | [] => finish? mode
  | c :: rest =>
      (step? mode c).bind fun (tokens, mode) => (scan mode rest).map (tokens ++ ·)

end Token

end PathQuery.Json
