import PathQuery.Text.CaseTable

/-!
# Lower case

Names are compared in lower case. Nearly every capital has one lower-case letter. Two characters
need more: a capital I with a dot becomes two characters, and a capital sigma becomes a final sigma
where a word ends, that is, where a cased letter stands before it and none after it. Characters
such as accents and apostrophes do not count when one looks for that letter.
-/

set_option autoImplicit false

namespace PathQuery.Text

/-- The character lies in one of the ranges. -/
def inRanges (ranges : List (Nat × Nat)) (c : Char) : Bool :=
  ranges.any fun (first, last) => first ≤ c.toNat && c.toNat ≤ last

def isCased (c : Char) : Bool := inRanges casedRanges c

def isCaseIgnorable (c : Char) : Bool := inRanges caseIgnorableRanges c

/-- The first character that counts beside a letter is a cased letter. -/
def startsCased (cs : List Char) : Bool :=
  ((cs.dropWhile isCaseIgnorable).head?.map isCased).getD false

/-- The lower-case letter of a capital that has just one, and every other character itself. -/
def lowerChar (c : Char) : Char :=
  let n := c.toNat
  match lowercaseRanges.find? fun (first, last, step, _) =>
      first ≤ n && n ≤ last && (n - first) % step == 0 with
  | some (_, _, _, offset) => Char.ofNat (n + offset).toNat
  | none => c

/-- The lower case of a text. `before` holds the characters to the left, the nearest first. -/
def lowerFrom (before : List Char) : List Char → List Char
  | [] => []
  | c :: rest =>
      let lower :=
        if c = 'Σ' then [if startsCased before && !startsCased rest then 'ς' else 'σ']
        else if c = 'İ' then ['i', '\u0307']
        else [lowerChar c]
      lower ++ lowerFrom (c :: before) rest

/-- The text in lower case. -/
def lowercase (s : String) : String := String.ofList (lowerFrom [] s.toList)

example : lowerFrom [] ['Σ', 'Α', 'Σ', ' ', 'Σ'] = ['σ', 'α', 'ς', ' ', 'σ'] := by decide +kernel
example : lowerFrom [] ['Α', '\'', 'Σ', '.', 'Α'] = ['α', '\'', 'σ', '.', 'α'] := by decide +kernel
example : lowerFrom [] ['K', 'İ', 'ẞ', '\u00d7'] = ['k', 'i', '\u0307', 'ß', '\u00d7'] := by
  decide +kernel

end PathQuery.Text
