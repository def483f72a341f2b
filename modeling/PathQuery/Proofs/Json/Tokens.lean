import PathQuery.Proofs.Json.Numbers

/-!
# Scanning what was written

`Json.tokens` lists the tokens of a document in the order in which its text has them. Scanning the
text of a document finds them, whatever stands behind the text (`Json.scan_chars`). Only a word has
to be told where it ends: behind a text there has to be the end, a blank, a quote or a mark, which
is what `Stops` says.

The numbers of the document have to be canonical (`Json.Canonical`), so that their texts are words.
-/

set_option autoImplicit false

namespace PathQuery
namespace Json

open Text

/-! ## The tokens of a document -/

mutual
/-- The tokens of a document. -/
def tokens : Json → List Token
  | null => [.word "null".toList]
  | bool b => [.word (if b then "true".toList else "false".toList)]
  | number n => [.word n.chars]
  | string s => [.string s]
  | list items => .openList :: (itemTokens items ++ [.closeList])
  | object entries => .openObject :: (entryTokens entries ++ [.closeObject])

def itemTokens : List Json → List Token
  | [] => []
  | [item] => item.tokens
  | item :: rest => item.tokens ++ .comma :: itemTokens rest

def entryTokens : List (String × Json) → List Token
  | [] => []
  | [(key, value)] => .string key :: .colon :: value.tokens
  | (key, value) :: rest =>
      .string key :: .colon :: (value.tokens ++ .comma :: entryTokens rest)
end

mutual
/-- All numbers in the document are canonical. -/
def Canonical : Json → Prop
  | number n => n.Canonical
  | list items => CanonicalItems items
  | object entries => CanonicalEntries entries
  | _ => True

def CanonicalItems : List Json → Prop
  | [] => True
  | item :: rest => item.Canonical ∧ CanonicalItems rest

def CanonicalEntries : List (String × Json) → Prop
  | [] => True
  | (_, value) :: rest => value.Canonical ∧ CanonicalEntries rest
end

namespace Token

/-! ## One character -/

/-- A character that completes no token. -/
theorem scan_silent {mode next : Mode} {c : Char} (step : step? mode c = some ([], next))
    (rest : List Char) : scan mode (c :: rest) = scan next rest := by
  rw [scan, step, Option.bind_some]
  exact Option.map_id'

/-- A character that completes tokens. -/
theorem scan_complete {mode next : Mode} {c : Char} {rest : List Char} {tokens ts : List Token}
    (step : step? mode c = some (tokens, next)) (scanned : scan next rest = some ts) :
    scan mode (c :: rest) = some (tokens ++ ts) := by
  rw [scan, step, Option.bind_some]
  exact congrArg (Option.map (tokens ++ ·)) scanned

/-- A mark between words is a token of its own. -/
theorem scan_mark {c : Char} {rest : List Char} {token : Token} {ts : List Token}
    (mark : step? .between c = some ([token], .between)) (scanned : scan .between rest = some ts) :
    scan .between (c :: rest) = some (token :: ts) :=
  scan_complete mark scanned

/-! ## Words -/

/-- The character does not end a word. -/
def isWordChar (c : Char) : Bool := !isSpace c && c != '"' && (punctuation? c).isNone

theorem step?_word {c : Char} (member : isWordChar c = true) (read : List Char) :
    step? .between c = some ([], .word [c]) ∧
      step? (.word read) c = some ([], .word (c :: read)) := by
  simp only [isWordChar, Bool.and_eq_true, Bool.not_eq_true', bne_iff_ne,
    Option.isNone_iff_eq_none] at member
  obtain ⟨⟨space, quote⟩, mark⟩ := member
  simp [step?, space, quote, mark]

/-- What ends a word does to the rest what it does between words. -/
theorem step?_stops {c : Char} (outside : isWordChar c = false) (read : List Char) :
    ∃ ts mode, step? .between c = some (ts, mode) ∧
      step? (.word read) c = some (.word read.reverse :: ts, mode) := by
  by_cases space : isSpace c = true
  · exact ⟨[], .between, by simp [step?, space], by simp [step?, space]⟩
  · by_cases quote : c = '"'
    · subst quote
      exact ⟨[], .string [], by simp [step?, space], by simp [step?, space]⟩
    · cases mark : punctuation? c with
      | none => simp [isWordChar, space, quote, mark] at outside
      | some token =>
          exact ⟨[token], .between, by simp [step?, space, quote, mark],
            by simp [step?, space, quote, mark]⟩

theorem scan_word {cs : List Char} (members : ∀ c ∈ cs, isWordChar c = true)
    (read rest : List Char) :
    scan (.word read) (cs ++ rest) = scan (.word (cs.reverse ++ read)) rest := by
  induction cs generalizing read with
  | nil => rfl
  | cons c cs inductionHypothesis =>
      have later := inductionHypothesis (fun d member => members d (List.mem_cons_of_mem _ member))
        (c :: read)
      have first := (step?_word (members c (List.mem_cons_self ..)) read).2
      rw [List.cons_append, scan_silent first, later, List.reverse_cons, List.append_assoc]
      rfl

/-- A word is complete where the text stops. -/
theorem scan_word_stops {rest : List Char} {ts : List Token} (stops : Stops isWordChar rest)
    (scanned : scan .between rest = some ts) (read : List Char) :
    scan (.word read) rest = some (.word read.reverse :: ts) := by
  cases rest with
  | nil =>
      cases scanned
      rfl
  | cons c rest =>
      obtain ⟨first, mode, between, inWord⟩ := step?_stops (stops c rfl) read
      rw [scan, between, Option.bind_some] at scanned
      obtain ⟨later, scannedRest, rfl⟩ := Option.map_eq_some_iff.mp scanned
      exact scan_complete inWord scannedRest

theorem scan_of_word {cs rest : List Char} {ts : List Token} (run : Run isWordChar cs)
    (stops : Stops isWordChar rest) (scanned : scan .between rest = some ts) :
    scan .between (cs ++ rest) = some (.word cs :: ts) := by
  cases cs with
  | nil => exact absurd rfl run.ne_nil
  | cons c cs =>
      have begun := (step?_word (run.members c (List.mem_cons_self ..)) []).1
      have members : ∀ d ∈ cs, isWordChar d = true :=
        fun d member => run.members d (List.mem_cons_of_mem _ member)
      rw [List.cons_append, scan_silent begun, scan_word members, scan_word_stops stops scanned,
        List.reverse_append, List.reverse_reverse]
      rfl

/-! ## Strings -/

/-- A hexadecimal digit is worth what it was written for. -/
theorem digitValue?_digitChar {n : Nat} (small : n < 16) :
    digitValue? (Nat.digitChar n) = some n := by
  have all : ∀ n < 16, digitValue? (Nat.digitChar n) = some n := by decide
  exact all n small

/-- A control character is the code unit of four digits. -/
theorem afterUnit?_control {c : Char} (control : c.toNat < 0x20) (read : List Char) :
    afterUnit? read none c.toNat = some (.string (c :: read)) := by
  have leading : isLeading c.toNat = false := by
    simp only [isLeading, Bool.and_eq_false_iff, decide_eq_false_iff_not]
    omega
  have trailing : isTrailing c.toNat = false := by
    simp only [isTrailing, Bool.and_eq_false_iff, decide_eq_false_iff_not]
    omega
  simp [afterUnit?, leading, trailing]

/-- What a character is written as in a string is read as the character. -/
theorem scan_escape (c : Char) (read rest : List Char) :
    scan (.string read) (escape c ++ rest) = scan (.string (c :: read)) rest := by
  have letter {l c : Char} (other : l ≠ 'u') (means : ofEscape? l = some c) :
      scan (.string read) ('\\' :: l :: rest) = scan (.string (c :: read)) rest := by
    have letter : step? (.escape read) l = some ([], .string (c :: read)) := by
      simp [step?, other, means]
    have backslash : step? (.string read) '\\' = some ([], .escape read) := rfl
    rw [scan_silent backslash, scan_silent letter]
  by_cases named : c = '"' ∨ c = '\\' ∨ c = '\x08' ∨ c = '\x0c' ∨ c = '\n' ∨ c = '\r' ∨ c = '\t'
  · rcases named with rfl | rfl | rfl | rfl | rfl | rfl | rfl <;>
      exact letter (by decide) (by decide)
  · simp only [not_or] at named
    obtain ⟨quote, backslash, backspace, formFeed, newline, carriageReturn, tab⟩ := named
    by_cases control : c.toNat < 0x20
    · have value : c.toNat / 16 * 16 + c.toNat % 16 = c.toNat := by omega
      have start : step? (.string read) '\\' = some ([], .escape read) := rfl
      have unit : step? (.escape read) 'u' = some ([], .unit read none 4 0) := rfl
      have first : step? (.unit read none 4 0) '0' = some ([], .unit read none 3 0) := rfl
      have second : step? (.unit read none 3 0) '0' = some ([], .unit read none 2 0) := rfl
      have upper : step? (.unit read none 2 0) (Nat.digitChar (c.toNat / 16)) =
          some ([], .unit read none 1 (c.toNat / 16)) := by
        simp [step?, digitValue?_digitChar (show c.toNat / 16 < 16 by omega)]
      have lower : step? (.unit read none 1 (c.toNat / 16)) (Nat.digitChar (c.toNat % 16)) =
          some ([], .string (c :: read)) := by
        simp [step?, digitValue?_digitChar (show c.toNat % 16 < 16 by omega), value,
          afterUnit?_control control]
      have written : escape c = ['\\', 'u', '0', '0', Nat.digitChar (c.toNat / 16),
          Nat.digitChar (c.toNat % 16)] := by
        simp [escape, quote, backslash, backspace, formFeed, newline, carriageReturn, tab, control]
      rw [written]
      simp only [List.cons_append, List.nil_append]
      rw [scan_silent start, scan_silent unit, scan_silent first, scan_silent second,
        scan_silent upper, scan_silent lower]
    · have written : escape c = [c] := by
        simp [escape, quote, backslash, backspace, formFeed, newline, carriageReturn, tab, control]
      have plain : step? (.string read) c = some ([], .string (c :: read)) := by
        simp [step?, quote, backslash, control]
      rw [written, List.singleton_append, scan_silent plain]

/-- A string is read as it was written. -/
theorem scan_quote (s : String) {rest : List Char} {ts : List Token}
    (scanned : scan .between rest = some ts) :
    scan .between (quote s ++ rest) = some (.string s :: ts) := by
  have body : ∀ cs read : List Char, scan (.string read) (cs.flatMap escape ++ '"' :: rest) =
      scan (.string (cs.reverse ++ read)) ('"' :: rest) := by
    intro cs
    induction cs with
    | nil => exact fun _ => rfl
    | cons c cs inductionHypothesis =>
        intro read
        rw [List.flatMap_cons, List.append_assoc, scan_escape, inductionHypothesis,
          List.reverse_cons, List.append_assoc]
        rfl
  have opened : step? .between '"' = some ([], .string []) := rfl
  have closed : step? (.string (s.toList.reverse ++ [])) '"' = some ([.string s], .between) := by
    simp [step?]
  rw [quote, List.cons_append, List.append_assoc, scan_silent opened, List.singleton_append, body]
  exact scan_complete closed scanned

/-! ## Documents -/

theorem isWordChar_of_isDigit {c : Char} (digit : c.isDigit = true) : isWordChar c = true := by
  have other {d : Char} (outside : d.isDigit = false) : c ≠ d := by
    rintro rfl
    exact absurd digit (by simp [outside])
  have space : isSpace c = false := by
    simp [isSpace, @other ' ' rfl, @other '\t' rfl, @other '\n' rfl, @other '\r' rfl]
  have mark : punctuation? c = none := by
    simp [punctuation?, @other '[' rfl, @other ']' rfl, @other '\x7b' rfl, @other '\x7d' rfl,
      @other ',' rfl, @other ':' rfl]
  simp [isWordChar, space, mark, @other '"' rfl]

theorem run_signedNumeral {n : Numeral} (wellFormed : n.WellFormed) (negative : Bool) :
    Run isWordChar (Numeral.signChars negative ++ n.chars) := by
  refine ⟨by simp [Numeral.chars, wellFormed.whole.ne_nil], fun c member => ?_⟩
  rcases Numeral.mem_signedNumeral wellFormed negative c member with digit | other
  · exact isWordChar_of_isDigit digit
  · have marks : ∀ d ∈ ['.', 'e', '+', '-'], isWordChar d = true := List.all_eq_true.mp rfl
    exact marks c other

end Token

open Token

theorem scan_number {n : JsonNumber} (canonical : n.Canonical) {rest : List Char}
    {ts : List Token} (stops : Stops isWordChar rest) (scanned : scan .between rest = some ts) :
    scan .between (n.chars ++ rest) = some (.word n.chars :: ts) := by
  obtain ⟨negative, numeral, wellFormed, text⟩ := JsonNumber.exists_numeral canonical
  rw [text]
  exact scan_of_word (run_signedNumeral wellFormed negative) stops scanned

mutual
/-- **Scanning the text of a document finds its tokens.** -/
theorem scan_chars : (json : Json) → json.Canonical → ∀ {rest : List Char} {ts : List Token},
    Stops isWordChar rest → scan .between rest = some ts →
    scan .between (json.chars ++ rest) = some (json.tokens ++ ts)
  | .null, _, _, _, stops, scanned =>
      scan_of_word ⟨nofun, List.all_eq_true.mp rfl⟩ stops scanned
  | .bool true, _, _, _, stops, scanned =>
      scan_of_word ⟨nofun, List.all_eq_true.mp rfl⟩ stops scanned
  | .bool false, _, _, _, stops, scanned =>
      scan_of_word ⟨nofun, List.all_eq_true.mp rfl⟩ stops scanned
  | .number n, canonical, _, _, stops, scanned => by
      rw [chars, tokens]
      exact scan_number canonical stops scanned
  | .string s, _, _, _, _, scanned => by
      rw [chars, tokens]
      exact scan_quote s scanned
  | .list items, canonical, rest, ts, _, scanned => by
      have closed : scan .between (']' :: rest) = some (.closeList :: ts) :=
        scan_mark rfl scanned
      have inner := scan_itemChars items canonical (stops_cons (by decide) rest) closed
      have opened := @scan_mark '[' _ .openList _ rfl inner
      simpa only [chars, tokens, List.cons_append, List.append_assoc, List.nil_append] using opened
  | .object entries, canonical, rest, ts, _, scanned => by
      have closed : scan .between ('\x7d' :: rest) = some (.closeObject :: ts) :=
        scan_mark rfl scanned
      have inner := scan_entryChars entries canonical (stops_cons (by decide) rest) closed
      have opened := @scan_mark '\x7b' _ .openObject _ rfl inner
      simpa only [chars, tokens, List.cons_append, List.append_assoc, List.nil_append] using opened

theorem scan_itemChars : (items : List Json) → CanonicalItems items →
    ∀ {rest : List Char} {ts : List Token},
    Stops isWordChar rest → scan .between rest = some ts →
    scan .between (itemChars items ++ rest) = some (itemTokens items ++ ts)
  | [], _, _, _, _, scanned => scanned
  | [item], canonical, _, _, stops, scanned => scan_chars item canonical.1 stops scanned
  | item :: next :: more, canonical, rest, ts, stops, scanned => by
      have later := scan_itemChars (next :: more) canonical.2 stops scanned
      have separated : scan .between (',' :: (itemChars (next :: more) ++ rest)) =
          some (.comma :: (itemTokens (next :: more) ++ ts)) :=
        scan_mark rfl later
      have first := scan_chars item canonical.1 (stops_cons (by decide) _) separated
      simpa only [itemChars, itemTokens, List.append_assoc, List.cons_append] using first

theorem scan_entryChars : (entries : List (String × Json)) → CanonicalEntries entries →
    ∀ {rest : List Char} {ts : List Token},
    Stops isWordChar rest → scan .between rest = some ts →
    scan .between (entryChars entries ++ rest) = some (entryTokens entries ++ ts)
  | [], _, _, _, _, scanned => scanned
  | [(key, value)], canonical, rest, ts, stops, scanned => by
      have first := scan_chars value canonical.1 stops scanned
      rw [entryChars, entryTokens, List.append_assoc]
      exact scan_quote key (@scan_mark ':' _ .colon _ rfl first)
  | (key, value) :: next :: more, canonical, rest, ts, stops, scanned => by
      have later := scan_entryChars (next :: more) canonical.2 stops scanned
      have separated : scan .between (',' :: (entryChars (next :: more) ++ rest)) =
          some (.comma :: (entryTokens (next :: more) ++ ts)) :=
        scan_mark rfl later
      have first := scan_chars value canonical.1 (stops_cons (by decide) _) separated
      have marked := scan_quote key (@scan_mark ':' _ .colon _ rfl first)
      simpa only [entryChars, entryTokens, List.append_assoc, List.cons_append] using marked
end

end Json
end PathQuery
