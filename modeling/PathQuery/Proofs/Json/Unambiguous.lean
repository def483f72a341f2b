import PathQuery.Proofs.Json.Rereading
import PathQuery.Proofs.Json.Tokens

/-!
# Texts of documents are unambiguous

Reading a text again may not give the document that was written, since numbers are read by scaling.
Two documents have different texts all the same (`Json.eq_of_chars_eq`). The first token of a
document tells of what kind it is, and the document is complete before anything that may stand
behind it (`Json.eq_of_tokens`). Among the words, numbers are told from names by what they are read
as, and from each other because their texts are different (`JsonNumber.eq_of_chars_eq`).
-/

set_option autoImplicit false

namespace PathQuery
namespace Json

/-! ## The first token of a document -/

/-- The word that the document is written as, if it is a name or a number. -/
def word? : Json → Option (List Char)
  | null => some "null".toList
  | bool b => some (if b then "true".toList else "false".toList)
  | number n => some n.chars
  | _ => none

section FirstToken

variable {json : Json} {rest ts : List Token}

theorem of_tokens_word {word : List Char} (same : json.tokens ++ rest = .word word :: ts) :
    json.word? = some word ∧ rest = ts := by
  cases json with
  | null | bool _ | number _ =>
      obtain ⟨first, behind⟩ := List.cons.inj same
      exact ⟨congrArg some (Token.word.inj first), behind⟩
  | _ => exact nomatch (List.cons.inj same).1

theorem of_tokens_string {s : String} (same : json.tokens ++ rest = .string s :: ts) :
    json = string s ∧ rest = ts := by
  cases json with
  | string _ =>
      obtain ⟨first, behind⟩ := List.cons.inj same
      exact ⟨congrArg string (Token.string.inj first), behind⟩
  | _ => exact nomatch (List.cons.inj same).1

theorem of_tokens_openList (same : json.tokens ++ rest = .openList :: ts) :
    ∃ items, json = list items ∧ itemTokens items ++ .closeList :: rest = ts := by
  cases json with
  | list items =>
      rw [tokens, List.cons_append, List.append_assoc] at same
      exact ⟨items, rfl, (List.cons.inj same).2⟩
  | _ => exact nomatch (List.cons.inj same).1

theorem of_tokens_openObject (same : json.tokens ++ rest = .openObject :: ts) :
    ∃ entries, json = object entries ∧ entryTokens entries ++ .closeObject :: rest = ts := by
  cases json with
  | object entries =>
      rw [tokens, List.cons_append, List.append_assoc] at same
      exact ⟨entries, rfl, (List.cons.inj same).2⟩
  | _ => exact nomatch (List.cons.inj same).1

/-- No document begins with the end of a list. -/
theorem tokens_ne_closeList : json.tokens ++ rest ≠ .closeList :: ts := by
  intro same
  cases json with
  | _ => exact nomatch (List.cons.inj same).1

end FirstToken

/-! ## Words -/

theorem ofWord?_word? {json : Json} {word : List Char} (canonical : json.Canonical)
    (written : json.word? = some word) :
    (∃ n, json = number n ∧ Token.ofWord? word = some (number n.reread)) ∨
      Token.ofWord? word = some json ∧ ∀ n, json ≠ number n := by
  cases json with
  | null =>
      cases written
      exact .inr ⟨rfl, fun _ same => nomatch same⟩
  | bool b =>
      cases written
      cases b <;> exact .inr ⟨rfl, fun _ same => nomatch same⟩
  | number n =>
      cases written
      exact .inl ⟨n, rfl, Token.ofWord?_of_number? (JsonNumber.number?_chars canonical)⟩
  | _ => exact absurd written nofun

/-- One word is one document. -/
theorem eq_of_word? {a b : Json} {word : List Char} (canonicalA : a.Canonical)
    (canonicalB : b.Canonical) (writtenA : a.word? = some word) (writtenB : b.word? = some word) :
    a = b := by
  rcases ofWord?_word? canonicalA writtenA with ⟨n, rfl, readA⟩ | ⟨readA, nameA⟩
  · rcases ofWord?_word? canonicalB writtenB with ⟨n', rfl, -⟩ | ⟨readB, nameB⟩
    · have same := Option.some.inj (writtenA.trans writtenB.symm)
      exact congrArg number (JsonNumber.eq_of_chars_eq canonicalA canonicalB same)
    · exact absurd (Option.some.inj (readB.symm.trans readA)) (nameB _)
  · rcases ofWord?_word? canonicalB writtenB with ⟨n, rfl, readB⟩ | ⟨readB, -⟩
    · exact absurd (Option.some.inj (readA.symm.trans readB)) (nameA _)
    · exact Option.some.inj (readA.symm.trans readB)

theorem eq_of_tokens_word {a b : Json} {word : List Char} {restA restB : List Token}
    (canonicalA : a.Canonical) (canonicalB : b.Canonical) (written : a.word? = some word)
    (same : .word word :: restA = b.tokens ++ restB) : a = b ∧ restA = restB := by
  obtain ⟨writtenB, rest⟩ := of_tokens_word same.symm
  exact ⟨eq_of_word? canonicalA canonicalB written writtenB, rest.symm⟩

/-! ## What stands behind an item or an entry -/

/-- The end of a list, or a comma and the other items. -/
def afterItem : List Json → List Token → List Token
  | [], rest => .closeList :: rest
  | next :: more, rest => .comma :: (itemTokens (next :: more) ++ .closeList :: rest)

theorem itemTokens_cons (item : Json) (more : List Json) (rest : List Token) :
    itemTokens (item :: more) ++ .closeList :: rest = item.tokens ++ afterItem more rest := by
  cases more with
  | nil => rfl
  | cons next more => exact List.append_assoc ..

/-- The end of an object, or a comma and the other entries. -/
def afterEntry : List (String × Json) → List Token → List Token
  | [], rest => .closeObject :: rest
  | next :: more, rest => .comma :: (entryTokens (next :: more) ++ .closeObject :: rest)

theorem entryTokens_cons (key : String) (value : Json) (more : List (String × Json))
    (rest : List Token) : entryTokens ((key, value) :: more) ++ .closeObject :: rest =
      .string key :: .colon :: (value.tokens ++ afterEntry more rest) := by
  cases more with
  | nil => rfl
  | cons next more =>
      exact congrArg (fun ts => Token.string key :: .colon :: ts) (List.append_assoc ..)

/-! ## Documents -/

mutual
/-- **The tokens of a document tell the document**, and where it ends. -/
theorem eq_of_tokens : (a b : Json) → a.Canonical → b.Canonical → ∀ {restA restB : List Token},
    a.tokens ++ restA = b.tokens ++ restB → a = b ∧ restA = restB
  | .null, _, canonicalA, canonicalB, _, _, same =>
      eq_of_tokens_word canonicalA canonicalB rfl same
  | .bool _, _, canonicalA, canonicalB, _, _, same =>
      eq_of_tokens_word canonicalA canonicalB rfl same
  | .number _, _, canonicalA, canonicalB, _, _, same =>
      eq_of_tokens_word canonicalA canonicalB rfl same
  | .string _, _, _, _, _, _, same => by
      obtain ⟨rfl, rest⟩ := of_tokens_string same.symm
      exact ⟨rfl, rest.symm⟩
  | .list items, _, canonicalA, canonicalB, _, _, same => by
      rw [tokens, List.cons_append, List.append_assoc] at same
      obtain ⟨items', rfl, inside⟩ := of_tokens_openList same.symm
      obtain ⟨rfl, rest⟩ := eq_of_itemTokens items items' canonicalA canonicalB inside.symm
      exact ⟨rfl, rest⟩
  | .object entries, _, canonicalA, canonicalB, _, _, same => by
      rw [tokens, List.cons_append, List.append_assoc] at same
      obtain ⟨entries', rfl, inside⟩ := of_tokens_openObject same.symm
      obtain ⟨rfl, rest⟩ := eq_of_entryTokens entries entries' canonicalA canonicalB inside.symm
      exact ⟨rfl, rest⟩

/-- The items of a list are told up to its end. -/
theorem eq_of_itemTokens : (a b : List Json) → CanonicalItems a → CanonicalItems b →
    ∀ {restA restB : List Token},
    itemTokens a ++ .closeList :: restA = itemTokens b ++ .closeList :: restB →
    a = b ∧ restA = restB
  | [], [], _, _, _, _, same => ⟨rfl, (List.cons.inj same).2⟩
  | [], _ :: _, _, _, _, _, same => by
      rw [itemTokens_cons] at same
      exact absurd same.symm tokens_ne_closeList
  | _ :: _, [], _, _, _, _, same => by
      rw [itemTokens_cons] at same
      exact absurd same tokens_ne_closeList
  | a :: more, b :: more', canonicalA, canonicalB, _, _, same => by
      rw [itemTokens_cons, itemTokens_cons] at same
      obtain ⟨rfl, after⟩ := eq_of_tokens a b canonicalA.1 canonicalB.1 same
      match more, more', after with
      | [], [], after => exact ⟨rfl, (List.cons.inj after).2⟩
      | [], _ :: _, after => exact nomatch (List.cons.inj after).1
      | _ :: _, [], after => exact nomatch (List.cons.inj after).1
      | next :: more, next' :: more', after =>
          obtain ⟨others, rest⟩ := eq_of_itemTokens (next :: more) (next' :: more') canonicalA.2
            canonicalB.2 (List.cons.inj after).2
          exact ⟨congrArg (a :: ·) others, rest⟩

/-- The entries of an object are told up to its end. -/
theorem eq_of_entryTokens : (a b : List (String × Json)) → CanonicalEntries a →
    CanonicalEntries b → ∀ {restA restB : List Token},
    entryTokens a ++ .closeObject :: restA = entryTokens b ++ .closeObject :: restB →
    a = b ∧ restA = restB
  | [], [], _, _, _, _, same => ⟨rfl, (List.cons.inj same).2⟩
  | [], (_, _) :: _, _, _, _, _, same => by
      rw [entryTokens_cons] at same
      exact nomatch (List.cons.inj same).1
  | (_, _) :: _, [], _, _, _, _, same => by
      rw [entryTokens_cons] at same
      exact nomatch (List.cons.inj same).1
  | (key, a) :: more, (key', b) :: more', canonicalA, canonicalB, _, _, same => by
      rw [entryTokens_cons, entryTokens_cons] at same
      obtain ⟨first, values⟩ := List.cons.inj same
      obtain rfl := Token.string.inj first
      obtain ⟨rfl, after⟩ := eq_of_tokens a b canonicalA.1 canonicalB.1 (List.cons.inj values).2
      match more, more', after with
      | [], [], after => exact ⟨rfl, (List.cons.inj after).2⟩
      | [], _ :: _, after => exact nomatch (List.cons.inj after).1
      | _ :: _, [], after => exact nomatch (List.cons.inj after).1
      | next :: more, next' :: more', after =>
          obtain ⟨others, rest⟩ := eq_of_entryTokens (next :: more) (next' :: more') canonicalA.2
            canonicalB.2 (List.cons.inj after).2
          exact ⟨congrArg ((key, a) :: ·) others, rest⟩
end

/-- **Different documents have different texts.** -/
theorem eq_of_chars_eq {a b : Json} (canonicalA : a.Canonical) (canonicalB : b.Canonical)
    (same : a.chars = b.chars) : a = b := by
  have scannedA := @scan_chars a canonicalA [] [] (Text.stops_nil _) rfl
  have scannedB := @scan_chars b canonicalB [] [] (Text.stops_nil _) rfl
  rw [same, scannedB] at scannedA
  exact (eq_of_tokens a b canonicalA canonicalB (Option.some.inj scannedA).symm).1

end Json
end PathQuery
