import PathQuery.Proofs.Path.Grammar
import PathQuery.Text.Lowercase

/-!
# Lower case and words of ASCII letters

Two capitals beyond ASCII have a letter of ASCII in their lower case: a capital I with a dot begins
with an `i`, and the sign for kelvins is a capital of `k`. Every other character beyond ASCII stays
beyond it (`le_toNat_lowerChar`). So a word of ASCII without these two letters is the lower case of
no text but itself, in any case of its letters (`lowercase_eq_iff`).
-/

set_option autoImplicit false

namespace PathQuery
namespace Text

/-! ## Characters -/

/-- The sign for kelvins, a capital of `k` beyond ASCII. -/
def kelvin : Char := '\u212a'

theorem toNat_ofNat {n : Nat} (valid : n.isValidChar) : (Char.ofNat n).toNat = n := by
  rw [Char.ofNat, dif_pos valid]
  rfl

/-- Only the capitals of ASCII have another letter in its lower case. -/
theorem toLower_of_not_capital {c : Char} (other : ¬ (65 ≤ c.toNat ∧ c.toNat ≤ 90)) :
    c.toLower = c := by
  have capital : ¬ (c.val ≥ 'A'.val ∧ c.val ≤ 'Z'.val) := fun ⟨first, last⟩ => other ⟨first, last⟩
  exact dif_neg capital

/-- A range holds the capitals of ASCII, or the sign for kelvins, or capitals beyond ASCII whose
letters are characters beyond it. -/
def Placed (first last : Nat) (offset : Int) : Prop :=
  first = 65 ∧ last = 90 ∨ first = kelvin.toNat ∧ last = kelvin.toNat ∨
    128 ≤ first ∧ 128 ≤ first + offset ∧
      (last + offset < 0xd800 ∨ 0xdfff < first + offset ∧ last + offset < 0x110000)

theorem placed_of_mem {first last step : Nat} {offset : Int}
    (member : (first, last, step, offset) ∈ lowercaseRanges) : Placed first last offset := by
  have all : ∀ range ∈ lowercaseRanges, Placed range.1 range.2.1 range.2.2.2 := by
    unfold Placed
    decide +kernel
  exact all _ member

/-- A character is its own lower case, or it lies in a range. -/
theorem lowerChar_cases (c : Char) :
    lowerChar c = c ∨ ∃ first last offset, Placed first last offset ∧ first ≤ c.toNat ∧
      c.toNat ≤ last ∧ lowerChar c = Char.ofNat (c.toNat + offset).toNat := by
  simp only [lowerChar]
  split
  · next first last step offset found =>
      have inside := List.find?_some found
      simp only [Bool.and_eq_true, decide_eq_true_eq] at inside
      exact .inr ⟨first, last, offset, placed_of_mem (List.mem_of_find?_eq_some found),
        inside.1.1, inside.1.2, rfl⟩
  · exact .inl rfl

/-- In ASCII the lower case is that of its letters. -/
theorem lowerChar_ascii {c : Char} (ascii : c.toNat < 128) : lowerChar c = c.toLower := by
  by_cases capital : 65 ≤ c.toNat ∧ c.toNat ≤ 90
  · have all : ∀ n < 91, 65 ≤ n → lowerChar (Char.ofNat n) = (Char.ofNat n).toLower := by
      decide +kernel
    have this := all c.toNat (by omega) capital.1
    rwa [Char.ofNat_toNat] at this
  · rw [toLower_of_not_capital capital]
    rcases lowerChar_cases c with same | ⟨first, last, offset, placed, low, high, -⟩
    · exact same
    · have sign : 128 ≤ kelvin.toNat := by decide
      rcases placed with letters | kelvins | beyond <;> omega

/-- The lower case of a character beyond ASCII is beyond ASCII. -/
theorem le_toNat_lowerChar {c : Char} (beyond : 128 ≤ c.toNat) (other : c ≠ kelvin) :
    128 ≤ (lowerChar c).toNat := by
  rcases lowerChar_cases c with same | ⟨first, last, offset, placed, low, high, found⟩
  · rwa [same]
  · rcases placed with letters | kelvins | ⟨-, lowLetter, valid⟩
    · omega
    · have same : c.toNat = kelvin.toNat := by omega
      exact absurd (Char.toNat_inj.mp same) other
    · rw [found, toNat_ofNat (by unfold Nat.isValidChar; omega)]
      omega

/-! ## Words -/

/-- The character is in ASCII, and so is every capital of it. -/
def Unambiguous (d : Char) : Prop := d.toNat < 128 ∧ d ≠ 'i' ∧ d ≠ 'k'

instance : DecidablePred Unambiguous :=
  fun d => inferInstanceAs (Decidable (d.toNat < 128 ∧ d ≠ 'i' ∧ d ≠ 'k'))

theorem not_unambiguous_of_le {d : Char} (beyond : 128 ≤ d.toNat) : ¬ Unambiguous d :=
  fun plain => absurd plain.1 (by omega)

/-- The lower case of a character is that of ASCII, or both are ambiguous. -/
theorem lowerFrom_cons_cases (before : List Char) (c : Char) (rest : List Char) :
    lowerFrom before (c :: rest) = c.toLower :: lowerFrom (c :: before) rest ∨
      ∃ d tail, lowerFrom before (c :: rest) = d :: tail ∧ ¬ Unambiguous d ∧
        ¬ Unambiguous c.toLower := by
  rw [lowerFrom]
  split
  · next sigma =>
      subst sigma
      refine .inr ⟨_, _, rfl, not_unambiguous_of_le ?_, not_unambiguous_of_le (by decide)⟩
      split <;> decide
  · split
    · next dotted =>
        subst dotted
        exact .inr ⟨'i', _, rfl, fun plain => plain.2.1 rfl, not_unambiguous_of_le (by decide)⟩
    · by_cases ascii : c.toNat < 128
      · exact .inl (by rw [lowerChar_ascii ascii]; rfl)
      · have beyond : 128 ≤ c.toNat := by omega
        have kept : ¬ Unambiguous c.toLower :=
          not_unambiguous_of_le (by rwa [toLower_of_not_capital (by omega)])
        by_cases sign : c = kelvin
        · have letter : lowerChar c = 'k' := by rw [sign]; decide +kernel
          exact .inr ⟨_, _, rfl, fun plain => plain.2.2 letter, kept⟩
        · exact .inr ⟨_, _, rfl, not_unambiguous_of_le (le_toNat_lowerChar beyond sign), kept⟩

theorem lowerFrom_eq_iff {word : List Char} (plain : ∀ d ∈ word, Unambiguous d)
    (before cs : List Char) : lowerFrom before cs = word ↔ cs.map Char.toLower = word := by
  induction cs generalizing before word with
  | nil => exact Iff.rfl
  | cons c rest ih =>
      cases word with
      | nil =>
          rcases lowerFrom_cons_cases before c rest with found | ⟨_, _, found, _⟩ <;> simp [found]
      | cons d word =>
          obtain ⟨plainFirst, plainRest⟩ := List.forall_mem_cons.mp plain
          rw [List.map_cons, List.cons.injEq]
          rcases lowerFrom_cons_cases before c rest with found | ⟨d', tail, found, other, other'⟩
          · rw [found, List.cons.injEq, ih plainRest]
          · rw [found, List.cons.injEq]
            constructor
            · rintro ⟨rfl, -⟩
              exact absurd plainFirst other
            · rintro ⟨rfl, -⟩
              exact absurd plainFirst other'

/-- **A word without ambiguous letters is the lower case of itself**, in any case of its letters,
and of no other text. -/
theorem lowercase_eq_iff {name word : String} (plain : ∀ d ∈ word.toList, Unambiguous d)
    (lower : word.toList.map Char.toLower = word.toList) :
    lowercase name = word ↔ Grammar.Keyword word name.toList := by
  rw [lowercase, Grammar.Keyword, lower, ← lowerFrom_eq_iff plain [] name.toList,
    ← String.toList_inj, String.toList_ofList]

end Text
end PathQuery
