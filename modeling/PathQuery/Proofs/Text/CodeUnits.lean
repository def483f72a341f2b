import PathQuery.Proofs.Text.Lexicographic
import PathQuery.Text.CodeUnits

/-!
# The order by code units

A character is one code unit, which is no surrogate, or two, of which the first is a surrogate. The
surrogates are the numbers from `0xd800` to `0xdfff`, so the characters beyond `0xffff` come between
those up to `0xd7ff` and those from `0xe000` on (`Precedes`), whatever follows in the text
(`compare_codeUnits_of_precedes`).

So texts are ordered lexicographically, by that order of characters (`lexicographic_compare`), and
two texts are equal in the order exactly when they are the same text (`compare_eq_iff`).
-/

set_option autoImplicit false

namespace PathQuery.Text

/-! ## Characters -/

/-- The place of a character among three kinds: the characters up to `0xd7ff`, those beyond
`0xffff`, and those from `0xe000` to `0xffff`. -/
def band (c : Char) : Nat :=
  if c.toNat < 0xd800 then 0 else if 0xffff < c.toNat then 1 else 2

/-- The order of characters by code points, but with all those beyond `0xffff` between `0xd7ff` and
`0xe000`. -/
def Precedes (c d : Char) : Prop :=
  band c < band d ∨ band c = band d ∧ c.toNat < d.toNat

instance (c d : Char) : Decidable (Precedes c d) :=
  inferInstanceAs (Decidable (_ ∨ _))

/-- The first character comes before the second although its code point is greater: it is beyond
`0xffff`, and the second is one from `0xe000` to `0xffff`. -/
def Overtakes (c d : Char) : Prop :=
  0x10000 ≤ c.toNat ∧ 0xe000 ≤ d.toNat ∧ d.toNat ≤ 0xffff

instance (c d : Char) : Decidable (Overtakes c d) :=
  inferInstanceAs (Decidable (_ ∧ _))

/-- A character is not a surrogate. -/
theorem toNat_bounds (c : Char) :
    c.toNat < 0xd800 ∨ 0xdfff < c.toNat ∧ c.toNat < 0x110000 := c.valid

theorem band_cases (c : Char) :
    c.toNat < 0xd800 ∧ band c = 0 ∨ 0x10000 ≤ c.toNat ∧ band c = 1 ∨
      0xe000 ≤ c.toNat ∧ c.toNat ≤ 0xffff ∧ band c = 2 := by
  have bounds := toNat_bounds c
  unfold band
  split
  · omega
  · split <;> omega

/-- Of two different characters one precedes the other. -/
theorem precedes_or_precedes {c d : Char} (differ : c ≠ d) : Precedes c d ∨ Precedes d c := by
  have numbers : c.toNat ≠ d.toNat := mt Char.toNat_inj.mp differ
  unfold Precedes
  omega

/-- Two characters are not in the order of their code points exactly if one overtakes the other. -/
theorem not_precedes_iff_lt_iff {c d : Char} :
    ¬ (Precedes c d ↔ c < d) ↔ Overtakes c d ∨ Overtakes d c := by
  have bandC := band_cases c
  have bandD := band_cases d
  have lt : c < d ↔ c.toNat < d.toNat := Iff.rfl
  unfold Precedes Overtakes
  rw [lt]
  omega

/-! ## Code units -/

theorem codeUnits_of_lt {c : Char} (short : c.toNat < 0x10000) : codeUnits c = [c.toNat] :=
  if_pos short

theorem codeUnits_of_ge {c : Char} (long : 0x10000 ≤ c.toNat) :
    codeUnits c = [0xd800 + (c.toNat - 0x10000) / 0x400, 0xdc00 + (c.toNat - 0x10000) % 0x400] :=
  if_neg (Nat.not_lt.mpr long)

theorem codeUnits_ne_nil (c : Char) : codeUnits c ≠ [] := by
  unfold codeUnits
  dsimp only
  split <;> exact nofun

theorem compare_cons_of_lt {x y : Nat} (lt : x < y) (xs ys : List Nat) :
    Ord.compare (x :: xs) (y :: ys) = .lt := by
  rw [List.compare_cons_cons, Nat.compare_eq_lt.mpr lt]
  rfl

/-- A beginning in common does not matter. -/
theorem compare_append_left (shared xs ys : List Nat) :
    Ord.compare (shared ++ xs) (shared ++ ys) = Ord.compare xs ys := by
  induction shared with
  | nil => rfl
  | cons x shared ih =>
      rw [List.cons_append, List.cons_append, List.compare_cons_cons, ih,
        Std.ReflOrd.compare_self]
      rfl

theorem compare_append_of_ne_nil (xs : List Nat) {ys : List Nat} (more : ys ≠ []) :
    Ord.compare xs (xs ++ ys) = .lt := by
  have shared := compare_append_left xs [] ys
  rw [List.append_nil] at shared
  rw [shared]
  cases ys with
  | nil => exact absurd rfl more
  | cons y ys => rfl

/-- The code units of two characters tell which of them precedes the other, whatever follows. -/
theorem compare_codeUnits_of_precedes {c d : Char} (precedes : Precedes c d) (xs ys : List Nat) :
    Ord.compare (codeUnits c ++ xs) (codeUnits d ++ ys) = .lt := by
  have boundsC := toNat_bounds c
  have boundsD := toNat_bounds d
  have bandC := band_cases c
  have bandD := band_cases d
  unfold Precedes at precedes
  rcases Nat.lt_or_ge c.toNat 0x10000 with shortC | longC
  · rcases Nat.lt_or_ge d.toNat 0x10000 with shortD | longD
    · rw [codeUnits_of_lt shortC, codeUnits_of_lt shortD]
      exact compare_cons_of_lt (by omega) xs ys
    · -- The first unit of `d` is a surrogate, so `c` is below the surrogates.
      rw [codeUnits_of_lt shortC, codeUnits_of_ge longD]
      exact compare_cons_of_lt (by omega) _ _
  · rcases Nat.lt_or_ge d.toNat 0x10000 with shortD | longD
    · rw [codeUnits_of_ge longC, codeUnits_of_lt shortD]
      exact compare_cons_of_lt (by omega) _ _
    · rw [codeUnits_of_ge longC, codeUnits_of_ge longD]
      -- Two pairs of surrogates are ordered by the first units, or by the second if those agree.
      rcases Nat.lt_or_ge (0xd800 + (c.toNat - 0x10000) / 0x400)
        (0xd800 + (d.toNat - 0x10000) / 0x400) with first | same
      · exact compare_cons_of_lt first _ _
      · have first : (c.toNat - 0x10000) / 0x400 = (d.toNat - 0x10000) / 0x400 := by omega
        rw [first]
        refine (compare_append_left [_] _ _).trans ?_
        exact compare_cons_of_lt (by omega) xs ys

/-! ## Texts -/

theorem compare_swap (s t : String) : compare t s = (compare s t).swap := by
  unfold compare
  exact Std.OrientedCmp.eq_swap

/-- **The order by code units is lexicographic**, with the characters beyond `0xffff` between
`0xd7ff` and `0xe000`. -/
theorem lexicographic_compare : Lexicographic compare Precedes where
  total := precedes_or_precedes
  swap := compare_swap
  of_begins := by
    rintro s t ⟨c, rest, goesOn⟩
    rw [compare, goesOn, List.flatMap_append, List.flatMap_cons]
    exact compare_append_of_ne_nil _ (List.append_ne_nil_of_left_ne_nil (codeUnits_ne_nil c) _)
  of_parts := by
    rintro s t c d ⟨-, shared, left, right, splitS, splitT⟩ precedes
    rw [compare, splitS, splitT, List.flatMap_append, List.flatMap_append, compare_append_left,
      List.flatMap_cons, List.flatMap_cons]
    exact compare_codeUnits_of_precedes precedes _ _

/-- **Texts that are equal in the order by code units are the same.** -/
theorem compare_eq_iff {s t : String} : compare s t = .eq ↔ s = t :=
  lexicographic_compare.eq_eq_iff

end PathQuery.Text
