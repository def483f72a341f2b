/-!
# Lexicographic orders of texts

Two texts are the same, or one of them goes on behind the other, or they part: behind a beginning in
common they go on with different characters (`parting_cases`). A lexicographic order puts a text
before those that go on behind it, and orders texts that part as the characters at which they do
(`Lexicographic`). This settles all about it: it tells texts apart (`Lexicographic.eq_eq_iff`), and
two such orders differ exactly where texts part at characters that they order differently
(`Lexicographic.eq_iff`, `Lexicographic.eq_of_begins`).
-/

set_option autoImplicit false

namespace PathQuery.Text

/-! ## Where texts part -/

/-- The first text is a beginning of the second, which goes on behind it. -/
def Begins (s t : String) : Prop :=
  ∃ c rest, t.toList = s.toList ++ c :: rest

/-- The texts go on with different characters behind a beginning in common. -/
structure PartAt (s t : String) (c d : Char) : Prop where
  differ : c ≠ d
  split : ∃ shared left right, s.toList = shared ++ c :: left ∧ t.toList = shared ++ d :: right

theorem PartAt.symm {s t : String} {c d : Char} (parts : PartAt s t c d) : PartAt t s d c := by
  obtain ⟨shared, left, right, splitS, splitT⟩ := parts.split
  exact ⟨parts.differ.symm, shared, right, left, splitT, splitS⟩

theorem list_parting_cases (cs ds : List Char) :
    cs = ds ∨ (∃ d rest, ds = cs ++ d :: rest) ∨ (∃ c rest, cs = ds ++ c :: rest) ∨
      ∃ c d, c ≠ d ∧ ∃ shared left right, cs = shared ++ c :: left ∧ ds = shared ++ d :: right := by
  induction cs generalizing ds with
  | nil =>
      cases ds with
      | nil => exact .inl rfl
      | cons d ds => exact .inr (.inl ⟨d, ds, rfl⟩)
  | cons c cs ih =>
      cases ds with
      | nil => exact .inr (.inr (.inl ⟨c, cs, rfl⟩))
      | cons d ds =>
          by_cases same : c = d
          · subst same
            rcases ih ds with rfl | ⟨d, rest, rfl⟩ | ⟨d, rest, rfl⟩ |
              ⟨e, f, differ, shared, left, right, rfl, rfl⟩
            · exact .inl rfl
            · exact .inr (.inl ⟨d, rest, rfl⟩)
            · exact .inr (.inr (.inl ⟨d, rest, rfl⟩))
            · exact .inr (.inr (.inr ⟨e, f, differ, c :: shared, left, right, rfl, rfl⟩))
          · exact .inr (.inr (.inr ⟨c, d, same, [], cs, ds, rfl, rfl⟩))

/-- Two texts are the same, or one begins the other, or they part. -/
theorem parting_cases (s t : String) :
    (s = t ∨ Begins s t ∨ Begins t s) ∨ ∃ c d, PartAt s t c d := by
  rcases list_parting_cases s.toList t.toList with same | more | less | ⟨c, d, differ, split⟩
  · exact .inl (.inl (String.toList_inj.mp same))
  · exact .inl (.inr (.inl more))
  · exact .inl (.inr (.inr less))
  · exact .inr ⟨c, d, differ, split⟩

/-! ## Lexicographic orders -/

/-- An order of texts that puts a text before those that go on behind it, and two texts that part
into the order of the characters at which they do. Of two different characters one is before the
other. -/
structure Lexicographic (order : String → String → Ordering) (before : Char → Char → Prop) :
    Prop where
  total : ∀ {c d}, c ≠ d → before c d ∨ before d c
  swap : ∀ s t, order t s = (order s t).swap
  of_begins : ∀ {s t}, Begins s t → order s t = .lt
  of_parts : ∀ {s t c d}, PartAt s t c d → before c d → order s t = .lt

namespace Lexicographic

variable {order order' : String → String → Ordering} {before before' : Char → Char → Prop}
  {s t : String} {c d : Char}

theorem self (lexicographic : Lexicographic order before) (s : String) : order s s = .eq := by
  have swap := lexicographic.swap s s
  cases same : order s s with
  | eq => rfl
  | _ =>
      rw [same] at swap
      exact nomatch swap

theorem gt_of_begins (lexicographic : Lexicographic order before) (begins : Begins t s) :
    order s t = .gt := by
  rw [lexicographic.swap t s, lexicographic.of_begins begins]
  rfl

theorem lt_iff (lexicographic : Lexicographic order before) (parts : PartAt s t c d) :
    order s t = .lt ↔ before c d := by
  refine ⟨fun less => ?_, lexicographic.of_parts parts⟩
  rcases lexicographic.total parts.differ with first | second
  · exact first
  · rw [lexicographic.swap t s, lexicographic.of_parts parts.symm second] at less
    exact nomatch less

theorem gt_iff (lexicographic : Lexicographic order before) (parts : PartAt s t c d) :
    order s t = .gt ↔ before d c := by
  rw [← lexicographic.lt_iff parts.symm, lexicographic.swap s t, Ordering.swap_eq_lt]

/-- Texts that part are ordered, one way or the other. -/
theorem gt_of_ne_lt (lexicographic : Lexicographic order before) (parts : PartAt s t c d)
    (notLess : order s t ≠ .lt) : order s t = .gt := by
  rw [lexicographic.gt_iff parts]
  rw [ne_eq, lexicographic.lt_iff parts] at notLess
  exact (lexicographic.total parts.differ).resolve_left notLess

/-- A lexicographic order tells texts apart. -/
theorem eq_eq_iff (lexicographic : Lexicographic order before) : order s t = .eq ↔ s = t := by
  constructor
  · intro same
    rcases parting_cases s t with (equal | more | less) | ⟨c, d, parts⟩
    · exact equal
    · exact nomatch same.symm.trans (lexicographic.of_begins more)
    · exact nomatch same.symm.trans (lexicographic.gt_of_begins less)
    · have greater := lexicographic.gt_of_ne_lt parts (same ▸ nofun)
      exact nomatch same.symm.trans greater
  · rintro rfl
    exact lexicographic.self s

/-- Two orders agree on texts that part exactly if they agree on the characters. -/
theorem eq_iff (lexicographic : Lexicographic order before)
    (lexicographic' : Lexicographic order' before') (parts : PartAt s t c d) :
    order s t = order' s t ↔ (before c d ↔ before' c d) := by
  rw [← lexicographic.lt_iff parts, ← lexicographic'.lt_iff parts]
  refine ⟨fun agree => by rw [agree], fun agree => ?_⟩
  by_cases less : order s t = .lt
  · rw [less, agree.mp less]
  · rw [lexicographic.gt_of_ne_lt parts less, lexicographic'.gt_of_ne_lt parts (mt agree.mpr less)]

/-- Two orders agree on texts that do not part. -/
theorem eq_of_begins (lexicographic : Lexicographic order before)
    (lexicographic' : Lexicographic order' before') (begins : s = t ∨ Begins s t ∨ Begins t s) :
    order s t = order' s t := by
  rcases begins with rfl | more | less
  · rw [lexicographic.self, lexicographic'.self]
  · rw [lexicographic.of_begins more, lexicographic'.of_begins more]
  · rw [lexicographic.gt_of_begins less, lexicographic'.gt_of_begins less]

end Lexicographic

/-- The standard order of texts is lexicographic, with characters ordered by code points. -/
theorem lexicographic_codePoints : Lexicographic Ord.compare (· < ·) where
  total := fun differ => Nat.lt_or_gt_of_ne (mt Char.toNat_inj.mp differ)
  swap := fun s t => Std.OrientedCmp.eq_swap
  of_begins := by
    rintro s t ⟨c, rest, goesOn⟩
    have less : s.toList ++ [] < s.toList ++ c :: rest :=
      List.append_left_lt (List.nil_lt_cons c rest)
    rw [List.append_nil, ← goesOn] at less
    exact compareOfLessAndEq_eq_lt.mpr less
  of_parts := by
    rintro s t c d ⟨-, shared, left, right, splitS, splitT⟩ before
    have less : s.toList < t.toList := by
      rw [splitS, splitT]
      exact List.append_left_lt (List.cons_lt_cons_iff.mpr (.inl before))
    exact compareOfLessAndEq_eq_lt.mpr less

end PathQuery.Text
