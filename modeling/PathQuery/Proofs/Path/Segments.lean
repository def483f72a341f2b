import PathQuery.Proofs.Path.Groups

/-!
# Segments are read by their grammar

Reading a segment tries the parentheses from the left and takes the first that has groups and
nothing else behind it. Groups begin with a parenthesis, so no shorter key is passed over, and the
segment that is read is the one that `Reads` describes (`reads_iff`).
-/

set_option autoImplicit false

namespace PathQuery
namespace Grammar

open Text

theorem head_of_groups {text : List Char} {filter : Option Filter} {property : Option String}
    (groups : Groups text filter property) : ∃ rest, text = '(' :: rest := by
  cases groups with
  | filter grammar => cases grammar; exact ⟨_, rfl⟩
  | projection grammar => cases grammar; exact ⟨_, rfl⟩
  | both grammar _ => cases grammar; exact ⟨_, rfl⟩

/-- A whole tail makes some clauses, and its text is one of the grammar. -/
theorem groups_of_isWhole {text : List Char} (whole : (Tail.read text).isWhole = true) :
    Groups text ((Tail.read text).filter.bind (·.clause?))
      ((Tail.read text).projection.bind (·.clause?)) :=
  makes_iff.mp ⟨whole, rfl, rfl⟩

/-- The first attempt that succeeds is at the first character with something before it and a whole
tail from it on. -/
theorem find?_attempts_cons (before : List Char) (c : Char) (rest : List Char) :
    (Segment.attempts before (c :: rest)).find? (·.2.isWhole) =
      if before ≠ [] ∧ (Tail.read (c :: rest)).isWhole = true then
        some (before, Tail.read (c :: rest))
      else (Segment.attempts (c :: before) rest).find? (·.2.isWhole) := by
  rw [Segment.attempts]
  by_cases whole : (Tail.read (c :: rest)).isWhole = true
  · obtain ⟨rest', shape⟩ := head_of_groups (groups_of_isWhole whole)
    cases shape
    by_cases first : before = []
    · simp [first]
    · simp [first, whole]
  · by_cases tried : c = '(' ∧ before ≠ []
    · rw [if_pos tried, List.find?_cons_of_neg (by exact whole), if_neg fun here => whole here.2]
    · rw [if_neg tried, if_neg fun here => whole here.2]

/-- Where an attempt succeeds, no earlier one does. -/
theorem find?_attempts_eq_some {text : List Char} : ∀ {before before' : List Char} {tail : Tail},
    (Segment.attempts before text).find? (·.2.isWhole) = some (before', tail) →
      ∃ skipped rest, text = skipped ++ rest ∧ before' = skipped.reverse ++ before ∧
        before' ≠ [] ∧ tail = Tail.read rest ∧ (Tail.read rest).isWhole = true ∧
        ∀ skipped' rest', text = skipped' ++ rest' → skipped'.reverse ++ before ≠ [] →
          (Tail.read rest').isWhole = true → skipped.length ≤ skipped'.length := by
  induction text with
  | nil =>
      intro _ _ _ found
      cases found
  | cons c text ih =>
      intro before before' tail found
      rw [find?_attempts_cons] at found
      split at found
      · next here =>
          cases found
          exact ⟨[], c :: text, rfl, rfl, here.1, rfl, here.2, fun _ _ _ _ _ => Nat.zero_le _⟩
      · next here =>
          obtain ⟨skipped, rest, rfl, shape, nonempty, read, whole, least⟩ := ih found
          refine ⟨c :: skipped, rest, rfl, by simp [shape], nonempty, read, whole, ?_⟩
          intro skipped' rest' same nonempty' whole'
          cases skipped' with
          | nil =>
              rw [List.nil_append] at same
              exact absurd ⟨by simpa using nonempty', same ▸ whole'⟩ here
          | cons d skipped' =>
              obtain ⟨rfl, same'⟩ := List.cons.inj same
              exact Nat.succ_le_succ (least skipped' rest' same' (by simp) whole')

/-- Where no attempt succeeds, no character has a whole tail from it on. -/
theorem find?_attempts_eq_none {text : List Char} : ∀ {before : List Char},
    (Segment.attempts before text).find? (·.2.isWhole) = none →
      ∀ skipped rest, text = skipped ++ rest → skipped.reverse ++ before ≠ [] →
        ¬ (Tail.read rest).isWhole = true := by
  induction text with
  | nil =>
      intro before _ skipped rest same _ whole
      obtain ⟨rest', shape⟩ := head_of_groups (groups_of_isWhole whole)
      simp [shape] at same
  | cons c text ih =>
      intro before absent skipped rest same nonempty whole
      rw [find?_attempts_cons] at absent
      split at absent
      · cases absent
      · next here =>
          cases skipped with
          | nil =>
              rw [List.nil_append] at same
              exact here ⟨by simpa using nonempty, same ▸ whole⟩
          | cons d skipped =>
              obtain ⟨rfl, same'⟩ := List.cons.inj same
              exact ih absent skipped rest same' (by simp) whole

theorem split_iff {text key : List Char} {filter : Option Filter} {property : Option String} :
    Split text key filter property ↔
      key ≠ [] ∧ ∃ tail, text = key ++ tail ∧ Makes (Tail.read tail) filter property := by
  constructor
  · rintro ⟨nonempty, tail, same, groups⟩
    exact ⟨nonempty, tail, same, makes_iff.mpr groups⟩
  · rintro ⟨nonempty, tail, same, makes⟩
    exact ⟨nonempty, tail, same, makes_iff.mp makes⟩

/-- What is read from a text that is not empty is what the grammar says. -/
theorem exists_reads {text : List Char} (nonempty : text ≠ []) :
    ∃ segment, Segment.ofChars? text = some segment ∧ Reads text segment := by
  have proceeds : text.isEmpty = false := by simpa using nonempty
  unfold Segment.ofChars?
  rw [proceeds]
  cases found : (Segment.attempts [] text).find? (·.2.isWhole) with
  | none =>
      refine ⟨_, rfl, .key fun key filter property split => ?_⟩
      obtain ⟨keyNonempty, tail, same, makes⟩ := split_iff.mp split
      exact find?_attempts_eq_none found key tail same (by simpa using keyNonempty) makes.whole
  | some attempt =>
      obtain ⟨before, tail⟩ := attempt
      obtain ⟨key, rest, same, shape, keyNonempty, rfl, whole, least⟩ :=
        find?_attempts_eq_some found
      rw [List.append_nil] at shape
      subst shape
      refine ⟨_, rfl, ?_⟩
      rw [List.reverse_reverse]
      refine .split ⟨by simpa using keyNonempty, rest, same, groups_of_isWhole whole⟩ ?_
      intro key' filter' property' split'
      obtain ⟨keyNonempty', rest', same', makes⟩ := split_iff.mp split'
      exact least key' rest' same' (by simpa using keyNonempty') makes.whole

/-- A text has one segment. -/
theorem Reads.unique {text : List Char} {segment segment' : Segment}
    (reads : Reads text segment) (reads' : Reads text segment') : segment = segment' := by
  cases reads with
  | @split key _ _ split least =>
      cases reads' with
      | @split key' _ _ split' least' =>
          obtain ⟨_, tail, same, makes⟩ := split_iff.mp split
          obtain ⟨_, tail', same', makes'⟩ := split_iff.mp split'
          have length := Nat.le_antisymm (least _ _ _ split') (least' _ _ _ split)
          obtain ⟨rfl, rfl⟩ := List.append_inj (same.symm.trans same') length
          rw [← makes.filters, ← makes.projects, ← makes'.filters, ← makes'.projects]
      | key none => exact absurd split (none _ _ _)
  | key none =>
      cases reads' with
      | split split' => exact absurd split' (none _ _ _)
      | key => rfl

/-- A text that is not empty is read as a segment exactly when the grammar says so. -/
theorem reads_iff {text : List Char} (nonempty : text ≠ []) {segment : Segment} :
    Segment.ofChars? text = some segment ↔ Reads text segment := by
  obtain ⟨segment', read, reads⟩ := exists_reads nonempty
  rw [read, Option.some.injEq]
  constructor
  · rintro rfl
    exact reads
  · intro reads'
    exact reads.unique reads'

end Grammar

/-- **Segments are read by their grammar.** Only the empty text is no segment. Every other text is
read as exactly one segment: its key is the shortest with groups and nothing else behind it, its
clauses are those of the complete groups among them, and where there is no such key it is the whole
text, without clauses. -/
theorem Segment.ofText?_grammar (text : String) :
    (Segment.ofText? text = none ↔ text = "") ∧
      ∀ segment, Segment.ofText? text = some segment ↔
        text ≠ "" ∧ Grammar.Reads text.toList segment := by
  have empty : text.toList = [] ↔ text = "" := by
    rw [← String.toList_inj]
    rfl
  by_cases nonempty : text = ""
  · subst nonempty
    refine ⟨⟨fun _ => rfl, fun _ => rfl⟩, fun segment => ?_⟩
    simp [Segment.ofText?, Segment.ofChars?]
  · have nonempty' : text.toList ≠ [] := fun h => nonempty (empty.mp h)
    obtain ⟨segment, read, _⟩ := Grammar.exists_reads nonempty'
    refine ⟨?_, fun segment => ?_⟩
    · simp [Segment.ofText?, read, nonempty]
    · rw [Segment.ofText?, Grammar.reads_iff nonempty']
      exact ⟨fun reads => ⟨nonempty, reads⟩, And.right⟩

end PathQuery
