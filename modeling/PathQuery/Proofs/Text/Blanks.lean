import PathQuery.Proofs.Text.Runs
import PathQuery.Text.Blank

/-!
# Blanks around a text

A text that is trimmed neither begins nor ends with a blank (`Trimmed`). Every text is one with
blanks around it (`exists_trim`), and taking these away gives it back (`trim_append`).
-/

set_option autoImplicit false

namespace PathQuery
namespace Text

/-- A row of blanks, perhaps an empty one. -/
def Blanks (cs : List Char) : Prop := ∀ c ∈ cs, isBlank c = true

/-- The text neither begins nor ends with a blank. -/
structure Trimmed (cs : List Char) : Prop where
  first : Stops isBlank cs
  last : Stops isBlank cs.reverse

/-- The visible characters of ASCII are not blank. -/
theorem isBlank_eq_false {c : Char} (visible : '!' ≤ c ∧ c ≤ '~') : isBlank c = false := by
  obtain ⟨low, high⟩ : 33 ≤ c.toNat ∧ c.toNat ≤ 126 := visible
  simp only [isBlank, Bool.or_eq_false_iff, Bool.and_eq_false_iff, decide_eq_false_iff_not,
    beq_eq_false_iff_ne]
  omega

theorem blanks_nil : Blanks [] := nofun

theorem Blanks.reverse {cs : List Char} (blanks : Blanks cs) : Blanks cs.reverse :=
  fun c member => blanks c (List.mem_reverse.mp member)

theorem blanks_takeWhile (cs : List Char) : Blanks (cs.takeWhile isBlank) :=
  fun c member => List.all_eq_true.mp List.all_takeWhile c member

/-- A text that begins with no blank has no blanks in front. -/
theorem Blanks.eq_nil {cs text : List Char} (blanks : Blanks cs)
    (stops : Stops isBlank (cs ++ text)) : cs = [] := by
  cases cs with
  | nil => rfl
  | cons c cs =>
      have blank := blanks c List.mem_cons_self
      rw [stops c rfl] at blank
      exact nomatch blank

/-- A word ends where blanks begin. -/
theorem Blanks.stops {cs : List Char} (blanks : Blanks cs) : Stops (fun c => !isBlank c) cs := by
  intro c first
  simp [blanks c (List.mem_of_mem_head? first)]

theorem trimStart_append {lead text : List Char} (blanks : Blanks lead)
    (stops : Stops isBlank text) : trimStart (lead ++ text) = text :=
  dropWhile_append blanks stops

theorem trimEnd_append {text trail : List Char} (blanks : Blanks trail)
    (stops : Stops isBlank text.reverse) : trimEnd (text ++ trail) = text := by
  rw [trimEnd, List.reverse_append, dropWhile_append blanks.reverse stops, List.reverse_reverse]

/-- Blanks around a text are taken away. -/
theorem trim_append {lead text trail : List Char} (blanks : Blanks lead) (blanks' : Blanks trail)
    (trimmed : Trimmed text) : trim (lead ++ (text ++ trail)) = text := by
  cases text with
  | nil =>
      have all : Blanks (lead ++ trail) := List.forall_mem_append.mpr ⟨blanks, blanks'⟩
      have none := trimStart_append all (stops_nil isBlank)
      rw [List.append_nil] at none
      rw [List.nil_append, trim, none]
      rfl
  | cons c text =>
      have start : Stops isBlank (c :: text ++ trail) := stops_cons (trimmed.first c rfl) _
      rw [trim, trimStart_append blanks start, trimEnd_append blanks' trimmed.last]

theorem Trimmed.trim_eq {text : List Char} (trimmed : Trimmed text) : trim text = text := by
  have same := @trim_append [] text [] blanks_nil blanks_nil trimmed
  rwa [List.nil_append, List.append_nil] at same

/-- A text ends with the blanks that are taken away from its end. -/
theorem exists_trimEnd (cs : List Char) : ∃ trail, Blanks trail ∧
    Stops isBlank (trimEnd cs).reverse ∧ cs = trimEnd cs ++ trail := by
  refine ⟨(cs.reverse.takeWhile isBlank).reverse, (blanks_takeWhile _).reverse, ?_, ?_⟩
  · rw [trimEnd, List.reverse_reverse]
    exact stops_dropWhile _ _
  · rw [trimEnd, ← List.reverse_append, List.takeWhile_append_dropWhile, List.reverse_reverse]

/-- Every text is a trimmed text with blanks around it. -/
theorem exists_trim (cs : List Char) : ∃ lead trail, Blanks lead ∧ Blanks trail ∧
    Trimmed (trim cs) ∧ cs = lead ++ (trim cs ++ trail) := by
  obtain ⟨trail, blanks, last, split⟩ := exists_trimEnd (trimStart cs)
  have first : Stops isBlank (trim cs ++ trail) := by
    rw [trim, ← split]
    exact stops_dropWhile _ _
  refine ⟨cs.takeWhile isBlank, trail, blanks_takeWhile cs, blanks, ⟨first.of_append, last⟩, ?_⟩
  rw [trim, ← split]
  exact List.takeWhile_append_dropWhile.symm

/-- Blanks behind a text make no difference. -/
theorem trim_append_blanks {trail : List Char} (blanks : Blanks trail) (cs : List Char) :
    trim (cs ++ trail) = trim cs := by
  obtain ⟨lead, trail', blanks', blanks'', trimmed, split⟩ := exists_trim cs
  have around : cs ++ trail = lead ++ (trim cs ++ (trail' ++ trail)) := by
    conv => lhs; rw [split]
    simp
  rw [around, trim_append blanks' (List.forall_mem_append.mpr ⟨blanks'', blanks⟩) trimmed]

end Text
end PathQuery
