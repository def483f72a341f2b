/-!
# Runs of characters

Texts are read in runs of characters of one class. A run is taken whole when the text behind it
begins with a character of another class, or ends (`takeWhile_append`, `dropWhile_append`).
-/

set_option autoImplicit false

namespace PathQuery
namespace Text

/-- A row of characters of one class, with at least one character. -/
structure Run (isMember : Char → Bool) (cs : List Char) : Prop where
  ne_nil : cs ≠ []
  members : ∀ c ∈ cs, isMember c = true

/-- The text does not begin with a character of the class. -/
def Stops (isMember : Char → Bool) (cs : List Char) : Prop :=
  ∀ c ∈ cs.head?, isMember c = false

variable {isMember : Char → Bool}

theorem stops_nil (isMember : Char → Bool) : Stops isMember [] := by
  simp [Stops]

theorem stops_cons {c : Char} (outside : isMember c = false) (cs : List Char) :
    Stops isMember (c :: cs) := by
  simpa [Stops] using outside

theorem stops_dropWhile (isMember : Char → Bool) (cs : List Char) :
    Stops isMember (cs.dropWhile isMember) := by
  intro c first
  have := List.head?_dropWhile_not isMember cs
  rw [Option.mem_def] at first
  rw [first] at this
  simpa using this

theorem Stops.append {cs ds : List Char} (left : Stops isMember cs) (right : Stops isMember ds) :
    Stops isMember (cs ++ ds) := by
  cases cs with
  | nil => exact right
  | cons c cs => exact stops_cons (left c rfl) (cs ++ ds)

theorem Stops.of_append {cs ds : List Char} (stops : Stops isMember (cs ++ ds)) :
    Stops isMember cs := by
  cases cs with
  | nil => exact stops_nil isMember
  | cons c cs => exact stops_cons (stops c rfl) cs

/-- Members of the class are taken up to where the class stops. -/
theorem takeWhile_append {cs rest : List Char} (members : ∀ c ∈ cs, isMember c = true)
    (stops : Stops isMember rest) : (cs ++ rest).takeWhile isMember = cs := by
  rw [List.takeWhile_append_of_pos members]
  cases rest with
  | nil => simp
  | cons c rest => simp [stops c rfl]

theorem dropWhile_append {cs rest : List Char} (members : ∀ c ∈ cs, isMember c = true)
    (stops : Stops isMember rest) : (cs ++ rest).dropWhile isMember = rest := by
  rw [List.dropWhile_append_of_pos members]
  cases rest with
  | nil => rfl
  | cons c rest => simp [stops c rfl]

theorem Run.append {cs : List Char} (run : Run isMember cs) (rest : List Char) :
    ∃ c cs', cs ++ rest = c :: cs' ∧ isMember c = true := by
  cases cs with
  | nil => exact absurd rfl run.ne_nil
  | cons c cs' => exact ⟨c, cs' ++ rest, rfl, run.members c (by simp)⟩

/-- A run of one class stops every class that has no character in common with it. -/
theorem Run.stops {other : Char → Bool} {cs : List Char} (run : Run isMember cs)
    (apart : ∀ c, isMember c = true → other c = false) (rest : List Char) :
    Stops other (cs ++ rest) := by
  obtain ⟨c, cs', split, member⟩ := run.append rest
  rw [split]
  exact stops_cons (apart c member) cs'

/-- A text is empty, begins outside a class, or begins with a run of the class. -/
theorem run_cases (isMember : Char → Bool) (text : List Char) :
    text = [] ∨ (∃ c rest, text = c :: rest ∧ isMember c = false) ∨
      ∃ run rest, text = run ++ rest ∧ Run isMember run ∧ Stops isMember rest := by
  cases text with
  | nil => exact .inl rfl
  | cons c cs =>
      cases member : isMember c with
      | false => exact .inr (.inl ⟨c, cs, rfl, member⟩)
      | true =>
          refine .inr (.inr ⟨(c :: cs).takeWhile isMember, (c :: cs).dropWhile isMember,
            List.takeWhile_append_dropWhile.symm, ⟨?_, fun d hd => ?_⟩, stops_dropWhile _ _⟩)
          · simp [member]
          · exact List.all_eq_true.mp List.all_takeWhile d hd

end Text
end PathQuery
