import PathQuery.Proofs.Path.Grammar

/-!
# The fields of a group are read by their grammar

Fields are taken one after the other, each as long as it can be. The fields of the grammar do not
say how long they are, but neighbours belong to classes that have no character in common, so a
field ends where the next one begins. This gives both directions: a text of the grammar is read as
it is meant (`ofFields_of_filterBody`), and what is read as complete or as breaking off is a text
of the grammar (`filterBody_of_ofFields`).
-/

set_option autoImplicit false

namespace PathQuery
namespace Grammar

open Text

/-! ## Classes of characters -/

theorem isFieldSpace_cases {c : Char} (space : isFieldSpace c = true) :
    c = ' ' ∨ c = '\t' ∨ c = '\r' ∨ c = '\n' := by
  simpa [isFieldSpace, or_assoc] using space

theorem isPropertyChar_of_isFieldSpace (c : Char) (space : isFieldSpace c = true) :
    isPropertyChar c = false := by
  rcases isFieldSpace_cases space with rfl | rfl | rfl | rfl <;> decide

theorem isFieldSpace_of_isPropertyChar (c : Char) (member : isPropertyChar c = true) :
    isFieldSpace c = false := by
  cases space : isFieldSpace c with
  | false => rfl
  | true =>
      rw [isPropertyChar_of_isFieldSpace c space] at member
      exact absurd member (by decide)

theorem isPropertyChar_of_isAlpha {c : Char} (letter : c.isAlpha = true) :
    isPropertyChar c = true := by
  simp [isPropertyChar, Char.isAlphanum, letter]

theorem isFieldSpace_of_isAlpha (c : Char) (letter : c.isAlpha = true) : isFieldSpace c = false :=
  isFieldSpace_of_isPropertyChar c (isPropertyChar_of_isAlpha letter)

theorem isAlpha_of_isFieldSpace (c : Char) (space : isFieldSpace c = true) :
    c.isAlpha = false := by
  cases letter : c.isAlpha with
  | false => rfl
  | true =>
      rw [isFieldSpace_of_isAlpha c letter] at space
      exact absurd space (by decide)

theorem plain_name {property : List Char} (name : Name property) : Plain property := by
  intro c hc
  have member := name.members c hc
  constructor <;> (rintro rfl; revert member; decide)

theorem plain_letters {word : List Char} (letters : Run Char.isAlpha word) : Plain word :=
  plain_name ⟨letters.ne_nil, fun c hc => isPropertyChar_of_isAlpha (letters.members c hc)⟩

theorem plain_space {space : List Char} (field : Space space) : Plain space := by
  intro c hc
  rcases isFieldSpace_cases (field.members c hc) with rfl | rfl | rfl | rfl <;> decide

/-! ## Keywords -/

/-- A letter stays one when its case changes, and nothing else becomes one. -/
theorem isAlpha_toLower (c : Char) : c.toLower.isAlpha = c.isAlpha := by
  delta Char.toLower Char.isAlpha Char.isUpper Char.isLower
  grind

theorem Keyword.run {word : String} {cs : List Char} (keyword : Keyword word cs)
    (nonempty : word.toList ≠ []) (letters : word.toList.all Char.isAlpha = true) :
    Run Char.isAlpha cs := by
  refine ⟨?_, fun c hc => ?_⟩
  · rintro rfl
    exact nonempty (List.map_eq_nil_iff.mp keyword.symm)
  · have lower : c.toLower ∈ word.toList.map Char.toLower := keyword ▸ List.mem_map_of_mem hc
    obtain ⟨d, hd, same⟩ := List.mem_map.mp lower
    rw [← isAlpha_toLower, ← same, isAlpha_toLower]
    exact List.all_eq_true.mp letters d hd

theorem Keyword.run_rule {rule : Rule} {cs : List Char} (keyword : Keyword rule.word cs) :
    Run Char.isAlpha cs :=
  keyword.run (by cases rule <;> decide) (by cases rule <;> decide)

theorem Keyword.run_search {search : Search} {cs : List Char}
    (keyword : Keyword search.word cs) : Run Char.isAlpha cs :=
  keyword.run (by cases search <;> decide) (by cases search <;> decide)

theorem Keyword.run_map {cs : List Char} (keyword : Keyword "map" cs) : Run Char.isAlpha cs :=
  keyword.run (by decide) (by decide)

theorem keyword_iff {word : String} {cs : List Char} :
    Keyword word cs ↔ (String.ofList cs).toLower = word.toLower := by
  have same (s : String) : s.toLower.toList = s.toList.map Char.toLower := String.toList_map
  rw [← String.toList_inj, same, same, String.toList_ofList]
  rfl

/-- A word names a rule when it is the word of the rule in any case. -/
theorem rule_ofWord?_eq_some_iff {cs : List Char} {rule : Rule} :
    Rule.ofWord? (String.ofList cs) = some rule ↔ Keyword rule.word cs := by
  have lower : rule.word.toLower = rule.word := by cases rule <;> decide +kernel
  rw [keyword_iff, lower]
  constructor
  · intro found
    simpa using List.find?_some found
  · intro same
    cases rule <;> simp [Rule.ofWord?, Rule.all, same, Rule.word]

/-- A word names a search when it is the word of the search in any case. -/
theorem search_ofWord?_eq_some_iff {cs : List Char} {search : Search} :
    Search.ofWord? (String.ofList cs) = some search ↔ Keyword search.word cs := by
  rw [keyword_iff]
  constructor
  · intro found
    simpa using List.find?_some found
  · intro same
    have alike : Search.ofWord? (String.ofList cs) = Search.ofWord? search.word := by
      simp only [Search.ofWord?, same]
    rw [alike, Search.ofWord?_word]

/-! ## Single fields -/

section TakeField

variable {α : Type} {isMember : Char → Bool} (next : List Char → List Char → Reading α)

theorem takeField_nil : takeField isMember [] next = .incomplete := rfl

theorem takeField_cons {c : Char} (outside : isMember c = false) (cs : List Char) :
    takeField isMember (c :: cs) next = .malformed := by
  simp [takeField, outside]

theorem takeField_append {run rest : List Char} (field : Run isMember run)
    (stops : Stops isMember rest) : takeField isMember (run ++ rest) next = next run rest := by
  unfold takeField
  rw [takeWhile_append field.members stops, dropWhile_append field.members stops]
  cases run with
  | nil => exact absurd rfl field.ne_nil
  | cons c cs => rfl

/-- What taking a field gives when it does not fail: the text has ended, or a field was there. -/
theorem takeField_cases {text : List Char} {reading : Reading α}
    (taken : takeField isMember text next = reading) (sound : reading ≠ .malformed) :
    (text = [] ∧ reading = .incomplete) ∨
      ∃ run rest, text = run ++ rest ∧ Run isMember run ∧ Stops isMember rest ∧
        next run rest = reading := by
  rcases run_cases isMember text with rfl | ⟨c, rest, rfl, outside⟩ | ⟨run, rest, rfl, field, stops⟩
  · exact .inl ⟨rfl, taken.symm⟩
  · rw [takeField_cons next outside] at taken
    exact absurd taken.symm sound
  · rw [takeField_append next field stops] at taken
    exact .inr ⟨run, rest, rfl, field, stops, taken⟩

end TakeField

theorem skipSpace_nil {α : Type} (next : List Char → Reading α) :
    skipSpace [] next = .incomplete := rfl

theorem skipSpace_append {α : Type} {space rest : List Char} (field : Space space)
    (stops : Stops isFieldSpace rest) (next : List Char → Reading α) :
    skipSpace (space ++ rest) next = next rest :=
  takeField_append _ field stops

theorem skipSpace_space {α : Type} {space : List Char} (field : Space space)
    (next : List Char → Reading α) : skipSpace space next = next [] := by
  simpa using skipSpace_append field (stops_nil _) next

theorem takeField_run {α : Type} {isMember : Char → Bool} {run : List Char}
    (field : Run isMember run) (next : List Char → List Char → Reading α) :
    takeField isMember run next = next run [] := by
  simpa using takeField_append next field (stops_nil _)

/-! ## All fields -/

/-- The reading of a group that may be incomplete. -/
def readingOf {α : Type} : Option α → Reading α
  | some clause => .complete clause
  | none => .incomplete

theorem readingOf_ne_malformed {α : Type} (clause : Option α) :
    readingOf clause ≠ .malformed := by
  cases clause <;> simp [readingOf]

theorem eq_none_of_incomplete {α : Type} {clause : Option α}
    (h : readingOf clause = .incomplete) : clause = none := by
  cases clause with
  | none => rfl
  | some clause => cases h

theorem stops_name {property : List Char} (name : Name property) (rest : List Char) :
    Stops isFieldSpace (property ++ rest) :=
  name.stops isFieldSpace_of_isPropertyChar rest

theorem stops_word {word : List Char} (letters : Run Char.isAlpha word) (rest : List Char) :
    Stops isFieldSpace (word ++ rest) :=
  letters.stops isFieldSpace_of_isAlpha rest

/-- The fields of a filter are read as the grammar says. -/
theorem ofFields_of_filterBody {search : Search} {body : List Char} {filter : Option Filter}
    (grammar : FilterBody search body filter) :
    Filter.ofFields search body = readingOf filter := by
  unfold Filter.ofFields
  cases grammar with
  | complete space₁ name space₂ keyword space₃ stops spells =>
      rw [skipSpace_append space₁ (stops_name name _),
        takeField_append _ name (space₂.stops isPropertyChar_of_isFieldSpace _),
        skipSpace_append space₂ (stops_word keyword.run_rule _),
        takeField_append _ keyword.run_rule (space₃.stops isAlpha_of_isFieldSpace _),
        rule_ofWord?_eq_some_iff.mpr keyword]
      simp only
      rw [skipSpace_append space₃ stops, (spells_iff.mp spells).2]
      rfl
  | nothing => rfl
  | space space₁ => rw [skipSpace_space space₁, takeField_nil, readingOf]
  | property space₁ name =>
      have ends := stops_name name []
      rw [List.append_nil] at ends
      rw [skipSpace_append space₁ ends, takeField_run name, skipSpace_nil, readingOf]
  | propertySpace space₁ name space₂ =>
      have ends := space₂.stops isPropertyChar_of_isFieldSpace []
      rw [List.append_nil] at ends
      rw [skipSpace_append space₁ (stops_name name _), takeField_append _ name ends,
        skipSpace_space space₂, takeField_nil, readingOf]
  | rule space₁ name space₂ keyword =>
      have ends := stops_word keyword.run_rule []
      rw [List.append_nil] at ends
      rw [skipSpace_append space₁ (stops_name name _),
        takeField_append _ name (space₂.stops isPropertyChar_of_isFieldSpace _),
        skipSpace_append space₂ ends, takeField_run keyword.run_rule,
        rule_ofWord?_eq_some_iff.mpr keyword]
      simp only
      rw [skipSpace_nil, readingOf]

/-- Fields that are read as a filter, or as breaking off, follow the grammar. -/
theorem filterBody_of_ofFields {search : Search} {body : List Char} {filter : Option Filter}
    (read : Filter.ofFields search body = readingOf filter) (enclosed : Enclosed body) :
    FilterBody search body filter := by
  have sound := readingOf_ne_malformed filter
  unfold Filter.ofFields skipSpace at read
  obtain ⟨rfl, ended⟩ | ⟨space₁, rest₁, rfl, hspace₁, -, read⟩ := takeField_cases _ read sound
  · rw [eq_none_of_incomplete ended]
    exact .nothing
  obtain ⟨rfl, ended⟩ | ⟨property, rest₂, rfl, name, -, read⟩ := takeField_cases _ read sound
  · rw [eq_none_of_incomplete ended, List.append_nil]
    exact .space hspace₁
  obtain ⟨rfl, ended⟩ | ⟨space₂, rest₃, rfl, hspace₂, -, read⟩ := takeField_cases _ read sound
  · rw [eq_none_of_incomplete ended, List.append_nil]
    exact .property hspace₁ name
  obtain ⟨rfl, ended⟩ | ⟨word, rest₄, rfl, letters, -, read⟩ := takeField_cases _ read sound
  · rw [eq_none_of_incomplete ended, List.append_nil]
    exact .propertySpace hspace₁ name hspace₂
  cases named : Rule.ofWord? (String.ofList word) with
  | none =>
      rw [named] at read
      exact absurd read.symm sound
  | some rule =>
      have keyword := rule_ofWord?_eq_some_iff.mp named
      rw [named] at read
      obtain ⟨rfl, ended⟩ | ⟨space₃, literal, rfl, hspace₃, stops, read⟩ :=
        takeField_cases _ read sound
      · rw [eq_none_of_incomplete ended, List.append_nil]
        exact .rule hspace₁ name hspace₂ keyword
      -- Only the literal can hold a backslash or a parenthesis.
      rw [(plain_space hspace₁).enclosed_append_iff, (plain_name name).enclosed_append_iff,
        (plain_space hspace₂).enclosed_append_iff, (plain_letters letters).enclosed_append_iff,
        (plain_space hspace₃).enclosed_append_iff] at enclosed
      cases filter with
      | none => cases read
      | some filter =>
          cases read
          exact .complete hspace₁ name hspace₂ keyword hspace₃ stops
            (spells_iff.mpr ⟨enclosed, rfl⟩)

/-- The fields of a filter are enclosed, since its literal is. -/
theorem FilterBody.enclosed {search : Search} {body : List Char} {filter : Option Filter}
    (grammar : FilterBody search body filter) : Enclosed body := by
  cases grammar with
  | complete space₁ name space₂ keyword space₃ _ spells =>
      rw [(plain_space space₁).enclosed_append_iff, (plain_name name).enclosed_append_iff,
        (plain_space space₂).enclosed_append_iff,
        (plain_letters keyword.run_rule).enclosed_append_iff,
        (plain_space space₃).enclosed_append_iff]
      exact (spells_iff.mp spells).1
  | nothing => exact .nil
  | space space₁ => exact (plain_space space₁).enclosed
  | property space₁ name =>
      rw [(plain_space space₁).enclosed_append_iff]
      exact (plain_name name).enclosed
  | propertySpace space₁ name space₂ =>
      rw [(plain_space space₁).enclosed_append_iff, (plain_name name).enclosed_append_iff]
      exact (plain_space space₂).enclosed
  | rule space₁ name space₂ keyword =>
      rw [(plain_space space₁).enclosed_append_iff, (plain_name name).enclosed_append_iff,
        (plain_space space₂).enclosed_append_iff]
      exact (plain_letters keyword.run_rule).enclosed

end Grammar
end PathQuery
