import PathQuery.Proofs.Path.Fields

/-!
# Groups are read by their grammar

A group is found in three steps: its keyword, the parenthesis that ends it, and its fields. Each
step has one text that it succeeds on, so that a group is read exactly where the grammar has one
(`filter?_iff`, `projection?_iff`). A filter and a projection never begin alike, and therefore the
groups at one place are a whole tail exactly when they are `Groups` (`makes_iff`).
-/

set_option autoImplicit false

namespace PathQuery
namespace Grammar

open Text

/-! ## The end of a group -/

/-- What is read as the body of a group is enclosed. After a backslash the body is enclosed
together with that backslash. -/
theorem enclosed_of_splitBody? {cs : List Char} :
    ∀ {afterBackslash : Bool} {body after : List Char},
    splitBody? afterBackslash cs = some (body, after) →
      cs = body ++ ')' :: after ∧ Enclosed (if afterBackslash then '\\' :: body else body) := by
  induction cs with
  | nil =>
      intro _ _ _ split
      simp [splitBody?] at split
  | cons c rest ih =>
      intro afterBackslash body after split
      rw [splitBody?] at split
      by_cases ends : c = ')' ∧ afterBackslash = false
      · rw [if_pos ends] at split
        obtain ⟨rfl, rfl⟩ := ends
        cases split
        exact ⟨rfl, .nil⟩
      · rw [if_neg ends, Option.map_eq_some_iff] at split
        obtain ⟨⟨body', after'⟩, split, same⟩ := split
        obtain ⟨rfl, enclosed⟩ := ih split
        cases same
        refine ⟨rfl, ?_⟩
        cases afterBackslash with
        | true => exact .taken c (by simpa using enclosed)
        | false =>
            by_cases backslash : c = '\\'
            · subst backslash
              simpa using enclosed
            · have parenthesis : c ≠ ')' := fun h => ends ⟨h, rfl⟩
              exact .plain backslash parenthesis (by simpa [backslash] using enclosed)

/-- The group ends at the first parenthesis that no backslash takes along. -/
theorem splitBody?_eq_some_iff {cs body after : List Char} :
    splitBody? false cs = some (body, after) ↔ cs = body ++ ')' :: after ∧ Enclosed body := by
  constructor
  · intro split
    simpa using enclosed_of_splitBody? split
  · rintro ⟨rfl, enclosed⟩
    induction enclosed with
    | nil => simp [splitBody?]
    | taken c _ ih => simp [splitBody?, ih]
    | @plain c _ backslash parenthesis _ ih =>
        have flag : (c == '\\') = false := by simpa using backslash
        simp [splitBody?, parenthesis, flag, ih]

/-! ## The keyword and the body -/

/-- A body that a keyword may stand before: it is empty or begins with a space. -/
def Opens (body : List Char) : Prop := ∀ c ∈ body.head?, isFieldSpace c = true

theorem opens_append {space : List Char} (field : Space space) (rest : List Char) :
    Opens (space ++ rest) := by
  obtain ⟨c, cs, shape, member⟩ := field.append rest
  rw [shape]
  intro d hd
  cases hd
  exact member

theorem opens_space {space : List Char} (field : Space space) : Opens space := by
  simpa using opens_append field []

theorem stops_letters {body : List Char} (opens : Opens body) (after : List Char) :
    Stops Char.isAlpha (body ++ ')' :: after) := by
  cases body with
  | nil => exact stops_cons (by decide) after
  | cons c body => exact stops_cons (isAlpha_of_isFieldSpace c (opens c rfl)) _

/-- The text of a group is split into its keyword and its body. -/
theorem splitGroup?_of_text {keyword body : List Char} (letters : Run Char.isAlpha keyword)
    (opens : Opens body) (enclosed : Enclosed body) (after : List Char) :
    splitGroup? (groupText keyword body ++ after) = some (String.ofList keyword, body, after) := by
  have shape : groupText keyword body ++ after = '(' :: (keyword ++ (body ++ ')' :: after)) := by
    simp [groupText]
  have stops := stops_letters opens after
  have next : (body ++ ')' :: after).head?.any (fun c => isFieldSpace c || c == ')') = true := by
    cases body with
    | nil => rfl
    | cons c body => simp [opens c rfl]
  simp only [shape, splitGroup?]
  rw [takeWhile_append letters.members stops, dropWhile_append letters.members stops, if_pos next,
    splitBody?_eq_some_iff.mpr ⟨rfl, enclosed⟩]
  rfl

theorem opens_of_next {body after : List Char} (enclosed : Enclosed body)
    (next : (body ++ ')' :: after).head?.any (fun c => isFieldSpace c || c == ')') = true) :
    Opens body := by
  intro c first
  cases enclosed with
  | nil => cases first
  | taken => simp [isFieldSpace] at next
  | plain _ parenthesis _ =>
      cases first
      simpa [parenthesis] using next

/-- What is split is the text of a group. -/
theorem text_of_splitGroup? {text body after : List Char} {word : String}
    (split : splitGroup? text = some (word, body, after)) :
    ∃ keyword, word = String.ofList keyword ∧ text = groupText keyword body ++ after ∧
      Opens body ∧ Enclosed body := by
  cases text with
  | nil => cases split
  | cons c rest =>
      by_cases opening : c = '('
      · subst opening
        simp only [splitGroup?] at split
        split at split
        · next next =>
            obtain ⟨⟨body', after'⟩, found, same⟩ := Option.map_eq_some_iff.mp split
            obtain ⟨shape, enclosed⟩ := splitBody?_eq_some_iff.mp found
            cases same
            rw [shape] at next
            refine ⟨_, rfl, ?_, opens_of_next enclosed next, enclosed⟩
            simp only [groupText, List.cons_append, List.append_assoc, List.nil_append]
            rw [← shape, List.takeWhile_append_dropWhile]
        · cases split
      · simp [splitGroup?, opening] at split

/-! ## Filters -/

theorem FilterBody.opens {search : Search} {body : List Char} {filter : Option Filter}
    (grammar : FilterBody search body filter) : Opens body := by
  cases grammar with
  | complete space₁ => exact opens_append space₁ _
  | nothing => exact nofun
  | space space₁ => exact opens_space space₁
  | property space₁ => exact opens_append space₁ _
  | propertySpace space₁ => exact opens_append space₁ _
  | rule space₁ => exact opens_append space₁ _

/-- A reading makes a group unless it is malformed. -/
theorem ofReading?_iff {α : Type} (keyword : String) (body : List Char) {reading : Reading α}
    {clause : Option α} :
    (∃ group, Group.ofReading? keyword body reading = some group ∧ group.clause? = clause) ↔
      reading = readingOf clause := by
  cases reading <;> cases clause <;> simp [Group.ofReading?, Group.clause?, readingOf]

/-- A filter is read at the head of a text exactly when the text begins with one. -/
theorem filter?_iff {text after : List Char} {filter : Option Filter} :
    (∃ group, Group.filter? text = some (group, after) ∧ group.clause? = filter) ↔
      ∃ head, text = head ++ after ∧ FilterGroup head filter := by
  constructor
  · rintro ⟨group, found, clause⟩
    obtain ⟨⟨word, body, after'⟩, split, found⟩ := Option.bind_eq_some_iff.mp found
    obtain ⟨search, named, found⟩ := Option.bind_eq_some_iff.mp found
    obtain ⟨group', read, same⟩ := Option.map_eq_some_iff.mp found
    cases same
    obtain ⟨keyword, rfl, rfl, -, enclosed⟩ := text_of_splitGroup? split
    have reading := (ofReading?_iff search.word body).mp ⟨_, read, clause⟩
    exact ⟨_, rfl, .mk (search_ofWord?_eq_some_iff.mp named)
      (filterBody_of_ofFields reading enclosed)⟩
  · rintro ⟨head, rfl, @⟨search, keyword, body, _, named, grammar⟩⟩
    obtain ⟨group, read, clause⟩ :=
      (ofReading?_iff search.word body).mpr (ofFields_of_filterBody grammar)
    refine ⟨group, ?_, clause⟩
    rw [Group.filter?, splitGroup?_of_text named.run_search grammar.opens grammar.enclosed]
    simp only [Option.bind_some]
    rw [search_ofWord?_eq_some_iff.mpr named, Option.bind_some, read]
    rfl

/-! ## Projections -/

theorem ProjectionBody.opens {body : List Char} {property : Option String}
    (grammar : ProjectionBody body property) : Opens body := by
  cases grammar with
  | complete space => exact opens_append space _
  | nothing => exact nofun
  | space space => exact opens_space space

theorem ProjectionBody.enclosed {body : List Char} {property : Option String}
    (grammar : ProjectionBody body property) : Enclosed body := by
  cases grammar with
  | complete space name =>
      rw [(plain_space space).enclosed_append_iff]
      exact (plain_name name).enclosed
  | nothing => exact .nil
  | space space => exact (plain_space space).enclosed

/-- The field of a projection is read as the grammar says, and nothing else is. -/
theorem projectionOfFields_eq_iff {body : List Char} {property : Option String} :
    projectionOfFields body = readingOf property ↔ ProjectionBody body property := by
  constructor
  · intro read
    have sound := readingOf_ne_malformed property
    unfold projectionOfFields skipSpace at read
    obtain ⟨rfl, ended⟩ | ⟨space, rest₁, rfl, hspace, -, read⟩ := takeField_cases _ read sound
    · rw [eq_none_of_incomplete ended]
      exact .nothing
    obtain ⟨rfl, ended⟩ | ⟨name, rest₂, rfl, hname, -, read⟩ := takeField_cases _ read sound
    · rw [eq_none_of_incomplete ended, List.append_nil]
      exact .space hspace
    cases rest₂ with
    | nil =>
        cases property with
        | none => cases read
        | some property =>
            cases read
            rw [List.append_nil]
            exact .complete hspace hname
    | cons c rest => exact absurd read.symm sound
  · intro grammar
    unfold projectionOfFields
    cases grammar with
    | @complete _ name space hname =>
        have ends := stops_name hname []
        rw [List.append_nil] at ends
        rw [skipSpace_append space ends, takeField_run hname]
        rfl
    | nothing => rfl
    | space space => rw [skipSpace_space space, takeField_nil, readingOf]

/-- A projection is read at the head of a text exactly when the text begins with one. -/
theorem projection?_iff {text after : List Char} {property : Option String} :
    (∃ group, Group.projection? text = some (group, after) ∧ group.clause? = property) ↔
      ∃ head, text = head ++ after ∧ ProjectionGroup head property := by
  constructor
  · rintro ⟨group, found, clause⟩
    obtain ⟨⟨word, body, after'⟩, split, found⟩ := Option.bind_eq_some_iff.mp found
    dsimp only at found
    by_cases named : word.toLower = "map"
    · rw [if_pos named] at found
      obtain ⟨group', read, same⟩ := Option.map_eq_some_iff.mp found
      cases same
      obtain ⟨keyword, rfl, rfl, -, enclosed⟩ := text_of_splitGroup? split
      have reading := (ofReading?_iff "map" body).mp ⟨_, read, clause⟩
      refine ⟨_, rfl, .mk (keyword_iff.mpr ?_) (projectionOfFields_eq_iff.mp reading)⟩
      rw [named]
      decide +kernel
    · rw [if_neg named] at found
      cases found
  · rintro ⟨head, rfl, @⟨keyword, body, _, named, grammar⟩⟩
    obtain ⟨group, read, clause⟩ :=
      (ofReading?_iff "map" body).mpr (projectionOfFields_eq_iff.mpr grammar)
    have word : (String.ofList keyword).toLower = "map" := by
      rw [keyword_iff.mp named]
      decide +kernel
    refine ⟨group, ?_, clause⟩
    rw [Group.projection?, splitGroup?_of_text named.run_map grammar.opens grammar.enclosed]
    simp only [Option.bind_some]
    rw [if_pos word, read]
    rfl

/-! ## Tails -/

/-- The keyword of a projection names no search. -/
theorem filter?_eq_none {text : List Char} {property : Option String}
    (group : ProjectionGroup text property) : Group.filter? text = none := by
  obtain @⟨keyword, body, _, named, grammar⟩ := group
  have word : Search.ofWord? (String.ofList keyword) = none := by
    have same : Search.ofWord? (String.ofList keyword) = Search.ofWord? "map" := by
      simp only [Search.ofWord?, keyword_iff.mp named]
    rw [same]
    decide +kernel
  have split := splitGroup?_of_text named.run_map grammar.opens grammar.enclosed []
  rw [List.append_nil] at split
  rw [Group.filter?, split]
  simp only [Option.bind_some]
  rw [word, Option.bind_none]

theorem projection?_nil : Group.projection? [] = none := rfl

/-- Behind a filter there may be a projection. -/
theorem read_of_filter? {text after : List Char} {group : Group Filter}
    (found : Group.filter? text = some (group, after)) :
    Tail.read text = ⟨some group, (Group.projection? after).map (·.1),
      ((Group.projection? after).map (·.2)).getD after⟩ := by
  simp only [Tail.read, found]
  cases Group.projection? after <;> rfl

/-- Without a filter there may be a projection as well. -/
theorem read_of_filter?_eq_none {text : List Char} (absent : Group.filter? text = none) :
    Tail.read text = ⟨none, (Group.projection? text).map (·.1),
      ((Group.projection? text).map (·.2)).getD text⟩ := by
  simp only [Tail.read, absent]
  cases Group.projection? text <;> rfl

/-- The tail is whole, and its groups make these clauses. -/
structure Makes (tail : Tail) (filter : Option Filter) (property : Option String) : Prop where
  whole : tail.isWhole = true
  filters : tail.filter.bind (·.clause?) = filter
  projects : tail.projection.bind (·.clause?) = property

theorem groups_of_makes {text : List Char} {filter : Option Filter} {property : Option String}
    (makes : Makes (Tail.read text) filter property) : Groups text filter property := by
  obtain ⟨whole, filters, projects⟩ := makes
  cases found : Group.filter? text with
  | none =>
      rw [read_of_filter?_eq_none found] at whole filters projects
      cases found' : Group.projection? text with
      | none => simp [found', Tail.isWhole] at whole
      | some read =>
          obtain ⟨group, after⟩ := read
          rw [found'] at whole projects
          obtain rfl : after = [] := by simpa [Tail.isWhole] using whole
          obtain ⟨head, rfl, grammar⟩ := projection?_iff.mp ⟨group, found', projects⟩
          rw [List.append_nil, ← filters]
          exact .projection grammar
  | some read =>
      obtain ⟨group, after⟩ := read
      rw [read_of_filter? found] at whole filters projects
      obtain ⟨head, rfl, grammar⟩ := filter?_iff.mp ⟨group, found, filters⟩
      cases found' : Group.projection? after with
      | none =>
          rw [found'] at whole projects
          obtain rfl : after = [] := by simpa [Tail.isWhole] using whole
          rw [List.append_nil, ← projects]
          exact .filter grammar
      | some read =>
          obtain ⟨group', after'⟩ := read
          rw [found'] at whole projects
          obtain rfl : after' = [] := by simpa [Tail.isWhole] using whole
          obtain ⟨head', rfl, grammar'⟩ := projection?_iff.mp ⟨group', found', projects⟩
          rw [List.append_nil]
          exact .both grammar grammar'

theorem makes_of_groups {text : List Char} {filter : Option Filter} {property : Option String}
    (groups : Groups text filter property) : Makes (Tail.read text) filter property := by
  cases groups with
  | filter grammar =>
      obtain ⟨group, found, clause⟩ := filter?_iff.mpr ⟨text, (List.append_nil _).symm, grammar⟩
      rw [read_of_filter? found, projection?_nil]
      exact ⟨rfl, clause, rfl⟩
  | projection grammar =>
      obtain ⟨group, found, clause⟩ :=
        projection?_iff.mpr ⟨text, (List.append_nil _).symm, grammar⟩
      rw [read_of_filter?_eq_none (filter?_eq_none grammar), found]
      exact ⟨rfl, rfl, clause⟩
  | @both text₁ text₂ _ _ grammar grammar' =>
      obtain ⟨group, found, clause⟩ :
          ∃ group, Group.filter? (text₁ ++ text₂) = some (group, text₂) ∧
            group.clause? = filter :=
        filter?_iff.mpr ⟨text₁, rfl, grammar⟩
      obtain ⟨group', found', clause'⟩ :=
        projection?_iff.mpr ⟨text₂, (List.append_nil _).symm, grammar'⟩
      rw [read_of_filter? found, found']
      exact ⟨rfl, clause, clause'⟩

/-- **A tail is whole exactly when it is a text of the grammar**, and then it makes the clauses of
that text. -/
theorem makes_iff {text : List Char} {filter : Option Filter} {property : Option String} :
    Makes (Tail.read text) filter property ↔ Groups text filter property :=
  ⟨groups_of_makes, makes_of_groups⟩

end Grammar
end PathQuery
