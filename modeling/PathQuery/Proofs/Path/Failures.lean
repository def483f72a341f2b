import PathQuery.Proofs.Path.Composition

/-!
# Where resolving fails

A segment fails for one of four reasons, all of which are about the type of a value
(`Segment.Rejects`): its filter or its projection is applied to something other than a list, where
a projection sees what the filter of its own segment has found. Resolving a path fails exactly when
it comes to a segment that fails, and there is one such place at most (`Path.resolve_fails_iff`).

Comparisons are no reason. One that cannot be carried out is no match, and whatever the comparisons
come to, a filter finds something in every list.
-/

set_option autoImplicit false

namespace PathQuery

/-! ## Reasons -/

/-- The value is the first item that is accepted, or undefined where none is. -/
inductive FirstMatch (accepts : Value → Bool) : List Value → Value → Prop
  | item (before : List Value) {item : Value} (after : List Value) (accepted : accepts item = true)
      (refused : ∀ other ∈ before, accepts other = false) :
      FirstMatch accepts (before ++ item :: after) item
  | none {items : List Value} (refused : ∀ item ∈ items, accepts item = false) :
      FirstMatch accepts items .undefined

/-- A segment fails with an error after its key has given a value. -/
inductive Segment.Rejects (segment : Segment) : Value → QueryError → Prop
  /-- The filter is applied to a value that is not a list. -/
  | search {filter : Filter} {found : Value} (filtered : segment.filter = some filter)
      (notList : ∀ items, found ≠ .list items) :
      Rejects segment found (.typeMismatch filter.search.word found.typeName)
  /-- There is no filter, and the projection is applied to a value that is not a list. -/
  | projection {property : String} {found : Value} (unfiltered : segment.filter = none)
      (projected : segment.projection = some property)
      (notList : ∀ items, found ≠ .list items) :
      Rejects segment found (.typeMismatch "map" found.typeName)
  /-- The projection is applied to the place of an item. -/
  | place {filter : Filter} {property : String} {items : List Value}
      (filtered : segment.filter = some filter) (projected : segment.projection = some property)
      (search : filter.search = .findIndex) :
      Rejects segment (.list items) (.typeMismatch "map" "number")
  /-- The projection is applied to the first match, which is not a list. -/
  | item {filter : Filter} {property : String} {items : List Value} {first : Value}
      (filtered : segment.filter = some filter) (projected : segment.projection = some property)
      (search : filter.search = .find) (firstMatch : FirstMatch filter.accepts items first)
      (notList : ∀ inner, first ≠ .list inner) :
      Rejects segment (.list items) (.typeMismatch "map" first.typeName)

theorem firstMatch_iff {accepts : Value → Bool} {items : List Value} {first : Value} :
    FirstMatch accepts items first ↔ first = (items.find? accepts).getD .undefined := by
  constructor
  · rintro (⟨before, after, accepted, refused⟩ | refused)
    · have found : (before ++ first :: after).find? accepts = some first :=
        List.find?_eq_some_iff_append.mpr ⟨accepted, before, after, rfl, by simpa using refused⟩
      rw [found, Option.getD_some]
    · have none : items.find? accepts = none :=
        List.find?_eq_none.mpr fun item member => by simp [refused item member]
      rw [none, Option.getD_none]
  · rintro rfl
    cases found : items.find? accepts with
    | none =>
        refine .none fun item member => ?_
        simpa using List.find?_eq_none.mp found item member
    | some item =>
        obtain ⟨accepted, before, after, rfl, refused⟩ := List.find?_eq_some_iff_append.mp found
        exact .item before after accepted (by simpa using refused)

/-! ## Segments -/

theorem Filter.apply_eq_error_iff {filter : Filter} {value : Value} {error : QueryError} :
    filter.apply value = .error error ↔
      (∀ items, value ≠ .list items) ∧
        error = .typeMismatch filter.search.word value.typeName := by
  cases value with
  | list items => exact iff_of_false nofun fun h => h.1 items rfl
  | _ => simp [apply, eq_comm]

/-- A comparison that cannot be carried out is no match. -/
theorem Filter.accepts_of_error {filter : Filter} {item : Value}
    {mismatch : RuleError}
    (failed : filter.rule.apply (item.lookup filter.property) filter.literal.value =
      .error mismatch) : filter.accepts item = false := by
  rw [Filter.accepts, Rule.holds, failed]

theorem Value.project_eq_error_iff {value : Value} {property : String} {error : QueryError} :
    value.project property = .error error ↔
      (∀ items, value ≠ .list items) ∧ error = .typeMismatch "map" value.typeName := by
  cases value with
  | list items => exact iff_of_false nofun fun h => h.1 items rfl
  | _ => simp [project, eq_comm]

namespace Segment

variable {segment : Segment} {found result : Value} {error : QueryError}

theorem search_eq_error_iff :
    segment.search found = .error error ↔
      ∃ filter, segment.filter = some filter ∧ filter.apply found = .error error := by
  rw [search]
  cases segment.filter with
  | none => simp
  | some filter => simp

theorem search_eq_ok_iff :
    segment.search found = .ok result ↔
      segment.filter = none ∧ result = found ∨
        ∃ filter, segment.filter = some filter ∧ ∃ items, found = .list items ∧
          result = filter.run items := by
  rw [search]
  cases segment.filter with
  | none => simp [eq_comm]
  | some filter => cases found <;> simp [Filter.apply, eq_comm]

theorem project_eq_error_iff :
    segment.project result = .error error ↔
      ∃ property, segment.projection = some property ∧
        (∀ items, result ≠ .list items) ∧ error = .typeMismatch "map" result.typeName := by
  rw [project]
  cases segment.projection with
  | none => simp
  | some property => simp [Value.project_eq_error_iff]

/-- A projection fails on what a filter has found if that is a place, or an item that is not a
list. -/
theorem rejects_of_run {filter : Filter} {property : String} {items : List Value}
    (filtered : segment.filter = some filter) (projected : segment.projection = some property)
    (notList : ∀ inner, filter.run items ≠ .list inner) :
    segment.Rejects (.list items) (.typeMismatch "map" (filter.run items).typeName) := by
  cases search : filter.search with
  | find =>
      have first : filter.run items = (items.find? filter.accepts).getD .undefined := by
        rw [Filter.run, search]
      exact .item filtered projected search (firstMatch_iff.mpr first) notList
  | filter =>
      have all : filter.run items = .list (items.filter filter.accepts) := by
        rw [Filter.run, search]
      exact absurd all (notList _)
  | findIndex =>
      have place : (filter.run items).typeName = "number" := by
        rw [Filter.run, search]
        rfl
      rw [place]
      exact .place filtered projected search

/-- A segment fails in its filter, or in its projection after its filter. -/
theorem apply_eq_error_cases {value : Value} :
    segment.apply value = .error error ↔
      segment.search (value.lookup segment.key) = .error error ∨
        ∃ result, segment.search (value.lookup segment.key) = .ok result ∧
          segment.project result = .error error := by
  rw [apply]
  cases segment.search (value.lookup segment.key) with
  | error other => simp [Except.bind]
  | ok result => simp [Except.bind]

/-- **A segment fails for one of the four reasons.** -/
theorem apply_eq_error_iff {value : Value} :
    segment.apply value = .error error ↔ segment.Rejects (value.lookup segment.key) error := by
  rw [apply_eq_error_cases]
  generalize value.lookup segment.key = found
  constructor
  · rintro (searched | ⟨result, searched, failed⟩)
    · obtain ⟨filter, filtered, applied⟩ := search_eq_error_iff.mp searched
      obtain ⟨notList, rfl⟩ := Filter.apply_eq_error_iff.mp applied
      exact .search filtered notList
    · obtain ⟨property, projected, notList, rfl⟩ := project_eq_error_iff.mp failed
      rcases search_eq_ok_iff.mp searched with
        ⟨unfiltered, rfl⟩ | ⟨filter, filtered, items, rfl, rfl⟩
      · exact .projection unfiltered projected notList
      · exact rejects_of_run filtered projected notList
  · intro rejects
    cases rejects with
    | search filtered notList =>
        exact .inl (search_eq_error_iff.mpr
          ⟨_, filtered, Filter.apply_eq_error_iff.mpr ⟨notList, rfl⟩⟩)
    | projection unfiltered projected notList =>
        exact .inr ⟨_, search_eq_ok_iff.mpr (.inl ⟨unfiltered, rfl⟩),
          project_eq_error_iff.mpr ⟨_, projected, notList, rfl⟩⟩
    | @place filter property items filtered projected search =>
        refine .inr ⟨_, search_eq_ok_iff.mpr (.inr ⟨_, filtered, _, rfl, rfl⟩),
          project_eq_error_iff.mpr ⟨_, projected, ?_, ?_⟩⟩
        · rw [Filter.run, search]
          exact nofun
        · rw [Filter.run, search]
          rfl
    | @item filter property items first filtered projected search firstMatch notList =>
        have run : filter.run items = first := by
          rw [firstMatch_iff.mp firstMatch, Filter.run, search]
        refine .inr ⟨_, search_eq_ok_iff.mpr (.inr ⟨_, filtered, _, rfl, run.symm⟩),
          project_eq_error_iff.mpr ⟨_, projected, notList, rfl⟩⟩

end Segment

/-! ## Paths -/

namespace Path

/-- Resolving comes to the segment at a place, with the root or with a value that there is something
to look into, and the segment fails. -/
def FailsAt (path : Path) (root : Value) (k : Nat) (error : QueryError) : Prop :=
  ∃ segment value, path[k]? = some segment ∧ resolve (path.take k) root = .ok value ∧
    (0 < k → value ≠ .null ∧ value ≠ .undefined) ∧
    segment.Rejects (value.lookup segment.key) error

variable {path : Path} {root : Value} {error : QueryError}

/-- The first segment is applied to the root. -/
theorem failsAt_zero_iff {segment : Segment} {rest : Path} :
    FailsAt (segment :: rest) root 0 error ↔ segment.apply root = .error error := by
  rw [Segment.apply_eq_error_iff]
  constructor
  · rintro ⟨_, _, ⟨⟩, ⟨⟩, -, rejects⟩
    exact rejects
  · intro rejects
    exact ⟨segment, root, rfl, rfl, nofun, rejects⟩

/-- A later segment is reached through what the first one gives. -/
theorem failsAt_succ_iff {segment : Segment} {rest : Path} {k : Nat} :
    FailsAt (segment :: rest) root (k + 1) error ↔
      ∃ value, segment.apply root = .ok value ∧ value.isNullish = false ∧
        FailsAt rest value k error := by
  constructor
  · rintro ⟨failing, last, place, reached, goesOn, rejects⟩
    have lastFound := Value.isNullish_eq_false_iff.mpr (goesOn k.succ_pos)
    obtain ⟨value, applied, found, continued⟩ :=
      exists_resolve_of_append (List.cons_ne_nil segment []) reached lastFound
    rw [resolve_singleton] at applied
    exact ⟨value, applied, found, failing, last, place, continued, fun _ => goesOn k.succ_pos,
      rejects⟩
  · rintro ⟨value, applied, found, failing, last, place, reached, goesOn, rejects⟩
    refine ⟨failing, last, place, ?_, fun _ => ?_, rejects⟩
    · rw [List.take_succ_cons, resolve_cons, applied]
      exact (proceed_of_not_isNullish found _).trans reached
    · cases k with
      | zero =>
          cases reached
          exact Value.isNullish_eq_false_iff.mp found
      | succ k => exact goesOn k.succ_pos

/-- Going on fails only where there is something to look into. -/
theorem proceed_eq_error_iff {rest : Path} {value : Value} :
    proceed rest value = .error error ↔
      value.isNullish = false ∧ resolve rest value = .error error := by
  cases nullish : value.isNullish with
  | true =>
      rw [proceed_of_isNullish nullish]
      exact iff_of_false nofun nofun
  | false => rw [proceed_of_not_isNullish nullish, and_iff_right rfl]

/-- Resolving fails where it comes to a segment that fails. -/
theorem resolve_eq_error_iff :
    path.resolve root = .error error ↔ ∃ k, path.FailsAt root k error := by
  induction path generalizing root with
  | nil => exact iff_of_false nofun fun ⟨k, segment, _, place, _⟩ => nomatch place
  | cons segment rest ih =>
      rw [resolve_cons]
      cases applied : segment.apply root with
      | error other =>
          constructor
          · rintro ⟨⟩
            exact ⟨0, failsAt_zero_iff.mpr applied⟩
          · rintro ⟨_ | k, fails⟩
            · exact applied.symm.trans (failsAt_zero_iff.mp fails)
            · obtain ⟨value, gives, -⟩ := failsAt_succ_iff.mp fails
              exact nomatch applied.symm.trans gives
      | ok value =>
          show proceed rest value = .error error ↔ _
          rw [proceed_eq_error_iff, ih]
          constructor
          · rintro ⟨found, k, fails⟩
            exact ⟨k + 1, failsAt_succ_iff.mpr ⟨value, applied, found, fails⟩⟩
          · rintro ⟨_ | k, fails⟩
            · exact nomatch applied.symm.trans (failsAt_zero_iff.mp fails)
            · obtain ⟨_, gives, found, fails⟩ := failsAt_succ_iff.mp fails
              cases applied.symm.trans gives
              exact ⟨found, k, fails⟩

/-- There is one place at most where resolving fails. -/
theorem FailsAt.unique {k k' : Nat} {error' : QueryError} (fails : path.FailsAt root k error)
    (fails' : path.FailsAt root k' error') : k = k' ∧ error = error' := by
  induction path generalizing root k k' with
  | nil =>
      obtain ⟨_, _, place, _⟩ := fails
      exact nomatch place
  | cons segment rest ih =>
      cases k with
      | zero =>
          have first := failsAt_zero_iff.mp fails
          cases k' with
          | zero =>
              cases first.symm.trans (failsAt_zero_iff.mp fails')
              exact ⟨rfl, rfl⟩
          | succ k' =>
              obtain ⟨value, gives, -⟩ := failsAt_succ_iff.mp fails'
              exact nomatch first.symm.trans gives
      | succ k =>
          obtain ⟨value, gives, -, fails⟩ := failsAt_succ_iff.mp fails
          cases k' with
          | zero => exact nomatch gives.symm.trans (failsAt_zero_iff.mp fails')
          | succ k' =>
              obtain ⟨_, gives', -, fails'⟩ := failsAt_succ_iff.mp fails'
              cases gives.symm.trans gives'
              obtain ⟨rfl, rfl⟩ := ih fails fails'
              exact ⟨rfl, rfl⟩

/-- A segment without a filter and a projection rejects nothing. -/
theorem not_rejects_of_plain {segment : Segment} {found : Value}
    (plain : segment.filter = none ∧ segment.projection = none) :
    ¬ segment.Rejects found error := by
  intro rejects
  cases rejects with
  | search filtered _ => exact nomatch plain.1.symm.trans filtered
  | projection _ projected _ => exact nomatch plain.2.symm.trans projected
  | place _ projected _ => exact nomatch plain.2.symm.trans projected
  | item _ projected _ _ _ => exact nomatch plain.2.symm.trans projected

/-- **Resolving fails exactly at a segment that rejects what its key gives**, with the error of that
segment, and there is one such place at most. So a path of keys alone is resolved from every root.
Comparisons are no reason to fail: a filter finds something in every list, and an item whose
comparison cannot be carried out is no match. -/
theorem resolve_fails_iff (path : Path) (root : Value) :
    (∀ error, path.resolve root = .error error ↔ ∃ k, path.FailsAt root k error) ∧
    (∀ k k' error error', path.FailsAt root k error → path.FailsAt root k' error' →
      k = k' ∧ error = error') ∧
    ((∀ segment ∈ path, segment.filter = none ∧ segment.projection = none) →
      ∃ value, path.resolve root = .ok value) ∧
    (∀ (filter : Filter) (items : List Value),
      (∃ found, filter.apply (.list items) = .ok found) ∧
        ∀ item ∈ items, ∀ mismatch,
          filter.rule.apply (item.lookup filter.property) filter.literal.value =
            .error mismatch → filter.accepts item = false) := by
  refine ⟨fun error => resolve_eq_error_iff, fun k k' error error' => FailsAt.unique, ?_, ?_⟩
  · intro plain
    cases resolved : path.resolve root with
    | ok value => exact ⟨value, rfl⟩
    | error error =>
        obtain ⟨k, segment, value, place, -, -, rejects⟩ := resolve_eq_error_iff.mp resolved
        exact absurd rejects (not_rejects_of_plain (plain segment (List.mem_of_getElem? place)))
  · intro filter items
    exact ⟨⟨filter.run items, rfl⟩, fun item _ mismatch => Filter.accepts_of_error⟩

/-- A search without a match leaves the projection of its own segment nothing to look into. -/
example :
    resolve [.ofKey "a", ⟨"b", some ⟨.find, "id", .equal, .raw "x"⟩, some "c"⟩, .ofKey "d"]
      (.map [("a", .map [("b", .list [.null, .list []])])]) =
        .error (.typeMismatch "map" "undefined") := rfl

end Path

end PathQuery
