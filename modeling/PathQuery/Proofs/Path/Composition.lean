import PathQuery.Path.Resolution

/-!
# Paths put together

Resolving goes on from one segment to the next for as long as there is something to look into.
`Path.proceed` is what happens after a segment: nothing if the segment gave null or undefined, and
otherwise the rest of the path. Going on along two paths put together is going on along the one and
then along the other (`Path.proceed_append`). So a path that has a segment is resolved by resolving
its beginning and going on from what that gives (`Path.resolve_append`). An error ends it, and null
and undefined stay what they are.

The first segment is applied to whatever the root is. Where there is nothing to look into, a key
gives undefined, and a search or a projection is an error (`Segment.apply_of_isNullish`).
-/

set_option autoImplicit false

namespace PathQuery

theorem Value.isNullish_iff {value : Value} :
    value.isNullish = true ↔ value = .null ∨ value = .undefined := by
  cases value <;> simp [Value.isNullish]

theorem Value.isNullish_eq_false_iff {value : Value} :
    value.isNullish = false ↔ value ≠ .null ∧ value ≠ .undefined := by
  rw [Bool.eq_false_iff, ne_eq, isNullish_iff, not_or]

/-! ## The first segment -/

/-- Null and undefined have nothing under any key. -/
theorem Value.lookup_of_isNullish {value : Value} (nullish : value.isNullish = true)
    (key : String) : value.lookup key = .undefined := by
  rcases isNullish_iff.mp nullish with rfl | rfl <;> rfl

/-- What a segment makes of null and of undefined. -/
theorem Segment.apply_of_isNullish {value : Value} (nullish : value.isNullish = true)
    (segment : Segment) :
    segment.apply value =
      match segment.filter, segment.projection with
      | some filter, _ => .error (.typeMismatch filter.search.word "undefined")
      | none, some _ => .error (.typeMismatch "map" "undefined")
      | none, none => .ok .undefined := by
  obtain ⟨key, filter, projection⟩ := segment
  rw [apply, Value.lookup_of_isNullish nullish]
  cases filter with
  | some filter => rfl
  | none =>
      cases projection with
      | some property => rfl
      | none => rfl

namespace Path

/-! ## Going on after a segment -/

/-- Goes on along a path from what a segment gave. -/
def proceed (rest : Path) (value : Value) : Except QueryError Value :=
  if value.isNullish then .ok value else rest.resolve value

theorem resolve_cons (segment : Segment) (rest : Path) (root : Value) :
    resolve (segment :: rest) root = (segment.apply root).bind rest.proceed := rfl

/-- Null and undefined stay what they are. -/
theorem proceed_of_isNullish {value : Value} (nullish : value.isNullish = true) (rest : Path) :
    rest.proceed value = .ok value := if_pos nullish

theorem proceed_of_not_isNullish {value : Value} (found : value.isNullish = false) (rest : Path) :
    rest.proceed value = rest.resolve value := by
  rw [proceed, found]
  rfl

theorem proceed_nil (value : Value) : proceed [] value = .ok value := ite_self _

/-- A path of one segment gives what the segment gives. -/
theorem resolve_singleton (segment : Segment) (root : Value) :
    resolve [segment] root = segment.apply root := by
  rw [resolve_cons]
  cases segment.apply root with
  | error error => rfl
  | ok value => exact proceed_nil value

/-- Going on along two paths is going on along the one and then along the other. -/
theorem proceed_append (first rest : Path) (value : Value) :
    proceed (first ++ rest) value = (first.proceed value).bind rest.proceed := by
  induction first generalizing value with
  | nil => rw [proceed_nil]; rfl
  | cons segment first ih =>
      cases nullish : value.isNullish with
      | true =>
          rw [proceed_of_isNullish nullish, proceed_of_isNullish nullish]
          exact (proceed_of_isNullish nullish rest).symm
      | false =>
          rw [proceed_of_not_isNullish nullish, proceed_of_not_isNullish nullish, List.cons_append,
            resolve_cons, resolve_cons]
          cases segment.apply value with
          | error error => rfl
          | ok next => exact ih next

/-- **A path is resolved by resolving its beginning and going on from there.** -/
theorem resolve_append {first : Path} (nonempty : first ≠ []) (rest : Path) (root : Value) :
    resolve (first ++ rest) root = (first.resolve root).bind rest.proceed := by
  obtain ⟨segment, first, rfl⟩ := List.exists_cons_of_ne_nil nonempty
  rw [List.cons_append, resolve_cons, resolve_cons]
  cases segment.apply root with
  | error error => rfl
  | ok value => exact proceed_append first rest value

/-- A path ends at something to look into only if every beginning of it does. -/
theorem exists_resolve_of_append {first rest : Path} (nonempty : first ≠ []) {root value : Value}
    (found : resolve (first ++ rest) root = .ok value) (goesOn : value.isNullish = false) :
    ∃ here, first.resolve root = .ok here ∧ here.isNullish = false ∧
      rest.resolve here = .ok value := by
  rw [resolve_append nonempty] at found
  cases reached : first.resolve root with
  | error error =>
      rw [reached] at found
      exact nomatch found
  | ok here =>
      rw [reached] at found
      change rest.proceed here = .ok value at found
      cases nullish : here.isNullish with
      | true =>
          rw [proceed_of_isNullish nullish] at found
          cases found
          exact absurd (goesOn.symm.trans nullish) Bool.false_ne_true
      | false =>
          rw [proceed_of_not_isNullish nullish] at found
          exact ⟨here, rfl, nullish, found⟩

/-- **Resolving composes, and it stops at the first error and at the first value that there is
nothing to look into.** The second half is about the root, which is handed to the first segment even
where there is nothing to look into. -/
theorem resolve_composes (root : Value) :
    (∀ first rest : Path, first ≠ [] →
      (∀ error, first.resolve root = .error error →
        resolve (first ++ rest) root = .error error) ∧
      (∀ value, first.resolve root = .ok value → value = .null ∨ value = .undefined →
        resolve (first ++ rest) root = .ok value) ∧
      (∀ value, first.resolve root = .ok value → value ≠ .null → value ≠ .undefined →
        resolve (first ++ rest) root = rest.resolve value)) ∧
    resolve [] root = .ok root ∧
    (root = .null ∨ root = .undefined → ∀ (key : String) (rest : Path),
      resolve (.ofKey key :: rest) root = .ok .undefined ∧
      (∀ filter projection, resolve (⟨key, some filter, projection⟩ :: rest) root =
        .error (.typeMismatch filter.search.word "undefined")) ∧
      (∀ property, resolve (⟨key, none, some property⟩ :: rest) root =
        .error (.typeMismatch "map" "undefined"))) := by
  refine ⟨fun first rest nonempty => ⟨?_, ?_, ?_⟩, rfl, ?_⟩
  · intro error failed
    rw [resolve_append nonempty, failed]
    rfl
  · intro value found nullish
    rw [resolve_append nonempty, found]
    exact proceed_of_isNullish (Value.isNullish_iff.mpr nullish) rest
  · intro value found notNull notUndefined
    have goesOn : value.isNullish = false := by
      rw [Bool.eq_false_iff, ne_eq, Value.isNullish_iff]
      exact not_or.mpr ⟨notNull, notUndefined⟩
    rw [resolve_append nonempty, found]
    exact proceed_of_not_isNullish goesOn rest
  · intro nullish key rest
    have first := Segment.apply_of_isNullish (Value.isNullish_iff.mpr nullish)
    refine ⟨?_, fun filter projection => ?_, fun property => ?_⟩
    · rw [resolve_cons, first]
      rfl
    · rw [resolve_cons, first]
      rfl
    · rw [resolve_cons, first]
      rfl

/-- A null inside the data is kept in front of a projection that cannot be carried out, an error is
kept in front of it, and a null root is not. -/
theorem resolve_composes_null :
    let root := Value.map [("a", .null), ("b", .list [.null])]
    let names : Segment := ⟨"names", none, some "name"⟩
    (resolve [.ofKey "a"] root = .ok .null ∧
      resolve ([.ofKey "a"] ++ [names]) root = .ok .null) ∧
    (resolve [.ofKey "c"] root = .ok .undefined ∧
      resolve ([.ofKey "c"] ++ [names]) root = .ok .undefined) ∧
    (resolve [⟨"a", none, some "name"⟩] root = .error (.typeMismatch "map" "null") ∧
      resolve ([⟨"a", none, some "name"⟩] ++ [names]) root =
        .error (.typeMismatch "map" "null")) ∧
    (resolve [.ofKey "b"] root = .ok (.list [.null]) ∧
      resolve ([.ofKey "b"] ++ [names]) root = resolve [names] (.list [.null])) ∧
    resolve [names] .null = .error (.typeMismatch "map" "undefined") := by
  intro root names
  have composes := (resolve_composes root).1
  have null := (composes [.ofKey "a"] [names] nofun).2.1 _ rfl (.inl rfl)
  have undefined := (composes [.ofKey "c"] [names] nofun).2.1 _ rfl (.inr rfl)
  have error := (composes [⟨"a", none, some "name"⟩] [names] nofun).1 _ rfl
  have list := (composes [.ofKey "b"] [names] nofun).2.2 _ rfl nofun nofun
  have first := ((resolve_composes .null).2.2 (.inl rfl) "names" []).2.2 "name"
  exact ⟨⟨rfl, null⟩, ⟨rfl, undefined⟩, ⟨rfl, error⟩, ⟨rfl, list⟩, first⟩

end Path

end PathQuery
