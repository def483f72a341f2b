import PathQuery.Proofs.Path.Composition
import PathQuery.Proofs.Value.Elements

/-!
# Projecting a list and taking one of its items

A projection takes a property of every item, and a key takes one item. It does not matter which
comes first: an item of the projected list is the property of the item (`Value.lookup_projected`). A
path that takes the item first stops at it if it is null, and one that projects first stops behind
it, where null has become undefined. Nothing else tells the two apart
(`Path.projection_commutes`).
-/

set_option autoImplicit false

namespace PathQuery

/-! ## One item -/

namespace Value

/-- **An item of the projected list is the property of the item.** -/
theorem lookup_projected (items : List Value) (property : String) {key : String}
    (index : key ≠ "length") :
    (list (items.map (·.lookup property))).lookup key =
      ((list items).lookup key).lookup property :=
  @lookup_list_map (·.lookup property) rfl items key index

/-- What a list has under `length` is a number. -/
theorem ne_length_of_lookup_null {items : List Value} {key : String}
    (found : (list items).lookup key = null) : key ≠ "length" := by
  rintro rfl
  exact nomatch found

end Value

/-- A projection is applied to what the segment gives without it. -/
theorem Segment.apply_projection (key : String) (filter : Option Filter) (property : String)
    (value : Value) :
    Segment.apply ⟨key, filter, some property⟩ value =
      (Segment.apply ⟨key, filter, none⟩ value).bind (·.project property) := by
  show (Segment.search ⟨key, filter, none⟩ (value.lookup key)).bind _ =
    ((Segment.search ⟨key, filter, none⟩ (value.lookup key)).bind .ok).bind _
  cases Segment.search ⟨key, filter, none⟩ (value.lookup key) with
  | error error => rfl
  | ok found => rfl

namespace Path

/-! ## Along a path -/

/-- Where the last segment gives something to look into, it was applied to a value that every
continuation of the beginning is resolved from. -/
theorem exists_reached {start : Path} {segment : Segment} {root value : Value}
    (found : resolve (start ++ [segment]) root = .ok value) (goesOn : value.isNullish = false) :
    ∃ here, segment.apply here = .ok value ∧
      ∀ path : Path, resolve (start ++ path) root = path.resolve here := by
  cases start with
  | nil => exact ⟨root, (resolve_singleton segment root).symm.trans found, fun path => rfl⟩
  | cons first start =>
      have nonempty : first :: start ≠ [] := List.cons_ne_nil _ _
      obtain ⟨here, reached, inside, last⟩ := exists_resolve_of_append nonempty found goesOn
      refine ⟨here, (resolve_singleton segment here).symm.trans last, fun path => ?_⟩
      rw [resolve_append nonempty, reached]
      exact proceed_of_not_isNullish inside path

theorem resolve_ofKey_cons (key : String) (rest : Path) (value : Value) :
    resolve (.ofKey key :: rest) value = rest.proceed (value.lookup key) := rfl

/-- Going on by a key is going on from what is under it, unless the way ends at a null. -/
theorem proceed_ofKey {value : Value} (notNull : value ≠ .null) (key : String) (rest : Path) :
    proceed (.ofKey key :: rest) value = rest.proceed (value.lookup key) := by
  cases nullish : value.isNullish with
  | false => rw [proceed_of_not_isNullish nullish, resolve_ofKey_cons]
  | true =>
      rcases Value.isNullish_iff.mp nullish with null | undefined
      · exact absurd null notNull
      · rw [undefined]
        rfl

/-- **Projecting commutes with taking an item.** Where a segment gives a list, it gives a list of
the same length with a projection, whether it searches or not. A key then takes an item of that
list, and the path goes on from it as it goes on, without the projection, from the property of the
item. Only an item that is null makes a difference: its property is undefined, and without the
projection the path ends at the null. -/
theorem projection_commutes {root : Value} {start : Path} {key : String} {filter : Option Filter}
    {items : List Value}
    (found : resolve (start ++ [⟨key, filter, none⟩]) root = .ok (.list items))
    (property : String) :
    ∃ projected : List Value,
      resolve (start ++ [⟨key, filter, some property⟩]) root = .ok (.list projected) ∧
      projected.length = items.length ∧
      ∀ (index : String) (rest : Path),
        let projectedFirst :=
          resolve (start ++ ⟨key, filter, some property⟩ :: .ofKey index :: rest) root
        let indexedFirst :=
          resolve (start ++ ⟨key, filter, none⟩ :: .ofKey index :: .ofKey property :: rest) root
        (index ≠ "length" → (Value.list items).lookup index ≠ .null →
          projectedFirst = indexedFirst) ∧
        ((Value.list items).lookup index = .null →
          projectedFirst = .ok .undefined ∧ indexedFirst = .ok .null) := by
  obtain ⟨here, plain, continues⟩ := exists_reached found rfl
  let projected := items.map (·.lookup property)
  have applied : Segment.apply ⟨key, filter, some property⟩ here = .ok (.list projected) := by
    rw [Segment.apply_projection, plain]
    rfl
  refine ⟨projected, ?_, List.length_map _, fun index rest => ?_⟩
  · rw [continues, resolve_cons, applied]
    rfl
  have first (isIndex : index ≠ "length") :
      resolve (start ++ ⟨key, filter, some property⟩ :: .ofKey index :: rest) root =
        rest.proceed (((Value.list items).lookup index).lookup property) := by
    rw [continues, resolve_cons, applied, ← Value.lookup_projected items property isIndex]
    rfl
  have second :
      resolve (start ++ ⟨key, filter, none⟩ :: .ofKey index :: .ofKey property :: rest) root =
        proceed (.ofKey property :: rest) ((Value.list items).lookup index) := by
    rw [continues, resolve_cons, plain]
    rfl
  refine ⟨fun isIndex notNull => ?_, fun null => ?_⟩
  · rw [first isIndex, second, proceed_ofKey notNull]
  · rw [first (Value.ne_length_of_lookup_null null), second, null]
    exact ⟨rfl, rfl⟩

/-- A search behind a key, which finds an item with a name, a text and a null. The text has no name,
and the path behind it ends there. -/
theorem projection_commutes_null :
    let items := [Value.map [("name", .string "x")], .string "y", .null]
    let root := Value.map [("a", .map [("items", .list items)])]
    let found (projection : Option String) : Segment :=
      ⟨"items", some ⟨.filter, "id", .notEqual, .raw "0"⟩, projection⟩
    resolve ([.ofKey "a"] ++ [found none]) root = .ok (.list items) ∧
      (Value.list items).lookup "1" ≠ .null ∧ (Value.list items).lookup "2" = .null ∧
      resolve ([.ofKey "a"] ++ [found (some "name"), .ofKey "1", .ofKey "0"]) root =
        resolve ([.ofKey "a"] ++ [found none, .ofKey "1", .ofKey "name", .ofKey "0"]) root ∧
      resolve ([.ofKey "a"] ++ [found (some "name"), .ofKey "2"]) root = .ok .undefined := by
  intro items root found
  have plain : resolve ([.ofKey "a"] ++ [found none]) root = .ok (.list items) := rfl
  obtain ⟨projected, -, -, continues⟩ := projection_commutes plain "name"
  exact ⟨plain, nofun, rfl, (continues "1" [.ofKey "0"]).1 (by decide) nofun,
    ((continues "2" []).2 rfl).1⟩

end Path

end PathQuery
