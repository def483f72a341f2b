import PathQuery.Path.Rule
import PathQuery.Proofs.Double.Fractions
import PathQuery.Proofs.Value.Comparison
import PathQuery.Value.Json

/-!
# Membership is equality without conversion

A list contains a value if one of its items is the same. What is the same is of one type and no
list, map or callable, and it is loosely equal unless it is NaN (`Value.same_iff`). A list that was
decoded from JSON has no NaN in it and nothing undefined. So it contains exactly the values that are
loosely equal to an item of their own type (`Rule.containedIn_list`).
-/

set_option autoImplicit false

namespace PathQuery

/-! ## Sameness -/

namespace Value

variable {a b : Value}

/-- Values that are the same are of one type, and this is no type of lists, maps or callables. -/
theorem types_of_same (same : a.same b = true) :
    a.typeName = b.typeName ∧ a.isCompound = false ∧ b.isCompound = false := by
  unfold Value.same at same
  split at same
  case h_6 => exact absurd same Bool.false_ne_true
  all_goals exact ⟨rfl, rfl, rfl⟩

theorem looseEqual_numbers (x y : Double) : (number x).looseEqual (number y) = x.equal y := rfl

/-- Two values of one type are the same exactly if they are loosely equal, unless they are lists,
maps, callables or NaN. -/
theorem same_iff_of_typeName (types : a.typeName = b.typeName) (scalar : a.isCompound = false)
    (notNan : a ≠ number .nan) : a.same b = true ↔ a.looseEqual b = true := by
  cases a with
  | undefined =>
      cases b with
      | undefined => exact iff_of_true rfl rfl
      | _ => simp [typeName] at types
  | null =>
      cases b with
      | null => exact iff_of_true rfl rfl
      | _ => simp [typeName] at types
  | bool x =>
      cases b with
      | bool y => rw [looseEqual_bools]; rfl
      | _ => simp [typeName] at types
  | number x =>
      cases b with
      | number y =>
          have isNan : x.isNan = false := by
            cases x with
            | nan => exact absurd rfl notNan
            | _ => rfl
          rw [looseEqual_numbers, same, isNan, Bool.false_and, Bool.or_false]
      | _ => simp [typeName] at types
  | string s =>
      cases b with
      | string t => exact Iff.rfl
      | _ => simp [typeName] at types
  | _ => exact absurd scalar.symm Bool.false_ne_true

/-- **What is the same as a value that is not NaN is what is of its type and loosely equal to it**,
neither being a list, a map or a callable. -/
theorem same_iff (notNan : a ≠ number .nan) :
    a.same b = true ↔ a.typeName = b.typeName ∧ a.isCompound = false ∧ b.isCompound = false ∧
      b.looseEqual a = true := by
  constructor
  · intro same
    obtain ⟨types, scalarA, scalarB⟩ := types_of_same same
    rw [looseEqual_comm]
    exact ⟨types, scalarA, scalarB, (same_iff_of_typeName types scalarA notNan).mp same⟩
  · rintro ⟨types, scalar, -, equal⟩
    rw [looseEqual_comm] at equal
    exact (same_iff_of_typeName types scalar notNan).mpr equal

end Value

/-! ## Lists decoded from JSON -/

theorem JsonNumber.toDouble_ne_nan (n : JsonNumber) : n.toDouble ≠ .nan := by
  cases n with
  | integer i =>
      rw [toDouble, Double.ofInt]
      exact Double.nearest_ne_nan _ _ _
  | real negative m => exact nofun

namespace Value

theorem ofJson_ne_undefined (json : Json) : ofJson json ≠ undefined := by
  cases json <;> exact nofun

theorem ofJson_ne_nan (json : Json) : ofJson json ≠ number .nan := by
  cases json with
  | number n =>
      intro same
      rw [ofJson] at same
      exact n.toDouble_ne_nan (number.inj same)
  | _ => exact nofun

theorem exists_of_mem_ofJsonItems {documents : List Json} {item : Value}
    (member : item ∈ ofJsonItems documents) : ∃ json, ofJson json = item := by
  induction documents with
  | nil => exact absurd member List.not_mem_nil
  | cons document rest ih =>
      rcases List.mem_cons.mp member with rfl | later
      · exact ⟨document, rfl⟩
      · exact ih later

/-- The items of a list that was decoded were decoded themselves. -/
theorem exists_ofJson {document : Json} {items : List Value}
    (decoded : ofJson document = list items) {item : Value} (member : item ∈ items) :
    ∃ json, ofJson json = item := by
  cases document with
  | list documents =>
      rw [← list.inj decoded] at member
      exact exists_of_mem_ofJsonItems member
  | _ => exact nomatch decoded

end Value

/-! ## The rule -/

namespace Rule

/-- A list contains a value if one of its items is the same. -/
theorem containedIn_holds_iff (property : Value) (items : List Value) :
    containedIn.holds property (.list items) = true ↔
      ∃ item ∈ items, item.same property = true := by
  show (items.any fun item => item.same property) = true ↔ _
  exact List.any_eq_true

/-- **Membership in a decoded list is equality without conversion.** The list contains exactly the
values that are equal to an item of their own type, neither being a list, a map or a callable. So
what it contains is equal to an item, no list contains lists, maps or callables, and what is
undefined is in no decoded list, although it is equal to every null in it. -/
theorem containedIn_list {document : Json} {items : List Value}
    (decoded : Value.ofJson document = .list items) (property : Value) :
    (containedIn.holds property (.list items) = true ↔
      ∃ item ∈ items, item.typeName = property.typeName ∧ item.isCompound = false ∧
        property.isCompound = false ∧ equal.holds property item = true) ∧
    (containedIn.holds property (.list items) = true →
      ∃ item ∈ items, equal.holds property item = true) ∧
    (property.isCompound = true →
      ∀ others : List Value, containedIn.holds property (.list others) = false) ∧
    containedIn.holds .undefined (.list items) = false ∧
    ∀ item ∈ items, item = .null → equal.holds .undefined item = true := by
  have contains : containedIn.holds property (.list items) = true ↔
      ∃ item ∈ items, item.typeName = property.typeName ∧ item.isCompound = false ∧
        property.isCompound = false ∧ equal.holds property item = true := by
    rw [containedIn_holds_iff]
    refine exists_congr fun item => and_congr_right fun member => ?_
    obtain ⟨json, rfl⟩ := Value.exists_ofJson decoded member
    exact Value.same_iff (Value.ofJson_ne_nan json)
  refine ⟨contains, fun contained => ?_, fun compound others => ?_, ?_, ?_⟩
  · obtain ⟨item, member, -, -, -, equal⟩ := contains.mp contained
    exact ⟨item, member, equal⟩
  · refine Bool.eq_false_iff.mpr fun contained => ?_
    obtain ⟨item, -, same⟩ := (containedIn_holds_iff property others).mp contained
    rw [(Value.types_of_same same).2.2] at compound
    exact Bool.false_ne_true compound
  · refine Bool.eq_false_iff.mpr fun contained => ?_
    obtain ⟨item, member, same⟩ := (containedIn_holds_iff .undefined items).mp contained
    obtain ⟨json, rfl⟩ := Value.exists_ofJson decoded member
    cases undefined : Value.ofJson json with
    | undefined => exact Value.ofJson_ne_undefined json undefined
    | _ =>
        rw [undefined] at same
        exact Bool.false_ne_true same
  · rintro item - rfl
    rfl

/-- A text that reads as a number and a null, beside the text, beside a number that is equal to the
text, and beside nothing. -/
theorem containedIn_list_null :
    let items := [Value.string "1", .null, .list []]
    Value.ofJson (.list [.string "1", .null, .list []]) = .list items ∧
      (∃ item ∈ items, equal.holds (.string "1") item = true) ∧
      (equal.holds (.number (.ofNat 1)) (.string "1") = true ∧
        containedIn.holds (.number (.ofNat 1)) (.list items) = false) ∧
      (Value.list []).isCompound = true ∧ containedIn.holds (.list []) (.list items) = false ∧
      equal.holds .undefined .null = true ∧ containedIn.holds .undefined (.list items) = false := by
  intro items
  have decoded : Value.ofJson (.list [.string "1", .null, .list []]) = .list items := rfl
  have text := containedIn_list decoded (.string "1")
  have number := containedIn_list decoded (.number (.ofNat 1))
  have list := containedIn_list decoded (.list [])
  refine ⟨decoded, text.2.1 (by decide), ⟨by decide +kernel, ?_⟩, rfl, list.2.2.1 rfl items,
    text.2.2.2.2 .null (by simp [items]) rfl, text.2.2.2.1⟩
  refine Bool.eq_false_iff.mpr fun contained => ?_
  obtain ⟨item, member, types, -⟩ := number.1.mp contained
  simp only [items, List.mem_cons, List.not_mem_nil, or_false] at member
  rcases member with rfl | rfl | rfl <;> simp [Value.typeName] at types

end Rule

end PathQuery
