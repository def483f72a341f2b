import Mathlib.Tactic.Choose
import PathQuery.Proofs.Path.Searches

/-!
# Opposite rules

A filter that asks for all matches keeps the items at certain places of a list (`Filter.Keeps`).
Rules that are opposite (`Rule.Opposite`) share places out: each is kept under exactly one of them
(`Kept.Share`). Equality and its opposite share out all places of a list. So do containment and its
opposite if the literal can contain anything (`Value.isContainer`), and if it cannot, both keep
nothing. The rules for the order all look at one comparison (`Rule.orderRules_filter`), so the
opposite ones among them share out the places at which the property is ordered against the literal.
-/

set_option autoImplicit false

namespace PathQuery

/-! ## Rules -/

/-- The value is a string or a list, which are all that can contain anything. -/
def Value.isContainer : Value → Bool
  | string _ | list _ => true
  | _ => false

/-- A text that is not JSON is a literal that can contain something. -/
theorem Literal.isContainer_of_unread {text : String} (unread : Value.ofJsonText? text = none) :
    (Literal.ofText text).value.isContainer = true := by
  rw [Literal.ofText, unread]
  rfl

namespace Rule

theorem notEqual_holds (property literal : Value) :
    notEqual.holds property literal = !equal.holds property literal := rfl

theorem notContainedIn_holds {literal : Value} (container : literal.isContainer = true)
    (property : Value) :
    notContainedIn.holds property literal = !containedIn.holds property literal := by
  cases literal with
  | string s => rfl
  | list items => rfl
  | _ => exact absurd container Bool.false_ne_true

/-- What contains nothing does not lack anything either. -/
theorem holds_of_not_isContainer {literal : Value} (scalar : literal.isContainer = false)
    (property : Value) :
    containedIn.holds property literal = false ∧ notContainedIn.holds property literal = false := by
  cases literal with
  | string s => exact absurd scalar.symm Bool.false_ne_true
  | list items => exact absurd scalar.symm Bool.false_ne_true
  | _ => exact ⟨rfl, rfl⟩

/-- The rules for the loose order. -/
def orderRules : List Rule := [less, lessOrEqual, greater, greaterOrEqual]

/-- The rules for the loose order that hold where a comparison ends like this. -/
def orderRulesOf : Option Ordering → List Rule
  | none => []
  | some .lt => [less, lessOrEqual]
  | some .eq => [lessOrEqual, greaterOrEqual]
  | some .gt => [greater, greaterOrEqual]

/-- All rules for the loose order look at one comparison. -/
theorem orderRules_filter (property literal : Value) :
    (orderRules.filter fun rule => rule.holds property literal) =
      orderRulesOf (property.compare literal) := by
  have holds : (orderRules.filter fun rule => rule.holds property literal) =
      orderRules.filter fun rule => match rule with
        | less => property.compare literal == some .lt
        | lessOrEqual =>
            property.compare literal == some .lt || property.compare literal == some .eq
        | greater => property.compare literal == some .gt
        | greaterOrEqual =>
            property.compare literal == some .gt || property.compare literal == some .eq
        | _ => false := rfl
  rw [holds]
  cases property.compare literal with
  | none => rfl
  | some order => cases order <;> rfl

/-- Two rules are opposite beside a literal: one of them holds exactly where `shared` does, and
never both. -/
structure Opposite (first second : Rule) (literal : Value) (shared : Value → Prop) : Prop where
  either : ∀ property, first.holds property literal = true ∨ second.holds property literal = true ↔
    shared property
  notBoth : ∀ property, first.holds property literal = true → second.holds property literal = false

/-- A rule and its negation are opposite everywhere. -/
theorem opposite_of_not {first second : Rule} {literal : Value}
    (negated : ∀ property, second.holds property literal = !first.holds property literal) :
    Opposite first second literal fun _ => True := by
  constructor
  · intro property
    rw [negated property]
    cases first.holds property literal <;> decide
  · intro property holds
    rw [negated property, holds]
    rfl

/-- Two rules for the order are opposite if they tell apart all ends of a comparison. They are so
only where the comparison has an end. -/
theorem opposite_of_order {first second : Rule}
    (ofOrder : first ∈ orderRules ∧ second ∈ orderRules)
    (apart : ∀ order, first ∈ orderRulesOf (some order) ↔ second ∉ orderRulesOf (some order))
    (literal : Value) :
    Opposite first second literal fun property => property.compare literal ≠ none := by
  have holds_iff {rule : Rule} (isOrder : rule ∈ orderRules) (property : Value) :
      rule.holds property literal = true ↔ rule ∈ orderRulesOf (property.compare literal) := by
    rw [← orderRules_filter, List.mem_filter, and_iff_right isOrder]
  constructor
  · intro property
    rw [holds_iff ofOrder.1, holds_iff ofOrder.2]
    cases property.compare literal with
    | none => simp [orderRulesOf]
    | some order =>
        rw [apart order]
        exact iff_of_true (Decidable.not_or_of_imp id) nofun
  · intro property
    rw [holds_iff ofOrder.1, Bool.eq_false_iff, ne_eq, holds_iff ofOrder.2]
    cases property.compare literal with
    | none => exact fun none => absurd none List.not_mem_nil
    | some order => exact (apart order).mp

theorem opposite_less (literal : Value) :
    Opposite less greaterOrEqual literal fun property => property.compare literal ≠ none :=
  opposite_of_order (by decide) (fun order => by cases order <;> decide) literal

theorem opposite_greater (literal : Value) :
    Opposite greater lessOrEqual literal fun property => property.compare literal ≠ none :=
  opposite_of_order (by decide) (fun order => by cases order <;> decide) literal

end Rule

/-! ## What filters keep -/

/-- Items of a list, and the places of the list that they stand at. -/
structure Kept where
  values : List Value
  places : List Nat

/-- What a filter gives of a list is the items that match, in the order of the list. -/
structure Filter.Keeps (filter : Filter) (items : List Value) (kept : Kept) : Prop where
  gives : filter.apply (.list items) = .ok (.list kept.values)
  increasing : kept.places.Pairwise (· < ·)
  mem_iff : ∀ place, place ∈ kept.places ↔
    ∃ item, items[place]? = some item ∧ filter.accepts item = true
  values_eq : kept.values.map some = kept.places.map (items[·]?)

/-- Two filters share out the places of which `shared` holds: each of these is kept by exactly one
of them, and no other place is kept by any. -/
structure Kept.Share (shared : Nat → Prop) (first second : Kept) : Prop where
  either : ∀ place, place ∈ first.places ∨ place ∈ second.places ↔ shared place
  notBoth : ∀ place ∈ first.places, place ∉ second.places

/-- Two filters split a list: they share out all of its places. -/
structure Kept.Split (items : List Value) (first second : Kept) : Prop where
  shares : Share (· < items.length) first second
  length_add : first.values.length + second.values.length = items.length

namespace Rule

/-- The filter for all items of which a property stands in the relation to the literal. -/
def selection (rule : Rule) (property : String) (literal : Literal) : Filter :=
  ⟨.filter, property, rule, literal⟩

theorem exists_keeps (property : String) (literal : Literal) (items : List Value) (rule : Rule) :
    ∃ kept, (rule.selection property literal).Keeps items kept := by
  obtain ⟨places, increasing, mem_iff, values_eq⟩ :=
    selects_filter (rule.selection property literal).accepts items
  exact ⟨⟨_, places⟩, rfl, increasing, mem_iff, values_eq⟩

variable {property : String} {literal : Literal} {items : List Value} {first second : Rule}
  {kept kept' : Kept}

theorem values_of_keeps (keeps : (first.selection property literal).Keeps items kept) :
    kept.values = items.filter (first.selection property literal).accepts :=
  (Value.list.inj (Except.ok.inj keeps.gives)).symm

/-- Opposite rules share out the places of the items that are shared. -/
theorem Opposite.shares {shared : Value → Prop}
    (opposite : first.Opposite second literal.value shared)
    (keeps : (first.selection property literal).Keeps items kept)
    (keeps' : (second.selection property literal).Keeps items kept') :
    Kept.Share (fun place => ∃ item, items[place]? = some item ∧ shared (item.lookup property))
      kept kept' := by
  constructor
  · intro place
    rw [keeps.mem_iff, keeps'.mem_iff]
    constructor
    · rintro (⟨item, found, holds⟩ | ⟨item, found, holds⟩)
      · exact ⟨item, found, (opposite.either _).mp (.inl holds)⟩
      · exact ⟨item, found, (opposite.either _).mp (.inr holds)⟩
    · rintro ⟨item, found, wanted⟩
      rcases (opposite.either _).mpr wanted with holds | holds
      · exact .inl ⟨item, found, holds⟩
      · exact .inr ⟨item, found, holds⟩
  · intro place inFirst inSecond
    obtain ⟨item, found, holds⟩ := (keeps.mem_iff place).mp inFirst
    obtain ⟨other, found', holds'⟩ := (keeps'.mem_iff place).mp inSecond
    obtain rfl := Option.some.inj (found.symm.trans found')
    have lacks := opposite.notBoth (item.lookup property) holds
    exact Bool.false_ne_true (lacks.symm.trans holds')

/-- What rules keep that are opposite everywhere adds up to the list. -/
theorem Opposite.length_add (opposite : first.Opposite second literal.value fun _ => True)
    (property : String) (items : List Value) :
    (items.filter (first.selection property literal).accepts).length +
      (items.filter (second.selection property literal).accepts).length = items.length := by
  induction items with
  | nil => rfl
  | cons item items ih =>
      rcases (opposite.either (item.lookup property)).mpr trivial with holds | holds
      · have taken : (first.selection property literal).accepts item = true := holds
        have left : ¬ (second.selection property literal).accepts item = true :=
          Bool.eq_false_iff.mp (opposite.notBoth _ holds)
        rw [List.filter_cons_of_pos taken, List.filter_cons_of_neg left, List.length_cons,
          List.length_cons, Nat.add_right_comm, ih]
      · have taken : (second.selection property literal).accepts item = true := holds
        have left : ¬ (first.selection property literal).accepts item = true := by
          intro both
          exact Bool.false_ne_true ((opposite.notBoth _ both).symm.trans holds)
        rw [List.filter_cons_of_pos taken, List.filter_cons_of_neg left, List.length_cons,
          List.length_cons, ← Nat.add_assoc, ih]

theorem Opposite.splits (opposite : first.Opposite second literal.value fun _ => True)
    (keeps : (first.selection property literal).Keeps items kept)
    (keeps' : (second.selection property literal).Keeps items kept') :
    kept.Split items kept' := by
  have shares := opposite.shares keeps keeps'
  refine ⟨⟨fun place => (shares.either place).trans ?_, shares.notBoth⟩, ?_⟩
  · constructor
    · rintro ⟨item, found, -⟩
      exact (List.getElem?_eq_some_iff.mp found).1
    · intro inside
      exact ⟨items[place], List.getElem?_eq_getElem inside, trivial⟩
  · rw [values_of_keeps keeps, values_of_keeps keeps']
    exact opposite.length_add property items

/-- A rule that holds of nothing keeps nothing. -/
theorem values_eq_nil (keeps : (first.selection property literal).Keeps items kept)
    (never : ∀ property, first.holds property literal.value = false) : kept.values = [] := by
  rw [values_of_keeps keeps, List.filter_eq_nil_iff]
  intro item _
  exact Bool.eq_false_iff.mp (never (item.lookup property))

/-- At every place of a list, the rules for the order that keep it are those that go with the
comparison there. -/
theorem orderRules_at {kept : Rule → Kept}
    (keeps : ∀ rule : Rule, (rule.selection property literal).Keeps items (kept rule))
    (place : Nat) :
    (orderRules.filter fun rule => decide (place ∈ (kept rule).places)) =
      orderRulesOf (items[place]?.bind fun item =>
        (item.lookup property).compare literal.value) := by
  cases found : items[place]? with
  | none =>
      refine List.filter_eq_nil_iff.mpr fun rule _ => ?_
      rw [decide_eq_true_eq, (keeps rule).mem_iff, found]
      rintro ⟨item, none, -⟩
      exact Option.some_ne_none item none.symm
  | some item =>
      rw [Option.bind_some, ← orderRules_filter]
      refine List.filter_congr fun rule _ => ?_
      rw [Bool.eq_iff_iff, decide_eq_true_eq, (keeps rule).mem_iff, found]
      constructor
      · rintro ⟨other, same, holds⟩
        cases same
        exact holds
      · intro holds
        exact ⟨item, rfl, holds⟩

/-- **Opposite rules split a list.** Every place is kept under exactly one of equality and its
opposite. The same holds of containment and its opposite if the literal can contain anything, as
every text can that is not JSON. If it cannot, both keep nothing. Of the rules for the order none or
two keep a place, and two opposite ones share out the places at which the property is ordered
against the literal. -/
theorem opposites_split (property : String) (literal : Literal) (items : List Value) :
    ∃ kept : Rule → Kept,
      (∀ rule : Rule, (rule.selection property literal).Keeps items (kept rule)) ∧
      (kept equal).Split items (kept notEqual) ∧
      (literal.value.isContainer = true → (kept containedIn).Split items (kept notContainedIn)) ∧
      (∀ text, Value.ofJsonText? text = none →
        (Literal.ofText text).value.isContainer = true) ∧
      (literal.value.isContainer = false →
        (kept containedIn).values = [] ∧ (kept notContainedIn).values = []) ∧
      (∀ place, (orderRules.filter fun rule => decide (place ∈ (kept rule).places)) ∈
        [[], [less, lessOrEqual], [lessOrEqual, greaterOrEqual], [greater, greaterOrEqual]]) ∧
      let ordered (place : Nat) : Prop := ∃ item, items[place]? = some item ∧
        (item.lookup property).compare literal.value ≠ none
      (kept less).Share ordered (kept greaterOrEqual) ∧
        (kept greater).Share ordered (kept lessOrEqual) := by
  choose kept keeps using exists_keeps property literal items
  refine ⟨kept, keeps, ?_, ?_, ?_, ?_, ?_, ?_, ?_⟩
  · exact (opposite_of_not (notEqual_holds · _)).splits (keeps equal) (keeps notEqual)
  · intro container
    exact (opposite_of_not (notContainedIn_holds container)).splits (keeps containedIn)
      (keeps notContainedIn)
  · intro text unread
    exact Literal.isContainer_of_unread unread
  · intro scalar
    have never := holds_of_not_isContainer scalar
    exact ⟨values_eq_nil (keeps containedIn) fun property => (never property).1,
      values_eq_nil (keeps notContainedIn) fun property => (never property).2⟩
  · intro place
    rw [orderRules_at keeps place]
    cases items[place]?.bind fun item => (item.lookup property).compare literal.value with
    | none => decide
    | some order => cases order <;> decide
  · exact (opposite_less literal.value).shares (keeps less) (keeps greaterOrEqual)
  · exact (opposite_greater literal.value).shares (keeps greater) (keeps lessOrEqual)

/-- Two items without the property, one of them no map, beside a text that is not JSON and beside a
number. -/
theorem opposites_split_text :
    let items :=
      [Value.map [("id", .string "b")], .string "a", .map [], .map [("id", .number .nan)]]
    Value.ofJsonText? "a b" = none ∧
      (∃ kept kept' : Kept, (containedIn.selection "id" (.ofText "a b")).Keeps items kept ∧
        (notContainedIn.selection "id" (.ofText "a b")).Keeps items kept' ∧
        kept.Split items kept') ∧
      (Value.number .zero).isContainer = false ∧
      ∃ kept : Kept,
        (notContainedIn.selection "id" (.structured (.number .zero))).Keeps items kept ∧
          kept.values = [] := by
  intro items
  have unread : Value.ofJsonText? "a b" = none := by decide
  obtain ⟨kept, keeps, -, containers, texts, -⟩ := opposites_split "id" (.ofText "a b") items
  obtain ⟨kept', keeps', -, -, -, scalars, -⟩ :=
    opposites_split "id" (.structured (.number .zero)) items
  exact ⟨unread, ⟨_, _, keeps containedIn, keeps notContainedIn, containers (texts _ unread)⟩, rfl,
    _, keeps' notContainedIn, (scalars rfl).2⟩

end Rule
end PathQuery
