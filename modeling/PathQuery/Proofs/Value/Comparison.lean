import PathQuery.Path.Rule
import PathQuery.Proofs.Text.CodeUnits

/-!
# Loose equality and the loose order

A value that is not null or undefined is compared as a text or as a number, and strings, lists, maps
and callables are texts (`Value.asText?`). Both comparisons compare two texts as texts and
everything else as numbers: the loose order always (`compare_of_texts`, `compare_of_number`), and
loose equality unless an operand is null or undefined or both are lists, maps or callables
(`looseEqual_of_texts`, `looseEqual_of_number`). So where loose equality looks at contents at all,
it says the same as the loose order (`looseEqual_eq_compare`). It can also be read as a recursion that
replaces one operand at a time (`looseEqual_eq`).
-/

set_option autoImplicit false

namespace PathQuery

/-! ## Numbers -/

namespace Double

theorem equal_comm (x y : Double) : x.equal y = y.equal x := by
  unfold equal
  cases x.position with
  | none => cases y.position <;> rfl
  | some i =>
      cases y.position with
      | none => rfl
      | some j => exact BEq.comm

/-- Numbers are equal exactly when neither is before the other. -/
theorem compare_eq_iff {x y : Double} : x.compare y = some .eq ↔ x.equal y = true := by
  unfold compare equal
  cases x.position <;> cases y.position <;> simp

end Double

namespace Value

/-! ## Texts and numbers -/

/-- The text that a value is compared as, unless it is compared as a number. -/
def asText? (value : Value) : Option String := value.primitive.asString?

/-- A value is compared as a text, and then its number is what the text reads as, or it stays what
it is. -/
theorem compared_cases (value : Value) :
    (∃ s, value.asText? = some s ∧ value.primitive = string s ∧ value.isNullish = false ∧
      value.toNumber = .ofText s) ∨
    value.asText? = none ∧ value.primitive = value ∧ value.isCompound = false := by
  cases value with
  | string s => exact .inl ⟨s, rfl, rfl, rfl, rfl⟩
  | list items => exact .inl ⟨_, rfl, rfl, rfl, rfl⟩
  | map entries => exact .inl ⟨_, rfl, rfl, rfl, rfl⟩
  | callable c => exact .inl ⟨_, rfl, rfl, rfl, rfl⟩
  | _ => exact .inr ⟨rfl, rfl, rfl⟩

theorem primitive_of_asText? {value : Value} {s : String} (text : value.asText? = some s) :
    value.primitive = string s ∧ value.isNullish = false ∧ value.toNumber = .ofText s := by
  rcases value.compared_cases with ⟨t, text', primitive, found, number⟩ | ⟨none, -⟩
  · obtain rfl := Option.some.inj (text.symm.trans text')
    exact ⟨primitive, found, number⟩
  · exact absurd (text.symm.trans none) nofun

/-- Loose equality compares a text as it is and everything else as a number. -/
theorem plain_cases {value : Value} (found : value.isNullish = false) :
    (∃ s, value.asText? = some s ∧ value.primitive.withoutBool = string s ∧
      value.toNumber = .ofText s) ∨
    value.asText? = none ∧ value.isCompound = false ∧
      value.primitive.withoutBool = number value.toNumber := by
  rcases value.compared_cases with ⟨s, text, primitive, -, reads⟩ | ⟨none, primitive, scalar⟩
  · exact .inl ⟨s, text, by rw [primitive]; rfl, reads⟩
  · refine .inr ⟨none, scalar, ?_⟩
    rw [primitive]
    cases value with
    | bool b => rfl
    | number n => rfl
    | undefined => exact absurd found nofun
    | null => exact absurd found nofun
    | _ => exact absurd none nofun

/-! ## The loose order -/

/-- Two texts are ordered as texts. -/
theorem compare_of_texts {a b : Value} {s t : String} (textA : a.asText? = some s)
    (textB : b.asText? = some t) : a.compare b = some (Text.compare s t) := by
  rw [compare, (primitive_of_asText? textA).1, (primitive_of_asText? textB).1]

theorem toNumber_primitive (value : Value) : value.primitive.toNumber = value.toNumber := by
  rcases value.compared_cases with ⟨s, -, primitive, -, number⟩ | ⟨-, primitive, -⟩
  · rw [primitive, number]
    rfl
  · rw [primitive]

/-- Where one of them is not a text, two values are ordered as numbers. -/
theorem compare_of_number {a b : Value} (number : a.asText? = none ∨ b.asText? = none) :
    a.compare b = a.toNumber.compare b.toNumber := by
  rw [compare]
  split
  · next textA textB =>
      simp [asText?, textA, textB, asString?] at number
  · rw [toNumber_primitive, toNumber_primitive]

/-! ## Loose equality -/

theorem looseEqual_of_isNullish {a b : Value} (nullish : a.isNullish = true ∨ b.isNullish = true) :
    a.looseEqual b = (a.isNullish && b.isNullish) := by
  have either : (a.isNullish || b.isNullish) = true := by simpa using nullish
  rw [looseEqual, if_pos either]

theorem isNullish_of_isCompound {value : Value} (compound : value.isCompound = true) :
    value.isNullish = false := by
  cases value with
  | undefined => exact absurd compound (by decide)
  | null => exact absurd compound (by decide)
  | _ => rfl

theorem looseEqual_of_isCompound {a b : Value} (compoundA : a.isCompound = true)
    (compoundB : b.isCompound = true) : a.looseEqual b = false := by
  simp [looseEqual, isNullish_of_isCompound compoundA, isNullish_of_isCompound compoundB,
    compoundA, compoundB]

/-- Two texts are equal if they are the same, unless neither is a string. -/
theorem looseEqual_of_texts {a b : Value} {s t : String} (textA : a.asText? = some s)
    (textB : b.asText? = some t) (scalar : (a.isCompound && b.isCompound) = false) :
    a.looseEqual b = (s == t) := by
  obtain ⟨primitiveA, foundA, -⟩ := primitive_of_asText? textA
  obtain ⟨primitiveB, foundB, -⟩ := primitive_of_asText? textB
  simp [looseEqual, foundA, foundB, scalar, primitiveA, primitiveB, withoutBool, plainEqual]

/-- Where one of them is not a text, two values are equal if their numbers are. -/
theorem looseEqual_of_number {a b : Value} (foundA : a.isNullish = false)
    (foundB : b.isNullish = false) (number : a.asText? = none ∨ b.asText? = none) :
    a.looseEqual b = a.toNumber.equal b.toNumber := by
  rcases plain_cases foundA with ⟨s, textA, plainA, readsA⟩ | ⟨noneA, scalarA, plainA⟩
  · rcases plain_cases foundB with ⟨t, textB, -, -⟩ | ⟨-, scalarB, plainB⟩
    · simp [textA, textB] at number
    · rw [readsA, Double.equal_comm]
      simp [looseEqual, foundA, foundB, scalarB, plainA, plainB, plainEqual]
  · rcases plain_cases foundB with ⟨t, -, plainB, readsB⟩ | ⟨-, -, plainB⟩
    · rw [readsB]
      simp [looseEqual, foundA, foundB, scalarA, plainA, plainB, plainEqual]
    · simp [looseEqual, foundA, foundB, scalarA, plainA, plainB, plainEqual]

/-- Where loose equality looks at contents, it says the same as the loose order. -/
theorem looseEqual_eq_compare {a b : Value} (foundA : a.isNullish = false)
    (foundB : b.isNullish = false) (scalar : (a.isCompound && b.isCompound) = false) :
    a.looseEqual b = true ↔ a.compare b = some .eq := by
  cases textA : a.asText? with
  | none =>
      rw [looseEqual_of_number foundA foundB (.inl textA), compare_of_number (.inl textA)]
      exact Double.compare_eq_iff.symm
  | some s =>
      cases textB : b.asText? with
      | none =>
          rw [looseEqual_of_number foundA foundB (.inr textB), compare_of_number (.inr textB)]
          exact Double.compare_eq_iff.symm
      | some t =>
          rw [looseEqual_of_texts textA textB scalar, compare_of_texts textA textB]
          simp [Text.compare_eq_iff]

theorem plainEqual_comm (x y : Value) : plainEqual x y = plainEqual y x := by
  cases x with
  | number n =>
      cases y with
      | number m => exact Double.equal_comm n m
      | _ => rfl
  | string s =>
      cases y with
      | string t => exact BEq.comm
      | _ => rfl
  | _ => cases y <;> rfl

theorem looseEqual_comm (a b : Value) : a.looseEqual b = b.looseEqual a := by
  rw [looseEqual, looseEqual, Bool.or_comm, Bool.and_comm a.isNullish, Bool.and_comm a.isCompound,
    plainEqual_comm]

/-! ## One operand at a time -/

/-- A truth value can be replaced by its number. -/
theorem looseEqual_bool (b : Bool) (other : Value) :
    (bool b).looseEqual other = (number (numberOfBool b)).looseEqual other := by
  simp only [looseEqual, isNullish, isCompound, primitive, withoutBool, Bool.false_and,
    Bool.false_eq_true, if_false]

/-- A list, a map or a callable can be replaced by its text, beside anything else. -/
theorem looseEqual_text {value other : Value} (compound : value.isCompound = true)
    (scalar : other.isCompound = false) :
    value.looseEqual other = (string value.text).looseEqual other := by
  have text : value.primitive = string value.text := if_pos compound
  have textOfText : (string value.text).primitive = string value.text := rfl
  rw [looseEqual, looseEqual, isNullish_of_isCompound compound, scalar, Bool.and_false,
    Bool.and_false, text, textOfText]
  rfl

/-- Truth values are equal as numbers if they are the same. -/
theorem looseEqual_bools (x y : Bool) : (bool x).looseEqual (bool y) = (x == y) := by
  cases x <;> cases y <;> decide +kernel

/-- **Loose equality as a recursion.** Null and undefined aside, operands of one kind are compared
as they are, and of a number and a string the string is read. Otherwise one operand is replaced, a
truth value by its number and a list, a map or a callable by its text, and the comparison begins
again. -/
theorem looseEqual_eq (a b : Value) :
    a.looseEqual b =
      if a.isNullish || b.isNullish then a.isNullish && b.isNullish
      else match a, b with
        | number x, number y => x.equal y
        | string s, string t => s == t
        | bool x, bool y => x == y
        | a, b =>
            if a.isCompound && b.isCompound then false
            else match a, b with
              | number x, string s | string s, number x => x.equal (.ofText s)
              | bool x, other | other, bool x => (number (numberOfBool x)).looseEqual other
              | a, b =>
                  if a.isCompound then (string a.text).looseEqual b
                  else if b.isCompound then (string b.text).looseEqual a
                  else false := by
  cases a with
  | undefined | null => cases b <;> rfl
  | bool x =>
      cases b with
      | bool y => exact looseEqual_bools x y
      | undefined | null => rfl
      | _ =>
          rw [looseEqual_bool]
          simp [isNullish, isCompound]
  | number _ | string _ =>
      cases b with
      | bool y =>
          rw [looseEqual_comm, looseEqual_bool]
          simp [isNullish, isCompound]
      | list _ | map _ | callable _ =>
          rw [looseEqual_comm, looseEqual_text rfl rfl]
          simp [isNullish, isCompound]
      | _ => rfl
  | list _ | map _ | callable _ =>
      cases b with
      | bool y =>
          rw [looseEqual_comm, looseEqual_bool]
          simp [isNullish, isCompound]
      | number _ | string _ =>
          rw [looseEqual_text rfl rfl]
          simp [isNullish, isCompound]
      | _ => rfl

end Value

/-! ## Rules -/

/-- Neither before nor behind the literal is to be equal in the loose order. -/
theorem Rule.holds_both_iff (a b : Value) :
    lessOrEqual.holds a b = true ∧ greaterOrEqual.holds a b = true ↔ a.compare b = some .eq := by
  show (a.compare b == some .lt || a.compare b == some .eq) = true ∧
    (a.compare b == some .gt || a.compare b == some .eq) = true ↔ _
  cases a.compare b with
  | none => decide
  | some order => cases order <;> decide

/-- **Loose equality agrees with the loose order.** It is symmetric. Null and undefined are equal to
themselves and each other only, and no two lists, maps or callables are equal. In every other case
two values are equal exactly when neither is before the other, and so the rule for equality matches
exactly when the rules for both orders do. -/
theorem Value.looseEqual_iff_compare (a b : Value) :
    a.looseEqual b = b.looseEqual a ∧
    (a.isNullish = true ∨ b.isNullish = true →
      (a.looseEqual b = true ↔ a.isNullish = true ∧ b.isNullish = true)) ∧
    (a.isCompound = true ∧ b.isCompound = true → a.looseEqual b = false) ∧
    (¬ (a.isNullish = true ∨ b.isNullish = true) →
      ¬ (a.isCompound = true ∧ b.isCompound = true) →
        (a.looseEqual b = true ↔ a.compare b = some .eq) ∧
        (Rule.equal.holds a b = true ↔
          Rule.lessOrEqual.holds a b = true ∧ Rule.greaterOrEqual.holds a b = true)) := by
  refine ⟨looseEqual_comm a b, fun nullish => ?_, fun compound => ?_, fun found scalar => ?_⟩
  · rw [looseEqual_of_isNullish nullish, Bool.and_eq_true]
  · exact looseEqual_of_isCompound compound.1 compound.2
  · obtain ⟨foundA, foundB⟩ := not_or.mp found
    have agree : a.looseEqual b = true ↔ a.compare b = some .eq := by
      refine looseEqual_eq_compare (Bool.eq_false_iff.mpr foundA) (Bool.eq_false_iff.mpr foundB) ?_
      rwa [Bool.eq_false_iff, ne_eq, Bool.and_eq_true]
    exact ⟨agree, agree.trans (Rule.holds_both_iff a b).symm⟩

/-- One pair of each kind: null and undefined, two lists that hold the same, and a truth value
beside a list that holds a list that reads as one. -/
theorem Value.looseEqual_iff_compare_list :
    (null.looseEqual undefined = true ↔ null.isNullish = true ∧ undefined.isNullish = true) ∧
    (list [null]).looseEqual (list [null]) = false ∧
    ((bool true).looseEqual (list [list [string " 1 "]]) = true ↔
      (bool true).compare (list [list [string " 1 "]]) = some .eq) := by
  have lists : (list [null]).isCompound = true := rfl
  exact ⟨(looseEqual_iff_compare null undefined).2.1 (.inl rfl),
    (looseEqual_iff_compare _ _).2.2.1 ⟨lists, lists⟩,
    ((looseEqual_iff_compare (bool true) (list [list [string " 1 "]])).2.2.2 (by decide)
      (by decide)).1⟩

end PathQuery
