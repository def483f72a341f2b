import PathQuery.Proofs.Value.Comparison

/-!
# Laws of the loose order

Swapping two values swaps how they are ordered (`compare_swap`), and two values are unordered
exactly when they are compared as numbers and one of the numbers is NaN (`compare_eq_none_iff`).

The loose order is two orders: of texts by their code units, and of everything else by number. Each
of the two is transitive. Which of them compares two values depends on both, so a chain of three
values stays within one order exactly when two of the three are not texts, or none is. Then the
chain composes (`compare_then`). Where exactly two are texts, it need not.

Strings are ordered by their first difference, and differently from their code points where a
character beyond `0xffff` meets one from `0xe000` to `0xffff` (`compare_strings`).
-/

set_option autoImplicit false

namespace PathQuery

/-- A chain of two comparisons composes, in any order in which comparing is transitive. -/
theorem compare_eq_then {α : Type} {cmp : α → α → Ordering} [Std.TransCmp cmp] {x y z : α}
    (first : (cmp x y).isLE = true) (second : (cmp y z).isLE = true) :
    cmp x z = (cmp x y).then (cmp y z) := by
  cases order : cmp x y with
  | lt => exact Std.TransCmp.lt_of_lt_of_isLE order second
  | eq => exact Std.TransCmp.congr_left order
  | gt => exact absurd (order ▸ first) (by decide)

/-! ## Texts -/

namespace Text

theorem compare_then {s t u : String} (first : (compare s t).isLE = true)
    (second : (compare t u).isLE = true) : compare s u = (compare s t).then (compare t u) := by
  unfold compare at first second ⊢
  exact compare_eq_then first second

end Text

/-! ## Numbers -/

namespace Double

theorem position_eq_none_iff {x : Double} : x.position = none ↔ x = nan := by
  cases x with
  | nan => exact iff_of_true rfl rfl
  | infinite negative => exact iff_of_false nofun nofun
  | finite negative m => exact iff_of_false nofun nofun

theorem compare_swap (x y : Double) : y.compare x = (x.compare y).map Ordering.swap := by
  unfold compare
  cases x.position with
  | none => cases y.position <;> rfl
  | some i =>
      cases y.position with
      | none => rfl
      | some j => exact congrArg some Std.OrientedCmp.eq_swap

/-- Only NaN is unordered. -/
theorem compare_eq_none_iff {x y : Double} : x.compare y = none ↔ x = nan ∨ y = nan := by
  rw [← position_eq_none_iff, ← position_eq_none_iff]
  unfold compare
  cases x.position <;> cases y.position <;> simp

theorem compare_then {x y z : Double} {first second : Ordering} (xy : x.compare y = some first)
    (yz : y.compare z = some second) (le : first.isLE = true) (le' : second.isLE = true) :
    x.compare z = some (first.then second) := by
  unfold compare at xy yz ⊢
  cases hx : x.position with
  | none => simp [hx] at xy
  | some i =>
      cases hy : y.position with
      | none => simp [hx, hy] at xy
      | some j =>
          cases hz : z.position with
          | none => simp [hy, hz] at yz
          | some k =>
              simp only [hx, hy, Option.some.injEq] at xy
              simp only [hy, hz, Option.some.injEq] at yz
              subst xy yz
              exact congrArg some (compare_eq_then le le')

end Double

/-! ## Values -/

namespace Value

/-- The value is compared as a text where the other one is too: it is a string, or it is replaced by
its text. -/
def isText : Value → Bool
  | string _ | list _ | map _ | callable _ => true
  | _ => false

theorem isText_iff {value : Value} : value.isText = true ↔ ∃ s, value.asText? = some s := by
  cases value <;> simp [isText, asText?, primitive, isCompound, asString?]

theorem isText_eq_false_iff {value : Value} : value.isText = false ↔ value.asText? = none := by
  rw [Bool.eq_false_iff, ne_eq, isText_iff, Option.eq_none_iff_forall_ne_some]
  exact not_exists

theorem compare_swap (a b : Value) : b.compare a = (a.compare b).map Ordering.swap := by
  cases textA : a.asText? with
  | none =>
      rw [compare_of_number (.inl textA), compare_of_number (.inr textA)]
      exact Double.compare_swap _ _
  | some s =>
      cases textB : b.asText? with
      | none =>
          rw [compare_of_number (.inl textB), compare_of_number (.inr textB)]
          exact Double.compare_swap _ _
      | some t =>
          rw [compare_of_texts textA textB, compare_of_texts textB textA]
          exact congrArg some (Text.compare_swap s t)

/-- Values are unordered where a number is wanted of one of them and it has none. -/
theorem compare_eq_none_iff {a b : Value} :
    a.compare b = none ↔
      ¬ (a.isText = true ∧ b.isText = true) ∧ (a.toNumber = .nan ∨ b.toNumber = .nan) := by
  by_cases texts : a.isText = true ∧ b.isText = true
  · obtain ⟨s, textA⟩ := isText_iff.mp texts.1
    obtain ⟨t, textB⟩ := isText_iff.mp texts.2
    rw [compare_of_texts textA textB]
    exact iff_of_false nofun fun h => h.1 texts
  · have number : a.asText? = none ∨ b.asText? = none := by
      rw [← isText_eq_false_iff, ← isText_eq_false_iff]
      rwa [Decidable.not_and_iff_not_or_not, Bool.not_eq_true, Bool.not_eq_true] at texts
    rw [compare_of_number number, Double.compare_eq_none_iff, and_iff_right texts]

/-- Of three values, two of which are not the only texts, all are texts or no two are. -/
theorem texts_cases {a b c : Value} (texts : [a, b, c].countP isText ≠ 2) :
    (a.isText = true ∧ b.isText = true ∧ c.isText = true) ∨
      (a.isText = false ∨ b.isText = false) ∧ (b.isText = false ∨ c.isText = false) ∧
        (a.isText = false ∨ c.isText = false) := by
  revert texts
  simp only [List.countP_cons, List.countP_nil]
  cases a.isText <;> cases b.isText <;> cases c.isText <;> decide

/-- **A chain of three values composes unless exactly two of them are texts.** -/
theorem compare_then {a b c : Value} (texts : [a, b, c].countP isText ≠ 2)
    {first second : Ordering} (ab : a.compare b = some first) (bc : b.compare c = some second)
    (le : first.isLE = true) (le' : second.isLE = true) :
    a.compare c = some (first.then second) := by
  rcases texts_cases texts with ⟨isA, isB, isC⟩ | ⟨notAB, notBC, notAC⟩
  · obtain ⟨s, textA⟩ := isText_iff.mp isA
    obtain ⟨t, textB⟩ := isText_iff.mp isB
    obtain ⟨u, textC⟩ := isText_iff.mp isC
    rw [compare_of_texts textA textB] at ab
    rw [compare_of_texts textB textC] at bc
    cases ab
    cases bc
    rw [compare_of_texts textA textC, Text.compare_then le le']
  · rw [isText_eq_false_iff, isText_eq_false_iff] at notAB notBC notAC
    rw [compare_of_number notAB] at ab
    rw [compare_of_number notBC] at bc
    rw [compare_of_number notAC]
    exact Double.compare_then ab bc le le'

end Value

/-! ## Rules -/

theorem Rule.less_holds_iff {a b : Value} : less.holds a b = true ↔ a.compare b = some .lt :=
  beq_iff_eq

theorem Rule.lessOrEqual_holds_iff {a b : Value} :
    lessOrEqual.holds a b = true ↔ ∃ order, a.compare b = some order ∧ order.isLE = true := by
  show (a.compare b == some .lt || a.compare b == some .eq) = true ↔ _
  cases a.compare b with
  | none => simp
  | some order => cases order <;> simp

/-- Two comparisons in a row make a third, which is strict if one of the two is. -/
theorem Rule.holds_trans {a b c : Value} (texts : [a, b, c].countP Value.isText ≠ 2)
    (ab : lessOrEqual.holds a b = true) (bc : lessOrEqual.holds b c = true) :
    lessOrEqual.holds a c = true ∧
      (less.holds a b = true ∨ less.holds b c = true → less.holds a c = true) := by
  obtain ⟨first, orderAB, le⟩ := lessOrEqual_holds_iff.mp ab
  obtain ⟨second, orderBC, le'⟩ := lessOrEqual_holds_iff.mp bc
  have orderAC := Value.compare_then texts orderAB orderBC le le'
  rw [lessOrEqual_holds_iff, less_holds_iff, less_holds_iff, less_holds_iff, orderAB, orderBC,
    orderAC]
  cases first with
  | lt => exact ⟨⟨.lt, rfl, rfl⟩, fun _ => rfl⟩
  | eq =>
      refine ⟨⟨second, rfl, le'⟩, fun strict => ?_⟩
      rcases strict with first | last
      · exact nomatch first
      · exact last
  | gt => exact absurd le (by decide)

/-- Two texts with a number between them need not be in order as texts. -/
example :
    let middle := Value.number (.ofNat 10)
    Rule.lessOrEqual.holds (.string "9") middle = true ∧
      Rule.lessOrEqual.holds middle (.string "10") = true ∧
      Rule.lessOrEqual.holds (.string "9") (.string "10") = false := by decide +kernel

theorem Rule.lessOrEqual_of_less {a b : Value} (less : less.holds a b = true) :
    lessOrEqual.holds a b = true :=
  lessOrEqual_holds_iff.mpr ⟨.lt, less_holds_iff.mp less, rfl⟩

/-- **Laws of the loose order.** Swapping two values swaps how they are ordered. They are unordered
exactly when they are not both texts and the number of one of them is NaN. The rules for the order
are transitive on three values unless exactly two of these are texts. So a greater threshold lets
through whatever a smaller one does, when neither is a text. -/
theorem Value.compare_laws (a b c : Value) :
    b.compare a = (a.compare b).map Ordering.swap ∧
    (a.compare b = none ↔
      ¬ (a.isText = true ∧ b.isText = true) ∧ (a.toNumber = .nan ∨ b.toNumber = .nan)) ∧
    ([a, b, c].countP isText ≠ 2 →
      Rule.lessOrEqual.holds a b = true → Rule.lessOrEqual.holds b c = true →
        Rule.lessOrEqual.holds a c = true ∧
        (Rule.less.holds a b = true ∨ Rule.less.holds b c = true →
          Rule.less.holds a c = true)) ∧
    (b.isText = false → c.isText = false → Rule.lessOrEqual.holds b c = true →
      Rule.less.holds a b = true → Rule.less.holds a c = true) := by
  refine ⟨compare_swap a b, compare_eq_none_iff, fun texts => Rule.holds_trans texts, ?_⟩
  intro textB textC thresholds below
  have texts : [a, b, c].countP isText ≠ 2 := by
    simp only [List.countP_cons, List.countP_nil, textB, textC]
    cases a.isText <;> decide
  exact (Rule.holds_trans texts (Rule.lessOrEqual_of_less below) thresholds).2 (.inl below)

/-- Three texts in a row, of which two are not strings, and a string below two thresholds. -/
theorem Value.compare_laws_texts :
    (Rule.lessOrEqual.holds (list [null]) (map []) = true ∧
      Rule.lessOrEqual.holds (map []) (string "b") = true ∧
      Rule.lessOrEqual.holds (list [null]) (string "b") = true) ∧
    (Rule.lessOrEqual.holds (bool true) (number (.ofNat 2)) = true ∧
      Rule.less.holds (string " 0x0 ") (bool true) = true ∧
      Rule.less.holds (string " 0x0 ") (number (.ofNat 2)) = true) := by
  have first : Rule.lessOrEqual.holds (list [null]) (map []) = true := by decide +kernel
  have second : Rule.lessOrEqual.holds (map []) (string "b") = true := by decide +kernel
  have thresholds : Rule.lessOrEqual.holds (bool true) (number (.ofNat 2)) = true := by
    decide +kernel
  have below : Rule.less.holds (string " 0x0 ") (bool true) = true := by decide +kernel
  have row := (compare_laws (list [null]) (map []) (string "b")).2.2.1 (by decide) first second
  have through := (compare_laws (string " 0x0 ") (bool true) (number (.ofNat 2))).2.2.2
  exact ⟨⟨first, second, row.1⟩, thresholds, below, through rfl rfl thresholds below⟩

/-! ## Strings -/

/-- **The order of strings.** Two strings are equal in it only if they are the same. A string comes
before those that go on behind it. Strings that part are ordered as the characters at which they do,
by code points but with the characters beyond `0xffff` between `0xd7ff` and `0xe000`. So the order
is not that of code points exactly if the one character is beyond `0xffff` and the other is one
from `0xe000` to `0xffff`. -/
theorem Value.compare_strings (s t : String) :
    ∃ order, (string s).compare (string t) = some order ∧
      (order = .eq ↔ s = t) ∧
      (Text.Begins s t → order = .lt) ∧
      (Text.Begins t s → order = .gt) ∧
      (∀ c d, Text.PartAt s t c d →
        (order = .lt ↔ Text.Precedes c d) ∧
        (order = .gt ↔ Text.Precedes d c) ∧
        (order ≠ Ord.compare s t ↔ Text.Overtakes c d ∨ Text.Overtakes d c)) ∧
      ((s = t ∨ Text.Begins s t ∨ Text.Begins t s) ∧ order = Ord.compare s t ∨
        ∃ c d, Text.PartAt s t c d) := by
  have units := Text.lexicographic_compare
  have points := Text.lexicographic_codePoints
  refine ⟨Text.compare s t, compare_of_texts rfl rfl, Text.compare_eq_iff, units.of_begins,
    units.gt_of_begins, fun c d parts => ⟨units.lt_iff parts, units.gt_iff parts, ?_⟩, ?_⟩
  · rw [ne_eq, units.eq_iff points parts, Text.not_precedes_iff_lt_iff]
  · rcases Text.parting_cases s t with begins | parts
    · exact .inl ⟨begins, units.eq_of_begins points begins⟩
    · exact .inr parts

/-- A string and one that goes on behind it, and two strings that part at a character beyond
`0xffff` and one from `0xe000` to `0xffff`. -/
theorem Value.compare_strings_surrogate :
    (Text.Begins "a" "a😀" ∧ (string "a").compare (string "a😀") = some .lt ∧
      (string "a😀").compare (string "a") = some .gt) ∧
    Text.PartAt "a😀b" "a～" '😀' '～' ∧
      (string "a😀b").compare (string "a～") = some .lt ∧
      (string "a😀b").compare (string "a～") ≠ some (Ord.compare "a😀b" "a～") := by
  have begins : Text.Begins "a" "a😀" := ⟨'😀', [], by decide⟩
  have parts : Text.PartAt "a😀b" "a～" '😀' '～' :=
    ⟨by decide, ['a'], ['b'], [], by decide, by decide⟩
  obtain ⟨_, shorter, -, less, -⟩ := compare_strings "a" "a😀"
  obtain ⟨_, longer, -, -, greater, -⟩ := compare_strings "a😀" "a"
  obtain ⟨_, apart, -, -, -, parted, -⟩ := compare_strings "a😀b" "a～"
  obtain ⟨lt, -, other⟩ := parted _ _ parts
  have precedes : Text.Precedes '😀' '～' := by decide
  have overtakes : Text.Overtakes '😀' '～' := by decide
  refine ⟨⟨begins, ?_, ?_⟩, parts, ?_, ?_⟩
  · rw [shorter, less begins]
  · rw [longer, greater begins]
  · rw [apart, lt.mpr precedes]
  · rw [apart, ne_eq, Option.some.injEq]
    exact other.mpr (.inl overtakes)

end PathQuery
