import Mathlib.Logic.ExistsUnique
import PathQuery.Proofs.Value.Indexing

/-!
# The keys of the elements

A key is in the canonical form of an index exactly if it is the text of a number
(`isCanonicalIndex_iff`): digits that do not begin with zero are what their number is printed as. It
is read as an index if the number is a machine word as well (`indexOfKey?_eq_some_iff`), as all
indices in a list that is not too long are. So such a list has its items under the texts of their
indices, their number under `length`, and nothing under any other key (`Value.indexed_list`), and
only one key follows an item when it is replaced (`Value.existsUnique_key`). A string has its
characters in the same way.
-/

set_option autoImplicit false

namespace PathQuery

open Text

/-! ## Digits -/

/-- Every digit is printed for a number below ten. -/
theorem exists_digitChar {c : Char} (digit : c.isDigit = true) :
    ∃ d < 10, Nat.digitChar d = c := by
  have bounds : 48 ≤ c.toNat ∧ c.toNat ≤ 57 := Char.isDigit_iff_toNat.mp digit
  have small : c.toNat - 48 < 10 := by omega
  refine ⟨c.toNat - 48, small, Char.toNat_inj.mp ?_⟩
  rw [Nat.toNat_digitChar_of_lt_ten small]
  exact Nat.add_sub_cancel' bounds.1

/-- Digits that are read after a positive number stand behind its digits. -/
theorem toDigits_ofDigitChars_of_pos {cs : List Char} (digits : ∀ c ∈ cs, c.isDigit = true)
    {n : Nat} (positive : 0 < n) :
    Nat.toDigits 10 (Nat.ofDigitChars 10 cs n) = Nat.toDigits 10 n ++ cs := by
  induction cs generalizing n with
  | nil => rw [Nat.ofDigitChars_nil, List.append_nil]
  | cons c cs ih =>
      obtain ⟨first, others⟩ := List.forall_mem_cons.mp digits
      obtain ⟨d, small, rfl⟩ := exists_digitChar first
      have next := Nat.toDigits_append_toDigits (by decide : 1 < 10) positive small
      rw [Nat.ofDigitChars_cons_digitChar_of_lt_ten small, ih others (by omega), ← next,
        Nat.toDigits_of_lt_base small, List.append_assoc, List.singleton_append]

/-- **Digits that do not begin with zero are what their number is printed as.** -/
theorem toDigits_ofDigitChars {cs : List Char} (digits : Run Char.isDigit cs)
    (begun : cs.head? ≠ some '0') : Nat.toDigits 10 (Nat.ofDigitChars 10 cs 0) = cs := by
  obtain ⟨c, rest, rfl⟩ := List.exists_cons_of_ne_nil digits.ne_nil
  obtain ⟨first, others⟩ := List.forall_mem_cons.mp digits.members
  obtain ⟨d, small, rfl⟩ := exists_digitChar first
  have positive : 0 < d := by
    refine Nat.pos_of_ne_zero ?_
    rintro rfl
    exact begun rfl
  rw [Nat.ofDigitChars_cons_digitChar_of_lt_ten small, Nat.mul_zero, Nat.zero_add,
    toDigits_ofDigitChars_of_pos others positive, Nat.toDigits_of_lt_base small,
    List.singleton_append]

/-- **A key is in the canonical form exactly if it is the text of a number.** -/
theorem isCanonicalIndex_iff {key : String} :
    isCanonicalIndex key = true ↔ ∃ i : Nat, key = toString i := by
  constructor
  · intro canonical
    simp only [isCanonicalIndex, Bool.or_eq_true, Bool.and_eq_true, Bool.not_eq_true', beq_iff_eq,
      bne_iff_ne] at canonical
    rcases canonical with zero | ⟨⟨nonempty, begun⟩, all⟩
    · exact ⟨0, String.toList_inj.mp zero⟩
    · have digits : Run Char.isDigit key.toList :=
        ⟨List.isEmpty_eq_false_iff.mp nonempty, List.all_eq_true.mp all⟩
      refine ⟨Nat.ofDigitChars 10 key.toList 0, String.toList_inj.mp ?_⟩
      rw [toList_toString, toDigits_ofDigitChars digits begun]
  · rintro ⟨i, rfl⟩
    exact isCanonicalIndex_toString i

/-- **A key is read as an index exactly if it is the text of the index**, and this is a machine
word. -/
theorem indexOfKey?_eq_some_iff {key : String} {i : Nat} :
    indexOfKey? key = some i ↔ key = toString i ∧ i < UInt64.size := by
  constructor
  · intro read
    by_cases canonical : isCanonicalIndex key = true
    · obtain ⟨j, rfl⟩ := isCanonicalIndex_iff.mp canonical
      rw [indexOfKey?_toString] at read
      split at read
      · next word =>
          cases read
          exact ⟨rfl, word⟩
      · exact absurd read nofun
    · rw [indexOfKey?, if_neg canonical] at read
      exact absurd read nofun
  · rintro ⟨rfl, word⟩
    rw [indexOfKey?_toString, if_pos word]

/-! ## Lists -/

namespace Value

/-- Every key of a list but `length` is the text of an index or has nothing. -/
theorem lookup_list_of_ne_length (items : List Value) {key : String} (index : key ≠ "length") :
    (list items).lookup key = ((indexOfKey? key).bind (items[·]?)).getD undefined := by
  show lookupElement items key = _
  rw [lookupElement, if_neg index]

/-- Looking up an item commutes with mapping the items, if what is missing stays missing. -/
theorem lookup_list_map {f : Value → Value} (missing : f undefined = undefined)
    (items : List Value) {key : String} (index : key ≠ "length") :
    (list (items.map f)).lookup key = f ((list items).lookup key) := by
  rw [lookup_list_of_ne_length _ index, lookup_list_of_ne_length _ index]
  cases indexOfKey? key with
  | none => exact missing.symm
  | some i =>
      simp only [Option.bind_some, List.getElem?_map]
      cases items[i]? with
      | none => exact missing.symm
      | some item => rfl

theorem lookup_list_of_not_index (items : List Value) {key : String} (index : key ≠ "length")
    (other : ∀ i : Nat, key ≠ toString i) : (list items).lookup key = undefined := by
  have unread : indexOfKey? key = none :=
    Option.eq_none_iff_forall_ne_some.mpr fun i read => other i (indexOfKey?_eq_some_iff.mp read).1
  rw [lookup_list_of_ne_length items index, unread]
  rfl

/-- A key does not see an item at an index that it is not the text of. -/
theorem lookup_list_set {key : String} {i : Nat} (other : key ≠ toString i) (items : List Value)
    (item : Value) : (list (items.set i item)).lookup key = (list items).lookup key := by
  by_cases index : key = "length"
  · rw [index]
    show number (.ofNat (items.set i item).length) = number (.ofNat items.length)
    rw [List.length_set]
  · rw [lookup_list_of_ne_length _ index, lookup_list_of_ne_length _ index]
    cases read : indexOfKey? key with
    | none => rfl
    | some j =>
        have apart : i ≠ j := by
          rintro rfl
          exact other (indexOfKey?_eq_some_iff.mp read).1
        rw [Option.bind_some, Option.bind_some, List.getElem?_set_ne apart]

/-- The text of an index sees the item there. -/
theorem lookup_list_set_toString {items : List Value} {i : Nat} (word : i < UInt64.size)
    (inside : i < items.length) (item : Value) :
    (list (items.set i item)).lookup (toString i) = item := by
  rw [lookup_list_toString _ word, List.getElem?_set_self inside, Option.getD_some]

/-! ## Elements -/

/-- The value has these elements: each under the text of its index, their number under `length`, and
nothing under any other key, be it the text of a greater index or no such text. -/
structure Indexed (value : Value) (elements : List Value) : Prop where
  length : ∃ m : Magnitude, value.lookup "length" = number (.finite false m) ∧
    m.toNat? = some elements.length
  element : ∀ (i : Nat) (inside : i < elements.length), value.lookup (toString i) = elements[i]
  beyond : ∀ i : Nat, elements.length ≤ i → value.lookup (toString i) = undefined
  other : ∀ key : String, key ≠ "length" → (∀ i : Nat, key ≠ toString i) →
    value.lookup key = undefined

end Value

/-- A small natural number is a double. -/
theorem Double.exists_ofNat {n : Nat} (small : n < 2 ^ Magnitude.precision) :
    ∃ m : Magnitude, ofNat n = .finite false m ∧ m.toNat? = some n := by
  have limit : 2 ^ Magnitude.precision = JsonNumber.greatestInteger + 1 := by decide
  rw [limit] at small
  have small : n ≤ JsonNumber.greatestInteger := by omega
  obtain ⟨m, units⟩ := Magnitude.exists_whole small
  refine ⟨m, nearest_eq ?_ false, Magnitude.toNat?_eq_some_iff.mpr units⟩
  rw [Magnitude.nearestUnits_whole small, units]

namespace Value

/-- **A list has its items under the texts of their indices.** -/
theorem indexed_list {items : List Value} (short : items.length < 2 ^ Magnitude.precision) :
    (list items).Indexed items where
  length := by
    obtain ⟨m, number, whole⟩ := Double.exists_ofNat short
    exact ⟨m, congrArg Value.number number, whole⟩
  element i inside := by
    rw [lookup_list_toString items (lt_size_of_short short inside),
      List.getElem?_eq_getElem inside, Option.getD_some]
  beyond _ outside := lookup_list_toString_of_length_le outside
  other _ index none := lookup_list_of_not_index items index none

/-- **Only one key follows the item at an index when it is replaced.** -/
theorem existsUnique_key {items : List Value} {i : Nat} (word : i < UInt64.size)
    (inside : i < items.length) :
    ∃! key : String, ∀ item, (list (items.set i item)).lookup key = item := by
  refine ⟨toString i, lookup_list_set_toString word inside, fun key follows => ?_⟩
  refine Classical.byContradiction fun other => ?_
  have null := (lookup_list_set other items null).symm.trans (follows null)
  have undefined := (lookup_list_set other items undefined).symm.trans (follows undefined)
  exact Value.noConfusion (null.symm.trans undefined)

/-! ## Strings -/

/-- The characters of a string, each a string of its own. -/
def characters (s : String) : List Value := s.toList.map fun c => string (String.singleton c)

/-- A string looks up its characters as a list does. -/
theorem lookup_string (s key : String) :
    (string s).lookup key = (list (characters s)).lookup key := rfl

theorem length_characters (s : String) : (characters s).length = s.length := by
  rw [characters, List.length_map, String.length_toList]

/-- **A string has its characters under the texts of their indices.** -/
theorem indexed_string {s : String} (short : s.length < 2 ^ Magnitude.precision) :
    (string s).Indexed (characters s) := by
  rw [← length_characters] at short
  obtain ⟨length, element, beyond, other⟩ := indexed_list short
  exact ⟨length, element, beyond, other⟩

/-- **Only one key follows the character at an index when it is replaced.** -/
theorem existsUnique_key_string {s : String} {i : Nat} (word : i < UInt64.size)
    (inside : i < s.length) :
    ∃! key : String, ∀ c : Char,
      (string (String.ofList (s.toList.set i c))).lookup key = string (String.singleton c) := by
  have replaced (c : Char) : characters (String.ofList (s.toList.set i c)) =
      (characters s).set i (string (String.singleton c)) := by
    rw [characters, characters, String.toList_ofList, List.map_set]
  have within : i < (characters s).length := by rwa [length_characters]
  refine ⟨toString i, fun c => ?_, fun key follows => ?_⟩
  · rw [lookup_string, replaced]
    exact lookup_list_set_toString word within _
  · refine Classical.byContradiction fun other => ?_
    have unseen (c : Char) :
        (list (characters s)).lookup key = string (String.singleton c) := by
      rw [← follows c, lookup_string, replaced, lookup_list_set other]
    have same := Value.string.inj ((unseen 'a').symm.trans (unseen 'b'))
    exact absurd (String.singleton_inj.mp same) (by decide)

/-- What is looked up under the texts of all indices is the characters. -/
theorem map_lookup_characters {s : String} (short : s.length < 2 ^ Magnitude.precision) :
    (List.range s.length).map (fun i => (string s).lookup (toString i)) =
      (s.toList.map String.singleton).map string := by
  have elements : (s.toList.map String.singleton).map string = characters s := by
    rw [List.map_map]
    rfl
  rw [elements, ← length_characters]
  refine List.ext_getElem (by simp) fun i _ inside => ?_
  rw [List.getElem_map, List.getElem_range]
  exact (indexed_string short).element i inside

theorem join_singletons (s : String) : String.join (s.toList.map String.singleton) = s := by
  refine String.toList_inj.mp ?_
  rw [String.toList_join, List.flatMap_map]
  simp

/-- **Lists and strings are looked up by the texts of indices.** A list has its items, and a string
its characters, each under the text of its index, and there is no second key for any of them. The
texts of numbers that are no machine words are keys without an element like all others. The
characters under all the indices make up the string. -/
theorem lookup_by_index :
    (∀ items : List Value, items.length < 2 ^ Magnitude.precision →
      (list items).Indexed items ∧
      ∀ i < items.length, ∃! key : String,
        ∀ item, (list (items.set i item)).lookup key = item) ∧
    ∀ s : String, s.length < 2 ^ Magnitude.precision →
      (string s).Indexed (s.toList.map fun c => string (String.singleton c)) ∧
      (∀ i < s.length, ∃! key : String, ∀ c : Char,
        (string (String.ofList (s.toList.set i c))).lookup key = string (String.singleton c)) ∧
      ∃ pieces : List String,
        (List.range s.length).map (fun i => (string s).lookup (toString i)) =
          pieces.map string ∧
        String.join pieces = s := by
  refine ⟨fun items short => ⟨indexed_list short, fun i inside => ?_⟩, fun s short => ?_⟩
  · exact existsUnique_key (lt_size_of_short short inside) inside
  · refine ⟨indexed_string short, fun i inside => ?_, _, map_lookup_characters short,
      join_singletons s⟩
    exact existsUnique_key_string (lt_size_of_short short inside) inside

/-- A string of two characters, one of them beyond ASCII: its length, the second of them, a key with
a zero in front, and an index that is beyond every machine word. -/
theorem lookup_by_index_accent :
    "hé".length < 2 ^ Magnitude.precision ∧
    (∃ m : Magnitude, (string "hé").lookup "length" = number (.finite false m) ∧
      m.toNat? = some 2) ∧
    (string "hé").lookup "1" = string "é" ∧ (string "hé").lookup "01" = undefined ∧
    (string "hé").lookup "18446744073709551617" = undefined ∧
    ∃! key : String, ∀ c : Char,
      (string (String.ofList ("hé".toList.set 1 c))).lookup key = string (String.singleton c) := by
  have short : "hé".length < 2 ^ Magnitude.precision := by decide
  obtain ⟨⟨length, element, beyond, other⟩, sole, -⟩ := lookup_by_index.2 "hé" short
  have padded (i : Nat) : "01" ≠ toString i := by
    intro same
    have canonical := isCanonicalIndex_iff.mpr ⟨i, same⟩
    exact absurd canonical (by decide)
  exact ⟨short, length, element 1 (by decide), other "01" (by decide) padded,
    beyond 18446744073709551617 (by decide), sole 1 (by decide)⟩

end Value

end PathQuery
