import PathQuery.Path.Rule
import PathQuery.Proofs.Value.Comparison
import PathQuery.Proofs.Value.Elements
import PathQuery.Proofs.Value.Serialization

/-!
# The sign of zero is not seen

Nothing that is asked of a value tells it from the value with zero in the place of minus zero
(`Value.unsigned`): both have the same text (`Value.text_unsigned`), both are written alike
(`Value.serialize_unsigned`), a lookup goes on to the same values without signs
(`Value.lookup_unsigned`), and no rule makes a difference (`Rule.apply_unsigned`).

The loose comparisons see four things of a value only, and these do not change (`Value.Alike`).

Writing a value that was decoded loses the signs of its zeros and nothing else, so that two such
values that are written alike are equal but for the signs of zeros
(`Value.unsigned_eq_of_serialize_eq`). Decoding it again rereads its numbers
(`Value.decode_reread`).
-/

set_option autoImplicit false

namespace PathQuery

/-! ## Numbers -/

namespace Double

theorem unsignedZero_finite_false (m : Magnitude) :
    (finite false m).unsignedZero = finite false m := by
  simp [unsignedZero]

/-- What is rounded to a number without a sign has no sign to lose. -/
theorem unsignedZero_nearest (num den : Nat) :
    (nearest false num den).unsignedZero = nearest false num den := by
  unfold nearest
  split
  · exact unsignedZero_finite_false _
  · rfl

theorem isNan_unsignedZero (d : Double) : d.unsignedZero.isNan = d.isNan := by
  cases d <;> rfl

/-- Equality sees the places of two numbers only. -/
theorem equal_congr {x x' y y' : Double} (left : x.position = x'.position)
    (right : y.position = y'.position) : x.equal y = x'.equal y' := by
  rw [equal, equal, left, right]

theorem compare_congr {x x' y y' : Double} (left : x.position = x'.position)
    (right : y.position = y'.position) : x.compare y = x'.compare y' := by
  rw [compare, compare, left, right]

theorem position_eq_of_equal {x y : Double} (equal : x.equal y = true) :
    x.position = y.position := by
  unfold Double.equal at equal
  split at equal
  · next left right => rw [left, right, beq_iff_eq.mp equal]
  · exact absurd equal Bool.false_ne_true

end Double

theorem JsonNumber.ofDouble?_unsignedZero (d : Double) :
    ofDouble? d.unsignedZero = ofDouble? d := by
  cases d with
  | finite negative m =>
      by_cases zero : m.units = 0
      · have whole : m.toNat? = some 0 :=
          Magnitude.toNat?_eq_some_iff.mpr (by rw [zero, Nat.zero_mul])
        cases negative <;> simp [Double.unsignedZero, ofDouble?, whole, zero]
      · rw [Double.unsignedZero_of_units_ne_zero zero]
  | _ => rfl

namespace Value

@[simp] theorem isNullish_unsigned (value : Value) :
    value.unsigned.isNullish = value.isNullish := by
  cases value <;> rfl

@[simp] theorem isCompound_unsigned (value : Value) :
    value.unsigned.isCompound = value.isCompound := by
  cases value <;> rfl

/-! ## Texts and numbers -/

mutual
/-- Both zeros have one text. -/
theorem text_unsigned : (value : Value) → value.unsigned.text = value.text
  | .number n => congrArg String.ofList n.chars_unsignedZero
  | .list items => by rw [unsigned_list, text, text, itemTexts_unsigned items]
  | .undefined | .null | .bool _ | .string _ | .map _ | .callable _ => rfl

theorem itemTexts_unsigned : (items : List Value) →
    itemTexts (items.map unsigned) = itemTexts items
  | [] => rfl
  | item :: rest => by
      rw [List.map_cons, itemTexts, itemTexts, isNullish_unsigned, text_unsigned item,
        itemTexts_unsigned rest]
end

theorem position_toNumber_unsigned (value : Value) :
    value.unsigned.toNumber.position = value.toNumber.position := by
  cases value with
  | number n => exact n.position_unsignedZero
  | list items =>
      have text := text_unsigned (list items)
      rw [unsigned_list] at text
      rw [unsigned_list, toNumber, toNumber, text]
  | _ => rfl

theorem asText?_unsigned (value : Value) : value.unsigned.asText? = value.asText? := by
  cases value with
  | list items => exact congrArg some (text_unsigned (list items))
  | _ => rfl

/-! ## Comparisons -/

/-- The loose comparisons see no difference between two values. -/
structure Alike (a b : Value) : Prop where
  nullish : a.isNullish = b.isNullish
  compound : a.isCompound = b.isCompound
  text : a.asText? = b.asText?
  position : a.toNumber.position = b.toNumber.position

theorem alike_unsigned (value : Value) : value.unsigned.Alike value :=
  ⟨value.isNullish_unsigned, value.isCompound_unsigned, value.asText?_unsigned,
    value.position_toNumber_unsigned⟩

theorem Alike.compare {a a' b b' : Value} (left : a.Alike a') (right : b.Alike b') :
    a.compare b = a'.compare b' := by
  have number (byNumber : a.asText? = none ∨ b.asText? = none) : a.compare b = a'.compare b' := by
    rw [compare_of_number byNumber, compare_of_number (by rwa [← left.text, ← right.text])]
    exact Double.compare_congr left.position right.position
  cases textA : a.asText? with
  | none => exact number (.inl textA)
  | some s =>
      cases textB : b.asText? with
      | none => exact number (.inr textB)
      | some t =>
          rw [compare_of_texts textA textB, compare_of_texts (left.text ▸ textA)
            (right.text ▸ textB)]

theorem Alike.looseEqual {a a' b b' : Value} (left : a.Alike a') (right : b.Alike b') :
    a.looseEqual b = a'.looseEqual b' := by
  by_cases nullish : a.isNullish = true ∨ b.isNullish = true
  · rw [looseEqual_of_isNullish nullish,
      looseEqual_of_isNullish (by rwa [← left.nullish, ← right.nullish]), left.nullish,
      right.nullish]
  · obtain ⟨foundA, foundB⟩ := not_or.mp nullish
    rw [Bool.not_eq_true] at foundA foundB
    have foundA' : a'.isNullish = false := left.nullish ▸ foundA
    have foundB' : b'.isNullish = false := right.nullish ▸ foundB
    have number (byNumber : a.asText? = none ∨ b.asText? = none) :
        a.looseEqual b = a'.looseEqual b' := by
      rw [looseEqual_of_number foundA foundB byNumber,
        looseEqual_of_number foundA' foundB' (by rwa [← left.text, ← right.text])]
      exact Double.equal_congr left.position right.position
    cases textA : a.asText? with
    | none => exact number (.inl textA)
    | some s =>
        cases textB : b.asText? with
        | none => exact number (.inr textB)
        | some t =>
            cases compound : a.isCompound && b.isCompound with
            | true =>
                obtain ⟨compoundA, compoundB⟩ := Bool.and_eq_true_iff.mp compound
                rw [looseEqual_of_isCompound compoundA compoundB,
                  looseEqual_of_isCompound (left.compound ▸ compoundA)
                    (right.compound ▸ compoundB)]
            | false =>
                rw [looseEqual_of_texts textA textB compound,
                  looseEqual_of_texts (left.text ▸ textA) (right.text ▸ textB)
                    (by rw [← left.compound, ← right.compound, compound])]

/-- Equality without conversion compares numbers by their places as well. -/
theorem same_unsigned (a b : Value) : a.unsigned.same b.unsigned = a.same b := by
  cases a with
  | number x =>
      cases b with
      | number y =>
          have equal := Double.equal_congr x.position_unsignedZero y.position_unsignedZero
          simp only [unsigned_number, same, equal, Double.isNan_unsignedZero]
      | _ => rfl
  | _ => cases b <;> rfl

theorem contains_unsigned (container value : Value) (rule : Rule) :
    container.unsigned.contains value.unsigned rule = container.contains value rule := by
  cases container with
  | string s =>
      simp only [unsigned_string, contains, text_unsigned]
  | list items =>
      simp only [unsigned_list, contains, List.any_map, Function.comp_def, same_unsigned]
  | _ => rfl

end Value

namespace Rule

/-- **No rule sees the sign of zero**, neither in the property nor in the literal. -/
theorem apply_unsigned (rule : Rule) (property literal : Value) :
    rule.apply property.unsigned literal.unsigned = rule.apply property literal := by
  have equal := property.alike_unsigned.looseEqual literal.alike_unsigned
  have compare := property.alike_unsigned.compare literal.alike_unsigned
  cases rule with
  | containedIn => exact literal.contains_unsigned property _
  | notContainedIn => exact congrArg (Except.map not) (literal.contains_unsigned property _)
  | _ => simp only [apply, equal, compare]

theorem apply_unsigned_left (rule : Rule) (property literal : Value) :
    rule.apply property.unsigned literal = rule.apply property literal := by
  rw [← apply_unsigned, Value.unsigned_unsigned, apply_unsigned]

theorem apply_unsigned_right (rule : Rule) (property literal : Value) :
    rule.apply property literal.unsigned = rule.apply property literal := by
  rw [← apply_unsigned, Value.unsigned_unsigned, apply_unsigned]

end Rule

namespace Value

/-! ## Lookup -/

theorem lookup_entries_unsigned (entries : List (String × Value)) (key : String) :
    (entries.map fun entry => (entry.1, entry.2.unsigned)).lookup key =
      (entries.lookup key).map unsigned := by
  induction entries with
  | nil => rfl
  | cons entry rest ih =>
      obtain ⟨name, value⟩ := entry
      rw [List.map_cons, List.lookup_cons, List.lookup_cons]
      cases key == name with
      | true => rfl
      | false => exact ih

theorem elements?_unsigned (value : Value) :
    value.unsigned.elements? = value.elements?.map (·.map unsigned) := by
  cases value with
  | list items => rw [unsigned_list, elements?, elements?, Option.map_some]
  | string s =>
      have characters : (unsigned ∘ fun c => string (String.singleton c)) =
          fun c => string (String.singleton c) := rfl
      simp only [unsigned_string, elements?, Option.map_some, List.map_map, characters]
  | _ => rfl

/-- The number of the elements has no sign, since it is not negative. -/
theorem unsigned_ofNat (n : Nat) : (number (.ofNat n)).unsigned = number (.ofNat n) := by
  rw [unsigned_number, Double.ofNat, Double.unsignedZero_nearest]

theorem lookupElement_unsigned (elements : List Value) (key : String) :
    lookupElement (elements.map unsigned) key = (lookupElement elements key).unsigned := by
  by_cases length : key = "length"
  · rw [length]
    show number (.ofNat (elements.map unsigned).length) = (number (.ofNat elements.length)).unsigned
    rw [List.length_map, unsigned_ofNat]
  · exact lookup_list_map rfl elements length

/-- A value that is no map looks up its elements. -/
theorem lookup_of_elements? {value : Value} {elements : List Value}
    (found : value.elements? = some elements) (key : String) :
    value.lookup key = lookupElement elements key := by
  cases value with
  | list _ | string _ =>
      cases found
      rfl
  | _ => nomatch found

/-- **What lies inside a value without signs is what lies inside the value, without signs.** -/
theorem lookup_unsigned (value : Value) (key : String) :
    value.unsigned.lookup key = (value.lookup key).unsigned := by
  have elements {elements : List Value} (found : value.elements? = some elements) :
      value.unsigned.lookup key = (value.lookup key).unsigned := by
    have foundUnsigned := value.elements?_unsigned
    rw [found] at foundUnsigned
    rw [lookup_of_elements? found, lookup_of_elements? foundUnsigned, lookupElement_unsigned]
  cases value with
  | list _ | string _ => exact elements rfl
  | map entries =>
      simp only [unsigned_map, lookup, lookup_entries_unsigned]
      cases entries.lookup key <;> rfl
  | _ => rfl

/-! ## Writing -/

mutual
theorem toJson?_unsigned : (value : Value) → value.unsigned.toJson? = value.toJson?
  | .number n => by rw [unsigned_number, toJson?, toJson?, JsonNumber.ofDouble?_unsignedZero]
  | .list items => by rw [unsigned_list, toJson?, toJson?, toJsonItems_unsigned items]
  | .map entries => by rw [unsigned_map, toJson?, toJson?, toJsonEntries_unsigned entries]
  | .undefined | .null | .bool _ | .string _ | .callable _ => rfl

theorem toJsonItems_unsigned : (items : List Value) →
    toJsonItems (items.map unsigned) = toJsonItems items
  | [] => rfl
  | item :: rest => by
      rw [List.map_cons, toJsonItems, toJsonItems, toJson?_unsigned item, toJsonItems_unsigned rest]

theorem toJsonEntries_unsigned : (entries : List (String × Value)) →
    toJsonEntries (entries.map fun entry => (entry.1, entry.2.unsigned)) = toJsonEntries entries
  | [] => rfl
  | (key, value) :: rest => by
      rw [List.map_cons, toJsonEntries, toJsonEntries, toJson?_unsigned value,
        toJsonEntries_unsigned rest]
end

/-- **Both zeros are written alike.** -/
theorem serialize_unsigned (value : Value) : value.unsigned.serialize = value.serialize := by
  rw [serialize, serialize, toJson?_unsigned]

/-! ## Values that were decoded -/

mutual
/-- A document has a place in JSON at any depth and its numbers are finite, so that the signs of
zeros are all that a value loses. -/
theorem norm_ofJson : (json : Json) → json.FiniteNumbers →
    (ofJson json).norm = (ofJson json).unsigned
  | .null, _ | .bool _, _ | .string _, _ => rfl
  | .number n, finite => by
      obtain ⟨negative, m, double⟩ := finite
      rw [ofJson, double]
      rfl
  | .list items, finite => congrArg list (normItems_ofJson items finite)
  | .object entries, finite => congrArg map (normEntries_ofJson entries finite)

theorem normItems_ofJson : (items : List Json) → Json.FiniteItems items →
    normItems (ofJsonItems items) = mapItemNumbers .unsignedZero (ofJsonItems items)
  | [], _ => rfl
  | item :: rest, finite => by
      rw [ofJsonItems, normItems, isUnwritten_ofJson item, norm_ofJson item finite.1,
        normItems_ofJson rest finite.2]
      rfl

theorem normEntries_ofJson : (entries : List (String × Json)) → Json.FiniteEntries entries →
    normEntries (ofJsonEntries entries) = mapEntryNumbers .unsignedZero (ofJsonEntries entries)
  | [], _ => rfl
  | (key, value) :: rest, finite => by
      rw [ofJsonEntries, normEntries, isUnwritten_ofJson value, norm_ofJson value finite.1,
        normEntries_ofJson rest finite.2]
      rfl
end

theorem norm_of_decoded {text : String} {value : Value} (decoded : ofJsonText? text = some value) :
    value.norm = value.unsigned := by
  obtain ⟨json, read, rfl⟩ := Option.map_eq_some_iff.mp decoded
  exact norm_ofJson json (Json.fits_of_ofChars? read).finite

/-- **A value that was decoded comes back with its numbers reread** when it is written and decoded
again. -/
theorem decode_reread {text : String} {value : Value} (decoded : ofJsonText? text = some value) :
    ofJsonText? value.serialize = some value.reread := by
  rw [decode_of_decoded decoded, norm_of_decoded decoded, reread_unsigned]

/-- **Values that were decoded and are written alike** differ in the signs of zeros only. -/
theorem unsigned_eq_of_serialize_eq {s t : String} {a b : Value} (decodedA : ofJsonText? s = some a)
    (decodedB : ofJsonText? t = some b) (alike : a.serialize = b.serialize) :
    a.unsigned = b.unsigned := by
  rw [← norm_of_decoded decodedA, ← norm_of_decoded decodedB]
  exact norm_eq_of_serialize_eq (isUnwritten_of_decoded decodedA) (isUnwritten_of_decoded decodedB)
    (distinct_of_decoded decodedA) (distinct_of_decoded decodedB) alike

end Value

end PathQuery
