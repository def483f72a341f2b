import PathQuery.Proofs.Double.WholeNumbers
import PathQuery.Proofs.Value.NumberTexts
import PathQuery.Value.Json

/-!
# The text of a number in a document

A `Value.Context` is a value with one place left open, inside lists and maps. What is written of a
value in that place is the text of the value, with a text before it and one behind it that do not
depend on it (`Value.Context.exists_around`). A finite number is written as its text, however the
document stores it, on its own and in every context (`Value.serialize_number`).
-/

set_option autoImplicit false

namespace PathQuery

namespace Json

/-! ## Around one document -/

/-- The text of a list has the text of an item in its place. -/
theorem exists_around_item (items items' : List Json) : ∃ front back : List Char, ∀ json : Json,
    itemChars (items ++ json :: items') = front ++ (json.chars ++ back) := by
  induction items with
  | nil =>
      cases items' with
      | nil =>
          refine ⟨[], [], fun json => ?_⟩
          rw [List.nil_append, List.nil_append, List.append_nil, itemChars]
      | cons next rest => exact ⟨[], ',' :: itemChars (next :: rest), fun json => rfl⟩
  | cons item rest ih =>
      obtain ⟨front, back, around⟩ := ih
      refine ⟨item.chars ++ ',' :: front, back, fun json => ?_⟩
      have first : itemChars (item :: (rest ++ json :: items')) =
          item.chars ++ ',' :: itemChars (rest ++ json :: items') := by
        cases rest <;> rfl
      rw [List.cons_append, first, around, List.append_assoc, List.cons_append]

/-- The text of an object has the text of a value in its place. -/
theorem exists_around_entry (entries : List (String × Json)) (key : String)
    (entries' : List (String × Json)) : ∃ front back : List Char, ∀ json : Json,
    entryChars (entries ++ (key, json) :: entries') = front ++ (json.chars ++ back) := by
  induction entries with
  | nil =>
      cases entries' with
      | nil =>
          refine ⟨quote key ++ [':'], [], fun json => ?_⟩
          rw [List.nil_append, List.append_nil, entryChars, List.append_assoc]
          rfl
      | cons next rest =>
          refine ⟨quote key ++ [':'], ',' :: entryChars (next :: rest), fun json => ?_⟩
          rw [List.nil_append, entryChars, List.append_assoc]
          · rfl
          · exact List.cons_ne_nil _ _
  | cons entry rest ih =>
      obtain ⟨front, back, around⟩ := ih
      obtain ⟨name, other⟩ := entry
      refine ⟨quote name ++ ':' :: (other.chars ++ ',' :: front), back, fun json => ?_⟩
      have first : entryChars ((name, other) :: (rest ++ (key, json) :: entries')) = quote name ++
          ':' :: (other.chars ++ ',' :: entryChars (rest ++ (key, json) :: entries')) := by
        cases rest <;> rfl
      rw [List.cons_append, first, around]
      simp only [List.append_assoc, List.cons_append]

end Json

namespace Value

theorem toJsonItems_append (items items' : List Value) :
    toJsonItems (items ++ items') = toJsonItems items ++ toJsonItems items' := by
  induction items with
  | nil => rfl
  | cons item rest ih => rw [List.cons_append, toJsonItems, toJsonItems, ih, List.cons_append]

theorem toJsonEntries_append (entries entries' : List (String × Value)) :
    toJsonEntries (entries ++ entries') = toJsonEntries entries ++ toJsonEntries entries' := by
  induction entries with
  | nil => rfl
  | cons entry rest ih =>
      obtain ⟨key, value⟩ := entry
      rw [List.cons_append, toJsonEntries, toJsonEntries, ih]
      split <;> rfl

/-! ## Contexts -/

/-- A value with one place left open. -/
inductive Context where
  | hole
  | item (before : List Value) (inner : Context) (after : List Value)
  | entry (before : List (String × Value)) (key : String) (inner : Context)
      (after : List (String × Value))

/-- Puts a value in the open place. -/
def Context.fill (value : Value) : Context → Value
  | hole => value
  | item before inner after => list (before ++ inner.fill value :: after)
  | entry before key inner after => map (before ++ (key, inner.fill value) :: after)

/-- What is written of a value in the open place is the text of the value. -/
theorem Context.exists_around (context : Context) : ∃ front back : List Char,
    ∀ (value : Value) (json : Json), value.toJson? = some json →
      ∃ document, (context.fill value).toJson? = some document ∧
        document.chars = front ++ (json.chars ++ back) := by
  induction context with
  | hole =>
      refine ⟨[], [], fun value json written => ⟨json, written, ?_⟩⟩
      rw [List.nil_append, List.append_nil]
  | item before inner after ih =>
      obtain ⟨front, back, inside⟩ := ih
      obtain ⟨front', back', around⟩ :=
        Json.exists_around_item (toJsonItems before) (toJsonItems after)
      refine ⟨'[' :: (front' ++ front), back ++ (back' ++ [']']), fun value json written => ?_⟩
      obtain ⟨document, found, text⟩ := inside value json written
      refine ⟨.list (toJsonItems before ++ document :: toJsonItems after), ?_, ?_⟩
      · rw [fill, toJson?, toJsonItems_append, toJsonItems, found, Option.getD_some]
      · rw [Json.chars, around, text]
        simp only [List.append_assoc, List.cons_append]
  | entry before key inner after ih =>
      obtain ⟨front, back, inside⟩ := ih
      obtain ⟨front', back', around⟩ :=
        Json.exists_around_entry (toJsonEntries before) key (toJsonEntries after)
      refine ⟨'\x7b' :: (front' ++ front), back ++ (back' ++ ['\x7d']),
        fun value json written => ?_⟩
      obtain ⟨document, found, text⟩ := inside value json written
      refine ⟨.object (toJsonEntries before ++ (key, document) :: toJsonEntries after), ?_, ?_⟩
      · rw [fill, toJson?, toJsonEntries_append, toJsonEntries, found]
      · rw [Json.chars, around, text]
        simp only [List.append_assoc, List.cons_append]

/-! ## Numbers -/

/-- A number is stored as an integer if it is whole and small enough. -/
theorem isInteger_iff {negative : Bool} {m : Magnitude} {stored : JsonNumber}
    (found : JsonNumber.ofDouble? (.finite negative m) = some stored) :
    (∃ i, stored = .integer i) ↔ ∃ k ≤ JsonNumber.greatestInteger, m.toNat? = some k := by
  rcases JsonNumber.ofDouble?_finite negative m with ⟨k, small, units, written⟩ | ⟨large, written⟩
  · cases found.symm.trans written
    exact iff_of_true ⟨_, rfl⟩ ⟨k, small, Magnitude.toNat?_eq_some_iff.mpr units⟩
  · cases found.symm.trans written
    refine iff_of_false nofun ?_
    rintro ⟨k, small, whole⟩
    exact Nat.not_lt_of_le small (large k whole)

/-- A finite number is stored as a number that is equal to it and has its text. -/
theorem exists_stored (negative : Bool) (m : Magnitude) :
    ∃ stored, JsonNumber.ofDouble? (.finite negative m) = some stored ∧
      stored.toDouble.equal (.finite negative m) = true ∧
      stored.chars = (Double.finite negative m).chars ∧
      (number (.finite negative m)).toJson? = some (.number stored) := by
  obtain ⟨stored, found⟩ : ∃ stored, JsonNumber.ofDouble? (.finite negative m) = some stored := by
    rcases JsonNumber.ofDouble?_finite negative m with ⟨k, -, -, written⟩ | ⟨-, written⟩
    · exact ⟨_, written⟩
    · exact ⟨_, written⟩
  refine ⟨stored, found, ?_, JsonNumber.chars_of_ofDouble? found, ?_⟩
  · rw [JsonNumber.toDouble_of_ofDouble? found, Double.equal_comm]
    exact Double.equal_of_position_eq nofun (Double.position_unsignedZero _).symm
  · rw [toJson?, found]
    rfl

/-- **A finite number is written as its text.** A document stores a whole number as an integer if it
is less than `2 ^ 53` away from zero, and every other number as a double, and has the same text for
it in both cases. That text stands in the open place of every context, and nothing around it depends
on the number. -/
theorem serialize_number :
    (∀ (negative : Bool) (m : Magnitude),
      (number (.finite negative m)).serialize = (Double.finite negative m).text ∧
      ∃ stored, JsonNumber.ofDouble? (.finite negative m) = some stored ∧
        stored.toDouble.equal (.finite negative m) = true ∧
        ((∃ i, stored = .integer i) ↔ ∃ k ≤ JsonNumber.greatestInteger, m.toNat? = some k) ∧
        String.ofList stored.chars = (Double.finite negative m).text) ∧
    ∀ context : Context, ∃ front back : String, ∀ (negative : Bool) (m : Magnitude),
      (context.fill (number (.finite negative m))).serialize =
        front ++ (Double.finite negative m).text ++ back := by
  constructor
  · intro negative m
    obtain ⟨stored, found, same, chars, written⟩ := exists_stored negative m
    refine ⟨?_, stored, found, same, isInteger_iff found, congrArg String.ofList chars⟩
    rw [serialize, written]
    exact congrArg String.ofList chars
  · intro context
    obtain ⟨front, back, around⟩ := context.exists_around
    refine ⟨String.ofList front, String.ofList back, fun negative m => ?_⟩
    obtain ⟨stored, -, -, chars, written⟩ := exists_stored negative m
    obtain ⟨document, found, text⟩ := around _ _ written
    rw [Json.chars, chars] at text
    rw [serialize, found, Option.map_some, Option.getD_some, Json.text, text, Double.text,
      String.append_assoc, String.ofList_append, String.ofList_append]

end Value
end PathQuery
