import PathQuery.Proofs.Json.Reading
import PathQuery.Proofs.Json.Unambiguous
import PathQuery.Proofs.Value.Rereading
import PathQuery.Value.Json

/-!
# Decoding undoes serialization

What serialization loses is exactly what `Value.norm` loses: undefined and callables, which have no
place in JSON, numbers that are not finite, and the sign of zero. A value that has a place in JSON
is written as a document whose numbers are canonical, whose keys are distinct, and which is no
deeper than the value (`Value.Writes`). Such a document is read back with its numbers reread, and
the numbers in it stand for the doubles they were written from. So decoding the text of a value
gives the value, normalized and with its numbers reread (`Value.ofJsonText?_serialize`). Values that
were decoded themselves need no further condition (`Value.decode_of_decoded`).

The decoder scales numbers by powers of ten and may miss the double that was written
(`Value.ofJsonText?_serialize_ne`), so the value comes back as it was, normalized, only if its
numbers do. Its text tells it in any case (`Value.norm_eq_of_serialize_eq`).
-/

set_option autoImplicit false

namespace PathQuery
namespace Value

/-! ## Normal values -/

/-- The value has no place in JSON. -/
def isUnwritten : Value → Bool
  | undefined | callable _ => true
  | _ => false

/-- What is left of a number: null if it is not finite, and zero for minus zero. -/
def normNumber : Double → Value
  | .finite negative m => number (Double.finite negative m).unsignedZero
  | _ => null

mutual
/-- What is left of a value when it is written and read again. -/
def norm : Value → Value
  | number n => normNumber n
  | list items => list (normItems items)
  | map entries => map (normEntries entries)
  | value => value

/-- Items that have no place in JSON are null. -/
def normItems : List Value → List Value
  | [] => []
  | item :: rest => (if item.isUnwritten then null else item.norm) :: normItems rest

/-- Entries that have no place in JSON are left out. -/
def normEntries : List (String × Value) → List (String × Value)
  | [] => []
  | (key, value) :: rest =>
      if value.isUnwritten then normEntries rest else (key, value.norm) :: normEntries rest
end

mutual
/-- How many lists and maps stand inside each other. -/
def depth : Value → Nat
  | list items => itemsDepth items + 1
  | map entries => entriesDepth entries + 1
  | _ => 0

def itemsDepth : List Value → Nat
  | [] => 0
  | item :: rest => max item.depth (itemsDepth rest)

def entriesDepth : List (String × Value) → Nat
  | [] => 0
  | (_, value) :: rest => max value.depth (entriesDepth rest)
end

/-! ## The document of a value -/

/-- The document has canonical numbers and distinct keys, as the reader wants it, is no deeper than
the value, and stands for the value, normalized. -/
structure Writes (value : Value) (json : Json) : Prop where
  canonical : json.Canonical
  distinct : json.Distinct
  depth_le : json.depth ≤ value.depth
  means : ofJson json = value.norm

theorem writes_number (n : Double) :
    (number n).Writes (((JsonNumber.ofDouble? n).map .number).getD .null) := by
  cases found : JsonNumber.ofDouble? n with
  | none =>
      refine ⟨trivial, trivial, Nat.zero_le _, ?_⟩
      cases n with
      | nan => rfl
      | infinite negative => rfl
      | finite negative m =>
          rcases JsonNumber.ofDouble?_finite negative m with ⟨k, -, -, some⟩ | ⟨-, some⟩
          · exact absurd (found.symm.trans some) nofun
          · exact absurd (found.symm.trans some) nofun
  | some written =>
      refine ⟨JsonNumber.canonical_of_ofDouble? found, trivial, Nat.zero_le _, ?_⟩
      have double := JsonNumber.toDouble_of_ofDouble? found
      cases n with
      | nan => exact absurd found nofun
      | infinite negative => exact absurd found nofun
      | finite negative m => exact congrArg number double

/-- Leaving entries out does not make a key appear twice. -/
theorem keys_toJsonEntries_sublist (entries : List (String × Value)) :
    (Entries.keys (toJsonEntries entries)).Sublist (Entries.keys entries) := by
  induction entries with
  | nil => exact List.Sublist.refl _
  | cons entry rest inductionHypothesis =>
      obtain ⟨key, value⟩ := entry
      cases written : value.toJson? with
      | none =>
          rw [toJsonEntries, written]
          exact inductionHypothesis.cons key
      | some json =>
          rw [toJsonEntries, written]
          exact inductionHypothesis.cons_cons key

theorem toJson?_of_isUnwritten {value : Value} (unwritten : value.isUnwritten = true) :
    value.toJson? = none := by
  cases value with
  | undefined => rfl
  | callable c => rfl
  | _ => exact absurd unwritten nofun

mutual
/-- A value that has a place in JSON is written. -/
theorem exists_writes : (value : Value) → value.isUnwritten = false → value.Distinct →
    ∃ json, value.toJson? = some json ∧ value.Writes json
  | .undefined, written, _ => absurd written (by decide)
  | .callable c, written, _ => absurd written (by simp [isUnwritten])
  | .null, _, _ => ⟨.null, rfl, trivial, trivial, Nat.le_refl _, rfl⟩
  | .bool b, _, _ => ⟨.bool b, rfl, trivial, trivial, Nat.le_refl _, rfl⟩
  | .number n, _, _ => ⟨_, rfl, writes_number n⟩
  | .string s, _, _ => ⟨.string s, rfl, trivial, trivial, Nat.le_refl _, rfl⟩
  | .list items, _, distinct => by
      obtain ⟨canonical, distinct', depth_le, means⟩ := writes_items items distinct
      exact ⟨_, rfl, canonical, distinct', Nat.succ_le_succ depth_le, congrArg list means⟩
  | .map entries, _, distinct => by
      obtain ⟨canonical, distinct', depth_le, means⟩ := writes_entries entries distinct.2
      have nodup := (keys_toJsonEntries_sublist entries).nodup distinct.1
      exact ⟨_, rfl, canonical, ⟨nodup, distinct'⟩, Nat.succ_le_succ depth_le, congrArg map means⟩

theorem writes_items : (items : List Value) → DistinctItems items →
    Json.CanonicalItems (toJsonItems items) ∧ Json.DistinctItems (toJsonItems items) ∧
      Json.itemsDepth (toJsonItems items) ≤ itemsDepth items ∧
      ofJsonItems (toJsonItems items) = normItems items
  | [], _ => ⟨trivial, trivial, Nat.le_refl _, rfl⟩
  | item :: rest, distinct => by
      obtain ⟨canonical, distinct', depth_le, means⟩ := writes_items rest distinct.2
      cases unwritten : item.isUnwritten with
      | true =>
          rw [toJsonItems, normItems, unwritten, toJson?_of_isUnwritten unwritten]
          exact ⟨⟨trivial, canonical⟩, ⟨trivial, distinct'⟩, Nat.max_le.mpr ⟨Nat.zero_le _,
            Nat.le_trans depth_le (Nat.le_max_right ..)⟩, congrArg (null :: ·) means⟩
      | false =>
          obtain ⟨json, written, document⟩ := exists_writes item unwritten distinct.1
          rw [toJsonItems, normItems, unwritten, written]
          refine ⟨⟨document.canonical, canonical⟩, ⟨document.distinct, distinct'⟩, ?_, ?_⟩
          · exact Nat.max_le.mpr ⟨Nat.le_trans document.depth_le (Nat.le_max_left ..),
              Nat.le_trans depth_le (Nat.le_max_right ..)⟩
          · exact congr (congrArg List.cons document.means) means

theorem writes_entries : (entries : List (String × Value)) → DistinctEntries entries →
    Json.CanonicalEntries (toJsonEntries entries) ∧ Json.DistinctEntries (toJsonEntries entries) ∧
      Json.entriesDepth (toJsonEntries entries) ≤ entriesDepth entries ∧
      ofJsonEntries (toJsonEntries entries) = normEntries entries
  | [], _ => ⟨trivial, trivial, Nat.le_refl _, rfl⟩
  | (key, value) :: rest, distinct => by
      obtain ⟨canonical, distinct', depth_le, means⟩ := writes_entries rest distinct.2
      cases unwritten : value.isUnwritten with
      | true =>
          rw [toJsonEntries, normEntries, unwritten, toJson?_of_isUnwritten unwritten]
          exact ⟨canonical, distinct', Nat.le_trans depth_le (Nat.le_max_right ..), means⟩
      | false =>
          obtain ⟨json, written, document⟩ := exists_writes value unwritten distinct.1
          rw [toJsonEntries, normEntries, unwritten, written]
          refine ⟨⟨document.canonical, canonical⟩, ⟨document.distinct, distinct'⟩, ?_, ?_⟩
          · exact Nat.max_le.mpr ⟨Nat.le_trans document.depth_le (Nat.le_max_left ..),
              Nat.le_trans depth_le (Nat.le_max_right ..)⟩
          · exact congr (congrArg List.cons (congrArg (Prod.mk key) document.means)) means
end

/-! ## Numbers of a document that is reread -/

mutual
/-- A document with its numbers reread stands for the value with its numbers reread. -/
theorem ofJson_reread : (json : Json) → json.Canonical →
    ofJson json.reread = (ofJson json).reread
  | .null, _ | .bool _, _ | .string _, _ => rfl
  | .number _, canonical =>
      congrArg number (Double.reread_of_ofDouble? (JsonNumber.ofDouble?_toDouble canonical)).symm
  | .list items, canonical => congrArg list (ofJsonItems_reread items canonical)
  | .object entries, canonical => congrArg map (ofJsonEntries_reread entries canonical)

theorem ofJsonItems_reread : (items : List Json) → Json.CanonicalItems items →
    ofJsonItems (Json.rereadItems items) = mapItemNumbers .reread (ofJsonItems items)
  | [], _ => rfl
  | item :: rest, canonical => congr (congrArg List.cons (ofJson_reread item canonical.1))
      (ofJsonItems_reread rest canonical.2)

theorem ofJsonEntries_reread : (entries : List (String × Json)) → Json.CanonicalEntries entries →
    ofJsonEntries (Json.rereadEntries entries) = mapEntryNumbers .reread (ofJsonEntries entries)
  | [], _ => rfl
  | (key, value) :: rest, canonical =>
      congr (congrArg List.cons (congrArg (Prod.mk key) (ofJson_reread value canonical.1)))
        (ofJsonEntries_reread rest canonical.2)
end

mutual
/-- There are no signs of zeros in what is left of a value. -/
theorem unsigned_norm : (value : Value) → value.norm.unsigned = value.norm
  | .number .nan | .number (.infinite _) => rfl
  | .number (.finite negative m) =>
      congrArg number (Double.unsignedZero_unsignedZero (.finite negative m))
  | .list items => congrArg list (unsigned_normItems items)
  | .map entries => congrArg map (unsigned_normEntries entries)
  | .undefined | .null | .bool _ | .string _ | .callable _ => rfl

theorem unsigned_normItems : (items : List Value) →
    mapItemNumbers .unsignedZero (normItems items) = normItems items
  | [] => rfl
  | item :: rest => by
      rw [normItems, mapItemNumbers, unsigned_normItems rest]
      split
      · rfl
      · exact congrArg (· :: normItems rest) (unsigned_norm item)

theorem unsigned_normEntries : (entries : List (String × Value)) →
    mapEntryNumbers .unsignedZero (normEntries entries) = normEntries entries
  | [] => rfl
  | (key, value) :: rest => by
      rw [normEntries]
      split
      · exact unsigned_normEntries rest
      · rw [mapEntryNumbers, unsigned_normEntries rest]
        exact congrArg (fun kept => (key, kept) :: normEntries rest) (unsigned_norm value)
end

/-! ## Reading it back -/

/-- The text of a value that has a place in JSON is the text of a document that is read back, with
its numbers reread. -/
theorem exists_serialize {value : Value} (written : value.isUnwritten = false)
    (distinct : value.Distinct) (shallow : value.depth ≤ Json.Reader.greatestDepth) :
    ∃ json : Json, value.serialize = json.text ∧
      Json.ofText? value.serialize = some json.reread ∧ value.Writes json := by
  obtain ⟨json, found, document⟩ := exists_writes value written distinct
  have text : value.serialize = json.text := by rw [serialize, found]; rfl
  refine ⟨json, text, ?_, document⟩
  rw [text, Json.ofText?, Json.text, String.toList_ofList]
  exact Json.ofChars?_chars document.canonical document.distinct
    (Nat.le_trans document.depth_le shallow)

/-- A value that has a place in JSON comes back normalized, its numbers reread. -/
theorem decode_of_written {value : Value} (written : value.isUnwritten = false)
    (distinct : value.Distinct) (shallow : value.depth ≤ Json.Reader.greatestDepth) :
    ofJsonText? value.serialize = some value.norm.reread := by
  obtain ⟨json, -, read, document⟩ := exists_serialize written distinct shallow
  rw [ofJsonText?, read, Option.map_some, ofJson_reread json document.canonical, document.means]

/-- **Decoding undoes serialization, up to the last digits of numbers.** Every value that has a
place in JSON, with lists and maps no deeper than the decoder allows, comes back normalized and with
its numbers reread. So it comes back as what is left of it exactly if that reads back, as it does
where all numbers are plain. A value that has no place in JSON is written as a text that the decoder
rejects. -/
theorem ofJsonText?_serialize (value : Value) (distinct : value.Distinct)
    (shallow : value.depth ≤ 127) :
    (value.isUnwritten = false →
      ofJsonText? value.serialize = some value.norm.reread ∧
      (ofJsonText? value.serialize = some value.norm ↔ value.norm.ReadsBack) ∧
      ((∀ n ∈ value.norm.numbers, n.isPlain = true) →
        ofJsonText? value.serialize = some value.norm)) ∧
    (value.isUnwritten = true →
      value.serialize = "undefined" ∧ ofJsonText? value.serialize = none) := by
  refine ⟨fun written => ?_, fun unwritten => ?_⟩
  · have decoded := decode_of_written written distinct shallow
    have itself : ofJsonText? value.serialize = some value.norm ↔ value.norm.ReadsBack := by
      rw [decoded, Option.some.injEq, ← reread_eq_unsigned_iff, unsigned_norm]
    exact ⟨decoded, itself, fun plain => itself.mpr (readsBack_of_isPlain plain)⟩
  · have text : value.serialize = "undefined" := by
      rw [serialize, toJson?_of_isUnwritten unwritten]
      rfl
    have rejected : ofJsonText? "undefined" = none := by decide
    exact ⟨text, by rw [text, rejected]⟩

/-- A map with all that is lost, and a number whose last digits have to come back. -/
theorem ofJsonText?_serialize_map :
    let value := map [("items", list [undefined, number .nan, number (.finite true .zero)]),
      ("call", callable ⟨0, "now"⟩), ("third", number (.ofBits 0x3fd5555555555555)),
      ("text", string "\"\\\n(\x00)")]
    value.Distinct ∧ value.depth ≤ 127 ∧ (∀ n ∈ value.norm.numbers, n.isPlain = true) ∧
      ofJsonText? value.serialize = some (map [("items", list [null, null, number .zero]),
        ("third", number (.ofBits 0x3fd5555555555555)), ("text", string "\"\\\n(\x00)")]) := by
  intro value
  have distinct : value.Distinct := by
    refine ⟨by decide, ?_⟩
    exact ⟨⟨trivial, trivial, trivial, trivial⟩, trivial, trivial, trivial, trivial⟩
  have shallow : value.depth ≤ 127 := by decide
  have plain : ∀ n ∈ value.norm.numbers, n.isPlain = true := by decide +kernel
  obtain ⟨-, -, back⟩ := (ofJsonText?_serialize value distinct shallow).1 rfl
  exact ⟨distinct, shallow, plain, back plain⟩

/-- The number 110395.43015404869 is written and comes back as another. -/
theorem ofJsonText?_serialize_ne :
    let value := number (.ofBits 0x40faf3b6e1e93636)
    value.isUnwritten = false ∧ value.Distinct ∧ value.depth ≤ 127 ∧
      ofJsonText? value.serialize ≠ some value.norm := by
  intro value
  have distinct : value.Distinct := trivial
  have shallow : value.depth ≤ 127 := Nat.zero_le _
  refine ⟨rfl, distinct, shallow, fun same => ?_⟩
  rw [decode_of_written rfl distinct shallow, Option.some.injEq, ← unsigned_norm,
    reread_unsigned, reread_eq_unsigned_iff] at same
  have kept : value.norm.numbers = [.ofBits 0x40faf3b6e1e93636] := by decide +kernel
  exact Double.reread_ne (same _ (kept ▸ List.mem_singleton_self _))

/-- **Values that are written alike are the same**, normalized. -/
theorem norm_eq_of_serialize_eq {a b : Value} (writtenA : a.isUnwritten = false)
    (writtenB : b.isUnwritten = false) (distinctA : a.Distinct) (distinctB : b.Distinct)
    (alike : a.serialize = b.serialize) : a.norm = b.norm := by
  obtain ⟨jsonA, foundA, documentA⟩ := exists_writes a writtenA distinctA
  obtain ⟨jsonB, foundB, documentB⟩ := exists_writes b writtenB distinctB
  rw [serialize, serialize, foundA, foundB] at alike
  have same : jsonA = jsonB := Json.eq_of_chars_eq documentA.canonical documentB.canonical
    (String.ofList_inj.mp alike)
  rw [← documentA.means, ← documentB.means, same]

/-! ## Values that were decoded -/

theorem keys_ofJsonEntries (entries : List (String × Json)) :
    Entries.keys (ofJsonEntries entries) = Entries.keys entries := by
  induction entries with
  | nil => rfl
  | cons entry rest inductionHypothesis => exact congrArg (entry.1 :: ·) inductionHypothesis

mutual
theorem distinct_ofJson : (json : Json) → json.Distinct → (ofJson json).Distinct
  | .null, _ | .bool _, _ | .number _, _ | .string _, _ => trivial
  | .list items, distinct => distinctItems_ofJson items distinct
  | .object entries, distinct => by
      refine ⟨?_, distinctEntries_ofJson entries distinct.2⟩
      rw [keys_ofJsonEntries]
      exact distinct.1

theorem distinctItems_ofJson : (items : List Json) → Json.DistinctItems items →
    DistinctItems (ofJsonItems items)
  | [], _ => trivial
  | item :: rest, distinct =>
      ⟨distinct_ofJson item distinct.1, distinctItems_ofJson rest distinct.2⟩

theorem distinctEntries_ofJson : (entries : List (String × Json)) → Json.DistinctEntries entries →
    DistinctEntries (ofJsonEntries entries)
  | [], _ => trivial
  | (_, value) :: rest, distinct =>
      ⟨distinct_ofJson value distinct.1, distinctEntries_ofJson rest distinct.2⟩
end

mutual
theorem depth_ofJson : (json : Json) → (ofJson json).depth = json.depth
  | .null | .bool _ | .number _ | .string _ => rfl
  | .list items => congrArg (· + 1) (itemsDepth_ofJson items)
  | .object entries => congrArg (· + 1) (entriesDepth_ofJson entries)

theorem itemsDepth_ofJson : (items : List Json) →
    itemsDepth (ofJsonItems items) = Json.itemsDepth items
  | [] => rfl
  | item :: rest => congr (congrArg max (depth_ofJson item)) (itemsDepth_ofJson rest)

theorem entriesDepth_ofJson : (entries : List (String × Json)) →
    entriesDepth (ofJsonEntries entries) = Json.entriesDepth entries
  | [] => rfl
  | (_, value) :: rest => congr (congrArg max (depth_ofJson value)) (entriesDepth_ofJson rest)
end

theorem isUnwritten_ofJson (json : Json) : (ofJson json).isUnwritten = false := by
  cases json <;> rfl

theorem isUnwritten_of_decoded {text : String} {value : Value}
    (decoded : ofJsonText? text = some value) : value.isUnwritten = false := by
  obtain ⟨json, -, rfl⟩ := Option.map_eq_some_iff.mp decoded
  exact isUnwritten_ofJson json

theorem distinct_of_decoded {text : String} {value : Value}
    (decoded : ofJsonText? text = some value) : value.Distinct := by
  obtain ⟨json, read, rfl⟩ := Option.map_eq_some_iff.mp decoded
  exact distinct_ofJson json (Json.fits_of_ofChars? read).distinct

theorem depth_le_of_decoded {text : String} {value : Value}
    (decoded : ofJsonText? text = some value) : value.depth ≤ Json.Reader.greatestDepth := by
  obtain ⟨json, read, rfl⟩ := Option.map_eq_some_iff.mp decoded
  rw [depth_ofJson]
  exact (Json.fits_of_ofChars? read).depth_le

/-- **A value that was decoded can be written and decoded again.** -/
theorem decode_of_decoded {text : String} {value : Value}
    (decoded : ofJsonText? text = some value) :
    ofJsonText? value.serialize = some value.norm.reread :=
  decode_of_written (isUnwritten_of_decoded decoded) (distinct_of_decoded decoded)
    (depth_le_of_decoded decoded)

end Value
end PathQuery
