import PathQuery.Proofs.Json.Rereading
import PathQuery.Value.Basic

/-!
# The numbers in a value

`Value.mapNumbers` replaces the numbers in a value, at any depth, and keeps everything else. Two
replacements give the same exactly if they agree on every number in the value
(`Value.mapNumbers_eq_iff`), and one after the other they are one replacement
(`Value.mapNumbers_mapNumbers`).

Writing a value and reading it again does to each of its numbers what writing and reading the number
alone does (`Double.reread`, `Value.reread`). A value reads back if this keeps all its numbers
(`Value.ReadsBack`), as it does if they are plain.
-/

set_option autoImplicit false

namespace PathQuery
namespace Value

mutual
/-- The numbers in the value, in the order in which they are written. -/
def numbers : Value → List Double
  | number n => [n]
  | list items => itemNumbers items
  | map entries => entryNumbers entries
  | _ => []

def itemNumbers : List Value → List Double
  | [] => []
  | item :: rest => item.numbers ++ itemNumbers rest

def entryNumbers : List (String × Value) → List Double
  | [] => []
  | (_, value) :: rest => value.numbers ++ entryNumbers rest
end

mutual
/-- The value with its numbers replaced. -/
def mapNumbers (f : Double → Double) : Value → Value
  | number n => number (f n)
  | list items => list (mapItemNumbers f items)
  | map entries => map (mapEntryNumbers f entries)
  | value => value

def mapItemNumbers (f : Double → Double) : List Value → List Value
  | [] => []
  | item :: rest => item.mapNumbers f :: mapItemNumbers f rest

def mapEntryNumbers (f : Double → Double) : List (String × Value) → List (String × Value)
  | [] => []
  | (key, value) :: rest => (key, value.mapNumbers f) :: mapEntryNumbers f rest
end

section Replacement

variable (f g : Double → Double)

theorem mapItemNumbers_eq_map (items : List Value) :
    mapItemNumbers f items = items.map (mapNumbers f) := by
  induction items with
  | nil => rfl
  | cons item rest ih => rw [mapItemNumbers, ih, List.map_cons]

theorem mapEntryNumbers_eq_map (entries : List (String × Value)) :
    mapEntryNumbers f entries = entries.map fun entry => (entry.1, entry.2.mapNumbers f) := by
  induction entries with
  | nil => rfl
  | cons entry rest ih => rw [mapEntryNumbers, ih, List.map_cons]

mutual
/-- **Two replacements give the same exactly if they agree on all numbers in the value.** -/
theorem mapNumbers_eq_iff : (value : Value) →
    (value.mapNumbers f = value.mapNumbers g ↔ ∀ n ∈ value.numbers, f n = g n)
  | .number n => by rw [mapNumbers, mapNumbers, numbers, number.injEq, List.forall_mem_singleton]
  | .list items => by
      rw [mapNumbers, mapNumbers, numbers, list.injEq, mapItemNumbers_eq_iff items]
  | .map entries => by
      rw [mapNumbers, mapNumbers, numbers, map.injEq, mapEntryNumbers_eq_iff entries]
  | .undefined | .null | .bool _ | .string _ | .callable _ =>
      ⟨fun _ => List.forall_mem_nil _, fun _ => rfl⟩

theorem mapItemNumbers_eq_iff : (items : List Value) →
    (mapItemNumbers f items = mapItemNumbers g items ↔ ∀ n ∈ itemNumbers items, f n = g n)
  | [] => ⟨fun _ => List.forall_mem_nil _, fun _ => rfl⟩
  | item :: rest => by
      rw [mapItemNumbers, mapItemNumbers, itemNumbers, List.cons.injEq, List.forall_mem_append,
        mapNumbers_eq_iff item, mapItemNumbers_eq_iff rest]

theorem mapEntryNumbers_eq_iff : (entries : List (String × Value)) →
    (mapEntryNumbers f entries = mapEntryNumbers g entries ↔
      ∀ n ∈ entryNumbers entries, f n = g n)
  | [] => ⟨fun _ => List.forall_mem_nil _, fun _ => rfl⟩
  | (key, value) :: rest => by
      rw [mapEntryNumbers, mapEntryNumbers, entryNumbers, List.cons.injEq, Prod.mk.injEq,
        List.forall_mem_append, mapNumbers_eq_iff value, mapEntryNumbers_eq_iff rest, eq_self,
        true_and]
end

mutual
theorem mapNumbers_mapNumbers : (value : Value) →
    (value.mapNumbers f).mapNumbers g = value.mapNumbers (g ∘ f)
  | .list items => congrArg list (mapItemNumbers_mapItemNumbers items)
  | .map entries => congrArg map (mapEntryNumbers_mapEntryNumbers entries)
  | .undefined | .null | .bool _ | .number _ | .string _ | .callable _ => rfl

theorem mapItemNumbers_mapItemNumbers : (items : List Value) →
    mapItemNumbers g (mapItemNumbers f items) = mapItemNumbers (g ∘ f) items
  | [] => rfl
  | item :: rest => by
      rw [mapItemNumbers, mapItemNumbers, mapItemNumbers, mapNumbers_mapNumbers item,
        mapItemNumbers_mapItemNumbers rest]

theorem mapEntryNumbers_mapEntryNumbers : (entries : List (String × Value)) →
    mapEntryNumbers g (mapEntryNumbers f entries) = mapEntryNumbers (g ∘ f) entries
  | [] => rfl
  | (key, value) :: rest => by
      rw [mapEntryNumbers, mapEntryNumbers, mapEntryNumbers, mapNumbers_mapNumbers value,
        mapEntryNumbers_mapEntryNumbers rest]
end

end Replacement

/-! ## Reading again -/

/-- The value with all its numbers reread. -/
def reread (value : Value) : Value := value.mapNumbers .reread

/-- Every number in the value is read from its text as itself, apart from the sign of zero. -/
def ReadsBack (value : Value) : Prop := ∀ n ∈ value.numbers, n.reread = n.unsignedZero

instance (value : Value) : Decidable value.ReadsBack :=
  inferInstanceAs (Decidable (∀ n ∈ value.numbers, n.reread = n.unsignedZero))

/-- **Values of plain numbers read back.** -/
theorem readsBack_of_isPlain {value : Value} (plain : ∀ n ∈ value.numbers, n.isPlain = true) :
    value.ReadsBack := fun n member => Double.reread_of_isPlain (plain n member)

/-! ## Signs of zeros -/

/-- The value with zero for minus zero, at any depth. -/
def unsigned (value : Value) : Value := value.mapNumbers .unsignedZero

@[simp] theorem unsigned_number (n : Double) : (number n).unsigned = number n.unsignedZero := rfl

@[simp] theorem unsigned_string (s : String) : (string s).unsigned = string s := rfl

@[simp] theorem unsigned_list (items : List Value) :
    (list items).unsigned = list (items.map unsigned) :=
  congrArg list (mapItemNumbers_eq_map _ items)

@[simp] theorem unsigned_map (entries : List (String × Value)) :
    (map entries).unsigned = map (entries.map fun entry => (entry.1, entry.2.unsigned)) :=
  congrArg map (mapEntryNumbers_eq_map _ entries)

/-- Without signs there is nothing to lose. -/
theorem unsigned_unsigned (value : Value) : value.unsigned.unsigned = value.unsigned := by
  rw [unsigned, unsigned, mapNumbers_mapNumbers, mapNumbers_eq_iff]
  exact fun n _ => n.unsignedZero_unsignedZero

/-- Both zeros are reread alike. -/
theorem reread_unsigned (value : Value) : value.unsigned.reread = value.reread := by
  rw [unsigned, reread, reread, mapNumbers_mapNumbers, mapNumbers_eq_iff]
  exact fun n _ => n.reread_unsignedZero

/-- **Reading a value again takes the signs of its zeros only**, exactly if it reads back. -/
theorem reread_eq_unsigned_iff (value : Value) :
    value.reread = value.unsigned ↔ value.ReadsBack :=
  mapNumbers_eq_iff _ _ value

/-- A value that does not read back differs in more than signs of zeros when it is reread. -/
theorem unsigned_reread_eq_iff (value : Value) :
    value.reread.unsigned = value.unsigned ↔ value.ReadsBack := by
  rw [reread, unsigned, unsigned, mapNumbers_mapNumbers, mapNumbers_eq_iff]
  exact forall₂_congr fun n _ => n.unsignedZero_reread_eq_iff

end Value
end PathQuery
