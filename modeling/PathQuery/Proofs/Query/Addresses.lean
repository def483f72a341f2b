import PathQuery.Proofs.Json.RoundTrip
import PathQuery.Proofs.Path.Composition
import PathQuery.Proofs.Path.Printing
import PathQuery.Proofs.Value.Indexing
import PathQuery.Query

/-!
# Addresses

A node inside a value is reached by keys of maps and by indices of lists. The keys on the way, and
the indices in digits, are the address of the node (`Value.Address`), as long as every key stands
for itself in a path (`PlainKey`). With separators between them they are a path that is read as
these keys and nothing else (`Path.ofText_intercalate`) and that leads to the node
(`Value.Address.resolve`). Only the last node on the way may be null or undefined, since nothing
lies inside these, so resolving never stops too early.
-/

set_option autoImplicit false

namespace PathQuery

open Grammar PathQuery.Path

/-! ## Keys that stand for themselves -/

/-- The key is not empty, no group can begin inside it, and no separator begins or lies inside
it. -/
structure PlainKey (key : String) : Prop where
  nonempty : key ≠ ""
  parenthesis : '(' ∉ key.toList
  unseparated : Unseparated key.toList
  colon : key.toList.getLast? ≠ some ':'

theorem plainKey_toString (i : Nat) : PlainKey (toString i) := by
  have digits := run_toDigits i
  rw [← toList_toString] at digits
  have other {c : Char} (member : c ∈ (toString i).toList) (noDigit : c.isDigit = false) : False :=
    Bool.false_ne_true (noDigit.symm.trans (digits.members c member))
  have colon : ':' ∉ (toString i).toList := fun member => other member (by decide)
  refine ⟨fun empty => digits.ne_nil (by rw [empty]; rfl), fun member => other member (by decide),
    ?_, fun last => colon (List.mem_of_getLast? last)⟩
  have apart := (unseparated_append_of_notMem colon []).mpr unseparated_nil
  rwa [List.append_nil] at apart

/-- The draft of a segment that only looks up a key. -/
def PlainKey.draft {key : String} (plain : PlainKey key) : SegmentDraft :=
  ⟨key, none, none, plain.nonempty, plain.parenthesis, plain.unseparated, plain.colon⟩

/-- **Keys that stand for themselves are read as they are**, with separators between them. -/
theorem Path.ofText_intercalate {keys : List String} (plain : ∀ key ∈ keys, PlainKey key) :
    Path.ofText ("::".intercalate keys) = .ok (keys.map .ofKey) := by
  let drafts := keys.pmap (fun _ => PlainKey.draft) plain
  have chars : drafts.map (·.chars) = keys.map String.toList := by
    rw [List.map_pmap, ← List.pmap_eq_map plain]
    exact List.pmap_congr_left keys fun key _ _ _ => List.append_nil key.toList
  have text : Path.text drafts = "::".intercalate keys := by
    rw [← String.toList_inj, Path.text, String.toList_ofList, chars, String.toList_intercalate]
    rfl
  have segments : drafts.map (·.segment) = keys.map .ofKey := by
    rw [List.map_pmap, ← List.pmap_eq_map plain]
    rfl
  rw [← text, ← segments]
  exact Path.ofText_text drafts

/-! ## Nodes -/

namespace Value

/-- The keys on the way from a value to a node inside it. The key of an item is its index in digits,
which is a machine word like every index in a list that fits into memory. -/
inductive Address : Value → List String → Value → Prop
  | here (node : Value) : Address node [] node
  | entry {entries : List (String × Value)} {key : String} {child node : Value}
      {keys : List String} (member : (key, child) ∈ entries) (plain : PlainKey key)
      (inside : Address child keys node) : Address (map entries) (key :: keys) node
  | item {items : List Value} {i : Nat} {child node : Value} {keys : List String}
      (word : i < UInt64.size) (place : items[i]? = some child)
      (inside : Address child keys node) : Address (list items) (toString i :: keys) node

theorem Address.plain {root node : Value} {keys : List String} (address : root.Address keys node) :
    ∀ key ∈ keys, PlainKey key := by
  induction address with
  | here node => exact nofun
  | entry _ plain _ ih => exact List.forall_mem_cons.mpr ⟨plain, ih⟩
  | @item _ i _ _ _ _ _ _ ih => exact List.forall_mem_cons.mpr ⟨plainKey_toString i, ih⟩

/-- Nothing lies inside null and undefined. -/
theorem Address.of_isNullish {root node : Value} {keys : List String}
    (nullish : root.isNullish = true) (address : root.Address keys node) :
    keys = [] ∧ node = root := by
  cases address with
  | here => exact ⟨rfl, rfl⟩
  | _ => exact absurd nullish Bool.false_ne_true

/-- Where no key appears twice, an entry is what is found under its key. -/
theorem lookup_of_mem {entries : List (String × Value)} {key : String} {child : Value}
    (nodup : (Entries.keys entries).Nodup) (member : (key, child) ∈ entries) :
    (map entries).lookup key = child := by
  rw [lookup, (Entries.lookup_eq_some_iff nodup).mpr member, Option.getD_some]

theorem distinct_of_mem {entries : List (String × Value)} {key : String} {child : Value}
    (distinct : DistinctEntries entries) (member : (key, child) ∈ entries) : child.Distinct := by
  induction entries with
  | nil => exact absurd member List.not_mem_nil
  | cons entry rest ih =>
      obtain ⟨name, value⟩ := entry
      rcases List.mem_cons.mp member with same | later
      · cases same
        exact distinct.1
      · exact ih distinct.2 later

theorem distinct_of_getElem? {items : List Value} {i : Nat} {child : Value}
    (distinct : DistinctItems items) (place : items[i]? = some child) : child.Distinct := by
  induction items generalizing i with
  | nil => exact absurd place nofun
  | cons item rest ih =>
      cases i with
      | zero =>
          obtain rfl := Option.some.inj place
          exact distinct.1
      | succ i => exact ih distinct.2 place

/-- A key leads on to what lies inside the node that is found under it. -/
theorem Address.resolve_cons {root child node : Value} {key : String} {keys : List String}
    (found : root.lookup key = child) (inside : child.Address keys node)
    (resolved : Path.resolve (keys.map .ofKey) child = .ok node) :
    Path.resolve ((key :: keys).map .ofKey) root = .ok node := by
  rw [List.map_cons, Path.resolve_cons]
  show Path.proceed (keys.map .ofKey) (root.lookup key) = .ok node
  rw [found]
  cases nullish : child.isNullish with
  | true =>
      obtain ⟨rfl, rfl⟩ := inside.of_isNullish nullish
      exact Path.proceed_nil _
  | false => rw [Path.proceed_of_not_isNullish nullish, resolved]

/-- **The address of a node leads to the node.** -/
theorem Address.resolve {root node : Value} {keys : List String} (distinct : root.Distinct)
    (address : root.Address keys node) : Path.resolve (keys.map .ofKey) root = .ok node := by
  induction address with
  | here node => rfl
  | entry member _ inside ih =>
      exact resolve_cons (lookup_of_mem distinct.1 member) inside
        (ih (distinct_of_mem distinct.2 member))
  | @item items i _ _ _ word place inside ih =>
      refine resolve_cons ?_ inside (ih (distinct_of_getElem? distinct place))
      rw [lookup_list_toString items word, place, Option.getD_some]

end Value

/-- **Every node has an address.** In a value in which no map has a key twice, the keys and indices
on the way to a node, with separators between them, are a path that is read as these keys, leads to
the node, and gives its text. -/
theorem query_of_address {root node : Value} {keys : List String} (distinct : root.Distinct)
    (address : root.Address keys node) :
    Path.ofText ("::".intercalate keys) = .ok (keys.map .ofKey) ∧
      Path.resolve (keys.map .ofKey) root = .ok node ∧
      ∀ answers, query root ("::".intercalate keys) false answers =
        ⟨.ok node.serialize, [], []⟩ := by
  have read := Path.ofText_intercalate address.plain
  have resolved := address.resolve distinct
  refine ⟨read, resolved, fun answers => ?_⟩
  rw [query, read]
  simp only [Path.evaluate, resolved]
  rfl

/-- Keys that begin with a colon, look like an index, or are named like the length of a list, and an
undefined item at the end. -/
theorem query_of_address_undefined :
    let inner := Value.map [("10", .null), ("length", .list [.bool true, .undefined])]
    let root := Value.map [("a:b", .null), (":a", .list [.string "x", inner])]
    root.Distinct ∧ root.Address [":a", "1", "length", "1"] .undefined ∧
      Path.ofText ":a::1::length::1" =
        .ok [.ofKey ":a", .ofKey "1", .ofKey "length", .ofKey "1"] ∧
      query root ":a::1::length::1" false (fun _ => .ok .null) = ⟨.ok "undefined", [], []⟩ := by
  intro inner root
  have distinct : root.Distinct :=
    ⟨by decide, trivial, ⟨trivial, ⟨by decide, trivial, ⟨trivial, trivial, trivial⟩, trivial⟩,
      trivial⟩, trivial⟩
  have plain {key : String} (nonempty : key ≠ "") (parenthesis : '(' ∉ key.toList)
      (unseparated : Unseparated key.toList) (colon : key.toList.getLast? ≠ some ':') :
      PlainKey key := ⟨nonempty, parenthesis, unseparated, colon⟩
  have address : root.Address [":a", "1", "length", "1"] .undefined :=
    .entry (List.mem_cons_of_mem _ (List.mem_cons_self ..))
      (plain (by decide) (by decide) (by decide +kernel) (by decide))
      (.item (i := 1) (by decide) rfl (.entry (List.mem_cons_of_mem _ (List.mem_cons_self ..))
        (plain (by decide) (by decide) (by decide +kernel) (by decide))
        (.item (i := 1) (by decide) rfl (.here _))))
  obtain ⟨read, -, written⟩ := query_of_address distinct address
  exact ⟨distinct, address, read, written _⟩

end PathQuery
