import Mathlib.Data.List.Induction
import PathQuery.Entries

/-!
# Laws of association lists

Entries whose keys are distinct are a finite map: they have exactly the values that they list
(`lookup_eq_some_iff`), so their order makes no difference to looking up (`lookup_eq_of_perm`).
Pairs that are entered one after the other keep the last value of every key (`lookup_ofPairs`), and
pairs whose keys are distinct already stay as they are (`ofPairs_of_nodup`).
-/

set_option autoImplicit false

namespace PathQuery.Entries

universe u

variable {α : Type u} {entries : List (String × α)} {key : String} {value : α}

/-! ## Insertion -/

theorem mem_insert {entry : String × α} (member : entry ∈ insert entries key value) :
    entry ∈ entries ∨ entry = (key, value) := by
  induction entries with
  | nil => exact .inr (List.mem_singleton.mp member)
  | cons first rest ih =>
      obtain ⟨name, old⟩ := first
      rw [insert] at member
      split at member
      · next same =>
          subst same
          exact (List.mem_cons.mp member).symm.imp_left (List.mem_cons_of_mem _)
      · rcases List.mem_cons.mp member with rfl | later
        · exact .inl List.mem_cons_self
        · exact (ih later).imp_left (List.mem_cons_of_mem _)

/-- A new key goes to the end. -/
theorem insert_of_not_mem (fresh : key ∉ keys entries) (value : α) :
    insert entries key value = entries ++ [(key, value)] := by
  induction entries with
  | nil => rfl
  | cons entry rest ih =>
      obtain ⟨name, old⟩ := entry
      simp only [keys, List.map_cons, List.mem_cons, not_or] at fresh
      rw [insert, if_neg fresh.1, ih fresh.2]
      rfl

/-! ## Distinct keys -/

theorem not_mem_keys_of_nodup {before after : List (String × α)}
    (distinct : (keys (before ++ (key, value) :: after)).Nodup) : key ∉ keys before := by
  rw [keys, List.map_append, List.nodup_append] at distinct
  intro member
  exact distinct.2.2 key member key List.mem_cons_self rfl

/-- Entries with distinct keys have the values that they list. -/
theorem lookup_eq_some_iff (distinct : (keys entries).Nodup) :
    entries.lookup key = some value ↔ (key, value) ∈ entries := by
  rw [List.lookup_eq_some_iff]
  constructor
  · rintro ⟨before, after, rfl, -⟩
    exact List.mem_append_right _ List.mem_cons_self
  · intro member
    obtain ⟨before, after, rfl⟩ := List.append_of_mem member
    refine ⟨before, after, rfl, fun entry earlier => bne_iff_ne.mpr fun same => ?_⟩
    refine not_mem_keys_of_nodup distinct ?_
    rw [same]
    exact List.mem_map_of_mem earlier

/-- The order of entries with distinct keys makes no difference to looking up. -/
theorem lookup_eq_of_perm {order : List (String × α)} (perm : order.Perm entries)
    (distinct : (keys entries).Nodup) (key : String) : order.lookup key = entries.lookup key := by
  have distinct' : (keys order).Nodup := (perm.map Prod.fst).nodup_iff.mpr distinct
  ext value
  rw [lookup_eq_some_iff distinct', lookup_eq_some_iff distinct]
  exact perm.mem_iff

/-! ## Entering pairs -/

theorem ofPairs_append_singleton (pairs : List (String × α)) (key : String) (value : α) :
    ofPairs (pairs ++ [(key, value)]) = insert (ofPairs pairs) key value := by
  rw [ofPairs, List.foldl_append]
  rfl

theorem mem_of_mem_ofPairs {pairs : List (String × α)} {entry : String × α}
    (member : entry ∈ ofPairs pairs) : entry ∈ pairs := by
  induction pairs using List.reverseRecOn with
  | nil => exact member
  | append_singleton pairs pair ih =>
      rw [ofPairs_append_singleton] at member
      rcases mem_insert member with earlier | rfl
      · exact List.mem_append_left _ (ih earlier)
      · exact List.mem_append_right _ List.mem_cons_self

/-- Pairs with distinct keys are entered as they are. -/
theorem ofPairs_of_nodup {pairs : List (String × α)} (distinct : (keys pairs).Nodup) :
    ofPairs pairs = pairs := by
  induction pairs using List.reverseRecOn with
  | nil => rfl
  | append_singleton pairs pair ih =>
      have fresh := not_mem_keys_of_nodup distinct
      rw [keys, List.map_append] at distinct
      rw [ofPairs_append_singleton, ih (List.nodup_append.mp distinct).1, insert_of_not_mem fresh]

/-- The last value that was entered for a key is kept. -/
theorem lookup_ofPairs (pairs : List (String × α)) (key : String) :
    (ofPairs pairs).lookup key = pairs.reverse.lookup key := by
  induction pairs using List.reverseRecOn with
  | nil => rfl
  | append_singleton pairs pair ih =>
      obtain ⟨name, value⟩ := pair
      rw [ofPairs_append_singleton, lookup_insert, List.reverse_append, List.reverse_singleton,
        List.singleton_append, List.lookup_cons, ih]
      by_cases same : key = name
      · rw [if_pos same, beq_iff_eq.mpr same]
      · rw [if_neg same, beq_eq_false_iff_ne.mpr same]

end PathQuery.Entries
