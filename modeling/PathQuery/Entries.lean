/-!
# Association lists in order of insertion

Maps keep their keys in the order in which they first came. `Entries.insert` puts a new key at the
end and gives a key that is there already a new value in its old place. Looking up is
`List.lookup`. The main statements say that `insert` changes the value of its own key only
(`lookup_insert`) and that it never makes a key appear twice (`nodup_keys_insert`).
-/

set_option autoImplicit false

namespace PathQuery.Entries

universe u

variable {α : Type u}

/-- The keys in order. -/
def keys (entries : List (String × α)) : List String := entries.map Prod.fst

/-- Gives the key a value: in its place if it is there already, else at the end. -/
def insert (entries : List (String × α)) (key : String) (value : α) : List (String × α) :=
  match entries with
  | [] => [(key, value)]
  | (other, old) :: rest =>
      if key = other then (other, value) :: rest else (other, old) :: insert rest key value

/-- Enters pairs one after the other. -/
def ofPairs (pairs : List (String × α)) : List (String × α) :=
  pairs.foldl (fun entries (key, value) => insert entries key value) []

/-- The value of the inserted key is the new one, and all other keys keep theirs. -/
theorem lookup_insert (entries : List (String × α)) (key other : String) (value : α) :
    (insert entries key value).lookup other =
      if other = key then some value else entries.lookup other := by
  induction entries with
  | nil =>
      by_cases h : other = key
      · simp [insert, h]
      · have hne : (other == key) = false := by simpa using h
        simp [insert, List.lookup_cons, h, hne]
  | cons entry rest ih =>
      obtain ⟨name, old⟩ := entry
      by_cases hname : key = name
      · subst hname
        by_cases h : other = key
        · simp [insert, h]
        · have hne : (other == key) = false := by simpa using h
          simp [insert, List.lookup_cons, h, hne]
      · simp only [insert, if_neg hname, List.lookup_cons]
        by_cases h : other = name
        · have hkey : ¬ name = key := fun e => hname e.symm
          simp [h, hkey]
        · have hne : (other == name) = false := by simpa using h
          simp only [hne, ih]

/-- The keys after an insertion: the old ones, and the new one at the end if it was not there. -/
theorem keys_insert (entries : List (String × α)) (key : String) (value : α) :
    keys (insert entries key value) =
      if key ∈ keys entries then keys entries else keys entries ++ [key] := by
  induction entries with
  | nil => simp [insert, keys]
  | cons entry rest ih =>
      obtain ⟨name, old⟩ := entry
      by_cases hname : key = name
      · simp [insert, keys, hname]
      · have hinsert :
            insert ((name, old) :: rest) key value = (name, old) :: insert rest key value := by
          simp [insert, hname]
        have hkeys : ∀ l, keys ((name, old) :: l) = name :: keys l := fun _ => rfl
        rw [hinsert, hkeys, hkeys, ih]
        by_cases hmem : key ∈ keys rest <;> simp [hmem, hname]

/-- An insertion never makes a key appear twice. -/
theorem nodup_keys_insert {entries : List (String × α)} (h : (keys entries).Nodup)
    (key : String) (value : α) : (keys (insert entries key value)).Nodup := by
  rw [keys_insert]
  split
  · exact h
  · next hkey =>
      rw [List.nodup_append]
      refine ⟨h, by simp, ?_⟩
      intro a ha b hb hab
      rw [List.mem_singleton] at hb
      exact hkey (hb ▸ hab ▸ ha)

/-- Entries built from pairs name each key once. -/
theorem nodup_keys_ofPairs (pairs : List (String × α)) : (keys (ofPairs pairs)).Nodup := by
  have step : ∀ (pairs entries : List (String × α)), (keys entries).Nodup →
      (keys (pairs.foldl (fun entries (key, value) =>
        insert entries key value) entries)).Nodup := by
    intro pairs
    induction pairs with
    | nil => exact fun _ h => h
    | cons pair rest ih => exact fun entries h => ih _ (nodup_keys_insert h _ _)
  exact step pairs [] (by simp [keys])

end PathQuery.Entries
