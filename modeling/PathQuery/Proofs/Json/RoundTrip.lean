import PathQuery.Json.Reader
import PathQuery.Proofs.Entries
import PathQuery.Proofs.Json.Rereading
import PathQuery.Proofs.Json.Tokens

/-!
# Documents come back

The reader goes through the tokens of a document from the place where a value is expected to the
place where the value is complete, and leaves what was open before as it was (`Reader.run_tokens`).
It has room for that as long as the lists and objects that are open already and those inside the
document (`Json.depth`) are together no more than it allows. With the scanner this gives the round
trip: the text of a document is read as the document with its numbers reread
(`Json.ofChars?_chars`).
-/

set_option autoImplicit false

namespace PathQuery

namespace Json

mutual
/-- How many lists and objects stand inside each other. -/
def depth : Json → Nat
  | list items => itemsDepth items + 1
  | object entries => entriesDepth entries + 1
  | _ => 0

def itemsDepth : List Json → Nat
  | [] => 0
  | item :: rest => max item.depth (itemsDepth rest)

def entriesDepth : List (String × Json) → Nat
  | [] => 0
  | (_, value) :: rest => max value.depth (entriesDepth rest)
end

mutual
/-- No object in the document has a key twice. -/
def Distinct : Json → Prop
  | list items => DistinctItems items
  | object entries => (Entries.keys entries).Nodup ∧ DistinctEntries entries
  | _ => True

def DistinctItems : List Json → Prop
  | [] => True
  | item :: rest => item.Distinct ∧ DistinctItems rest

def DistinctEntries : List (String × Json) → Prop
  | [] => True
  | (_, value) :: rest => value.Distinct ∧ DistinctEntries rest
end

mutual
/-- The document with all its numbers reread. -/
def reread : Json → Json
  | number n => number n.reread
  | list items => list (rereadItems items)
  | object entries => object (rereadEntries entries)
  | json => json

def rereadItems : List Json → List Json
  | [] => []
  | item :: rest => item.reread :: rereadItems rest

def rereadEntries : List (String × Json) → List (String × Json)
  | [] => []
  | (key, value) :: rest => (key, value.reread) :: rereadEntries rest
end

namespace Reader

theorem run_cons {state next : State} {token : Token} (read : step? state token = some next)
    (rest : List Token) : run state (token :: rest) = run next rest := by
  rw [run, read, Option.bind_some]

/-- No document begins with the end of a list, so the first item is read like every other value. -/
theorem run_item (item : Json) (more : List Json) (frames : List Frame) (rest : List Token) :
    run ⟨frames, .item⟩ (itemTokens (item :: more) ++ rest) =
      run ⟨frames, .value⟩ (itemTokens (item :: more) ++ rest) := by
  cases more <;> cases item <;> rfl

theorem run_firstKey (entry : String × Json) (more : List (String × Json)) (frames : List Frame)
    (rest : List Token) :
    run ⟨frames, .firstKey⟩ (entryTokens (entry :: more) ++ rest) =
      run ⟨frames, .key []⟩ (entryTokens (entry :: more) ++ rest) := by
  cases more <;> rfl

/-- A frame takes one place of the room that there is. -/
theorem room_inside {frames : List Frame} {inner outer : Nat}
    (room : frames.length + (outer + 1) ≤ greatestDepth) (le : inner ≤ outer) (frame : Frame) :
    (frame :: frames).length + inner ≤ greatestDepth := by
  rw [List.length_cons]
  omega

/-- A word is read as the document that it is. -/
theorem run_word {word : List Char} {json : Json} (read : Token.ofWord? word = some json)
    (frames : List Frame) (rest : List Token) :
    run ⟨frames, .value⟩ (.word word :: rest) = run ⟨frames, .delimiter json⟩ rest := by
  refine run_cons ?_ rest
  change (Token.ofWord? word).map _ = _
  rw [read]
  rfl

mutual
/-- **The tokens of a value are read as the value**, its numbers reread. -/
theorem run_tokens : (json : Json) → json.Canonical → json.Distinct → (frames : List Frame) →
    frames.length + json.depth ≤ greatestDepth → ∀ rest : List Token,
    run ⟨frames, .value⟩ (json.tokens ++ rest) = run ⟨frames, .delimiter json.reread⟩ rest
  | .null, _, _, frames, _, rest => run_word rfl frames rest
  | .bool true, _, _, frames, _, rest => run_word rfl frames rest
  | .bool false, _, _, frames, _, rest => run_word rfl frames rest
  | .number _, canonical, _, frames, _, rest =>
      run_word (Token.ofWord?_of_number? (JsonNumber.number?_chars canonical)) frames rest
  | .string _, _, _, _, _, _ => rfl
  | .list items, canonical, distinct, frames, room, rest => by
      have inside : frames.length + (itemsDepth items + 1) ≤ greatestDepth := room
      have opened : step? ⟨frames, .value⟩ .openList = some ⟨.list [] :: frames, .item⟩ :=
        if_pos (room_inside inside (Nat.zero_le _) (.list []))
      rw [tokens, List.cons_append, run_cons opened, List.append_assoc]
      match items with
      | [] => exact run_cons rfl rest
      | item :: more =>
          rw [run_item]
          exact run_itemTokens (item :: more) nofun canonical distinct [] frames inside rest
  | .object entries, canonical, distinct, frames, room, rest => by
      have inside : frames.length + (entriesDepth entries + 1) ≤ greatestDepth := room
      have opened : step? ⟨frames, .value⟩ .openObject = some ⟨frames, .firstKey⟩ :=
        if_pos (room_inside inside (Nat.zero_le _) (.list []))
      rw [tokens, List.cons_append, run_cons opened, List.append_assoc]
      match entries with
      | [] => exact run_cons rfl rest
      | entry :: more =>
          rw [run_firstKey]
          exact run_entryTokens (entry :: more) nofun canonical distinct.2 [] distinct.1 frames
            inside rest

/-- Items are read behind those that are complete, up to the end of the list. -/
theorem run_itemTokens : (items : List Json) → items ≠ [] → CanonicalItems items →
    DistinctItems items → (before : List Json) → (frames : List Frame) →
    frames.length + (itemsDepth items + 1) ≤ greatestDepth → ∀ rest : List Token,
    run ⟨.list before :: frames, .value⟩ (itemTokens items ++ .closeList :: rest) =
      run ⟨frames, .delimiter (.list (before.reverse ++ rereadItems items))⟩ rest
  | [], nonempty, _, _, _, _, _, _ => absurd rfl nonempty
  | [item], _, canonical, distinct, before, frames, room, rest => by
      have inside := room_inside room (Nat.le_max_left ..) (.list before)
      rw [itemTokens, run_tokens item canonical.1 distinct.1 _ inside, run_cons rfl,
        List.reverse_cons]
      rfl
  | item :: next :: more, _, canonical, distinct, before, frames, room, rest => by
      have inside := room_inside room (Nat.le_max_left ..) (.list before)
      have room' : frames.length + (itemsDepth (next :: more) + 1) ≤ greatestDepth :=
        Nat.le_trans (Nat.add_le_add_left (Nat.succ_le_succ (Nat.le_max_right ..)) _) room
      have separated : itemTokens (item :: next :: more) =
        item.tokens ++ .comma :: itemTokens (next :: more) := rfl
      rw [separated, List.append_assoc, run_tokens item canonical.1 distinct.1 _ inside,
        List.cons_append, run_cons rfl, run_itemTokens (next :: more) nofun canonical.2 distinct.2
        (item.reread :: before) frames room', List.reverse_cons, List.append_assoc]
      rfl

/-- Entries are read behind those that are complete, up to the end of the object. -/
theorem run_entryTokens : (entries : List (String × Json)) → entries ≠ [] →
    CanonicalEntries entries → DistinctEntries entries → (before : List (String × Json)) →
    (Entries.keys (before ++ entries)).Nodup → (frames : List Frame) →
    frames.length + (entriesDepth entries + 1) ≤ greatestDepth → ∀ rest : List Token,
    run ⟨frames, .key before⟩ (entryTokens entries ++ .closeObject :: rest) =
      run ⟨frames, .delimiter (.object (before ++ rereadEntries entries))⟩ rest
  | [], nonempty, _, _, _, _, _, _, _ => absurd rfl nonempty
  | [(key, value)], _, canonical, distinct, before, nodup, frames, room, rest => by
      have inside := room_inside room (Nat.le_max_left ..) (.object before key)
      rw [entryTokens, List.cons_append, run_cons rfl, List.cons_append, run_cons rfl,
        run_tokens value canonical.1 distinct.1 _ inside, run_cons rfl,
        Entries.insert_of_not_mem (Entries.not_mem_keys_of_nodup nodup)]
      rfl
  | (key, value) :: next :: more, _, canonical, distinct, before, nodup, frames, room, rest => by
      have inside := room_inside room (Nat.le_max_left ..) (.object before key)
      have room' : frames.length + (entriesDepth (next :: more) + 1) ≤ greatestDepth :=
        Nat.le_trans (Nat.add_le_add_left (Nat.succ_le_succ (Nat.le_max_right ..)) _) room
      have separated : entryTokens ((key, value) :: next :: more) = .string key :: .colon ::
        (value.tokens ++ .comma :: entryTokens (next :: more)) := rfl
      have nodup' : (Entries.keys ((before ++ [(key, value.reread)]) ++ next :: more)).Nodup := by
        rw [List.append_assoc]
        simpa [Entries.keys] using nodup
      rw [separated, List.cons_append, run_cons rfl, List.cons_append, run_cons rfl,
        List.append_assoc, run_tokens value canonical.1 distinct.1 _ inside, List.cons_append,
        run_cons rfl, Entries.insert_of_not_mem (Entries.not_mem_keys_of_nodup nodup),
        run_entryTokens (next :: more) nofun canonical.2 distinct.2 _ nodup' frames room',
        List.append_assoc]
      rfl
end

end Reader

/-- **The text of a document is read as the document**, its numbers reread. -/
theorem ofChars?_chars {json : Json} (canonical : json.Canonical) (distinct : json.Distinct)
    (room : json.depth ≤ Reader.greatestDepth) : ofChars? json.chars = some json.reread := by
  have scanned := @scan_chars json canonical [] [] (Text.stops_nil _) rfl
  rw [List.append_nil, List.append_nil] at scanned
  have read := Reader.run_tokens json canonical distinct [] (by simpa using room) []
  rw [List.append_nil] at read
  rw [ofChars?, scanned, Option.bind_some, read]
  rfl

end Json
end PathQuery
