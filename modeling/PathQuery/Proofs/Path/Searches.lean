import PathQuery.Proofs.Path.Composition
import PathQuery.Proofs.Value.Indexing

/-!
# The three searches agree

All three searches ask the same of the items of a list and differ in what they give: all matches,
the first match, or its place. The matches are the items at certain places, in order
(`selects_filter`), the first match is the element `0` of all matches (`find_eq_lookup`), and it
stands at the place of the first match (`exists_first_match`). A place is a number, and its text is
the key of the item (`Value.lookup_list_toString`).

So a path may ask for all matches and then for the element `0` where it asks for the first match
(`Path.renamedSearch_find`). Both give the same, and where one fails the other fails, about the same
value.
-/

set_option autoImplicit false

namespace PathQuery

/-! ## Matches and their places -/

/-- The selected items stand at certain places of the list, in the same order and none twice, and
these are all places at which an item is accepted. -/
def Selects (accepts : Value → Bool) (items selected : List Value) : Prop :=
  ∃ places : List Nat, places.Pairwise (· < ·) ∧
    (∀ place, place ∈ places ↔ ∃ item, items[place]? = some item ∧ accepts item = true) ∧
    selected.map some = places.map (items[·]?)

theorem selects_filter (accepts : Value → Bool) (items : List Value) :
    Selects accepts items (items.filter accepts) := by
  let picked := items.zipIdx.filter fun entry => accepts entry.1
  have mem (item : Value) (place : Nat) :
      (item, place) ∈ picked ↔ items[place]? = some item ∧ accepts item = true := by
    rw [List.mem_filter, List.mk_mem_zipIdx_iff_getElem?]
  have selected : items.filter accepts = picked.map Prod.fst := by
    conv => lhs; rw [← List.zipIdx_map_fst 0 items]
    exact List.filter_map
  refine ⟨picked.map Prod.snd, ?_, fun place => ?_, ?_⟩
  · have places : (picked.map Prod.snd).Sublist (List.range' 0 items.length) := by
      rw [← List.zipIdx_map_snd 0 items]
      exact List.filter_sublist.map Prod.snd
    exact List.Pairwise.sublist places (List.pairwise_lt_range' ..)
  · rw [List.mem_map]
    constructor
    · rintro ⟨⟨item, place⟩, member, rfl⟩
      exact ⟨item, (mem item place).mp member⟩
    · rintro ⟨item, found⟩
      exact ⟨(item, place), (mem item place).mpr found, rfl⟩
  · rw [selected, List.map_map, List.map_map]
    refine List.map_congr_left fun entry member => ?_
    exact ((mem entry.1 entry.2).mp member).1.symm

/-- The first match is the element `0` of all matches. -/
theorem find_eq_lookup (accepts : Value → Bool) (items : List Value) :
    (items.find? accepts).getD .undefined = (Value.list (items.filter accepts)).lookup "0" := by
  have first := Value.lookup_list_toString (items.filter accepts) (by decide : 0 < UInt64.size)
  rw [← List.head?_filter, List.head?_eq_getElem?]
  exact first.symm

/-- Where something matches, both searches for one match find the first. -/
theorem exists_first_match {α : Type} {p : α → Bool} {items : List α}
    (matched : items.filter p ≠ []) :
    ∃ place item, items.findIdx? p = some place ∧ items.find? p = some item ∧
      items[place]? = some item ∧ p item = true ∧
      ∀ earlier < place, ∀ other, items[earlier]? = some other → p other = false := by
  cases found : items.findIdx? p with
  | none =>
      refine absurd ?_ matched
      rw [List.findIdx?_eq_none_iff] at found
      simpa using found
  | some place =>
      obtain ⟨inside, accepted, earlier⟩ := List.findIdx?_eq_some_iff_getElem.mp found
      have first := (List.findIdx?_eq_some_iff_findIdx_eq.mp found).2
      have item : items[place]? = some items[place] := List.getElem?_eq_getElem inside
      refine ⟨place, items[place], rfl, ?_, item, accepted, fun j before other place => ?_⟩
      · rw [List.find?_eq_getElem?_findIdx, first, item]
      · obtain ⟨within, rfl⟩ := List.getElem?_eq_some_iff.mp place
        exact Bool.eq_false_iff.mpr (earlier j before)

namespace Filter

theorem run_find {filter : Filter} {items : List Value} {item : Value}
    (search : filter.search = .find) (found : items.find? filter.accepts = some item) :
    filter.run items = item := by
  rw [run, search]
  simp only [found, Option.getD_some]

theorem run_findIndex {filter : Filter} {items : List Value} {i : Nat}
    (search : filter.search = .findIndex) (found : items.findIdx? filter.accepts = some i) :
    filter.run items = .number (.ofInt i) := by
  rw [run, search]
  simp only [found]

/-- The place of the first match is `-1` exactly where nothing matches. -/
theorem run_findIndex_iff {filter : Filter} {items : List Value}
    (search : filter.search = .findIndex) (short : items.length < 2 ^ Magnitude.precision) :
    filter.run items = .number (.ofInt (-1)) ↔ items.filter filter.accepts = [] := by
  constructor
  · intro minusOne
    refine Classical.byContradiction fun matched => ?_
    obtain ⟨place, item, index, -, at_place, -⟩ := exists_first_match matched
    have small := Value.le_greatestInteger_of_place at_place short
    rw [run_findIndex search index] at minusOne
    have equal := Value.eq_of_ofInt_eq (i := place) (by simpa using small) (by decide)
      (Value.number.inj minusOne)
    omega
  · intro none
    have nowhere : items.findIdx? filter.accepts = .none := by
      rw [List.findIdx?_eq_none_iff]
      simpa using none
    rw [run, search]
    simp only [nowhere]

end Filter

/-! ## One search in the place of another -/

/-- Two outcomes are the same, or they are errors about the same value, the one of a search for the
first match and the other of a search for all matches. -/
inductive RenamedSearch : Except QueryError Value → Except QueryError Value → Prop
  | same (outcome : Except QueryError Value) : RenamedSearch outcome outcome
  | mismatch (found : String) :
      RenamedSearch (.error (.typeMismatch "find" found)) (.error (.typeMismatch "filter" found))

/-- A segment that only searches gives what the search gives. -/
theorem Segment.apply_filter (key : String) (filter : Filter) (value : Value) :
    Segment.apply ⟨key, some filter, none⟩ value = filter.apply (value.lookup key) := by
  show (filter.apply (value.lookup key)).bind .ok = _
  cases filter.apply (value.lookup key) <;> rfl

namespace Path

/-- What stands before them does not set two paths apart. -/
theorem renamedSearch_append (before : Path) {first second : Path}
    (related : ∀ value, RenamedSearch (first.resolve value) (second.resolve value))
    (root : Value) : RenamedSearch (resolve (before ++ first) root)
      (resolve (before ++ second) root) := by
  induction before generalizing root with
  | nil => exact related root
  | cons segment before ih =>
      rw [List.cons_append, List.cons_append, resolve_cons, resolve_cons]
      cases segment.apply root with
      | error error => exact .same _
      | ok value =>
          show RenamedSearch (proceed (before ++ first) value) (proceed (before ++ second) value)
          cases nullish : value.isNullish with
          | true =>
              rw [proceed_of_isNullish nullish, proceed_of_isNullish nullish]
              exact .same _
          | false =>
              rw [proceed_of_not_isNullish nullish, proceed_of_not_isNullish nullish]
              exact ih value

/-- Searching for all matches and taking the element `0` is searching for the first match. -/
theorem renamedSearch_find (key property : String) (rule : Rule) (literal : Literal)
    (after : Path) (root : Value) :
    RenamedSearch (resolve (⟨key, some ⟨.find, property, rule, literal⟩, none⟩ :: after) root)
      (resolve (⟨key, some ⟨.filter, property, rule, literal⟩, none⟩ :: .ofKey "0" :: after)
        root) := by
  rw [resolve_cons, resolve_cons, Segment.apply_filter, Segment.apply_filter]
  cases root.lookup key with
  | list items =>
      let accepts := Filter.accepts ⟨.find, property, rule, literal⟩
      have first : (Segment.ofKey "0").apply (.list (items.filter accepts)) =
          .ok ((items.find? accepts).getD .undefined) := by
        rw [find_eq_lookup]
        rfl
      show RenamedSearch (proceed after ((items.find? accepts).getD .undefined))
        (resolve (.ofKey "0" :: after) (.list (items.filter accepts)))
      rw [resolve_cons, first]
      exact .same _
  | _ => exact .mismatch _

end Path

/-- **The three searches agree.** On a list, the search for all matches gives exactly the items that
match, in order, the search for the first match gives the element `0` of these, and the search for
its place gives `-1` or a number whose text is the key of that item. In a path, a search for all
matches and the key `0` can stand for the search for the first match. -/
theorem Search.results_agree (property : String) (rule : Rule) (literal : Literal) :
    let accepts (item : Value) := rule.holds (item.lookup property) literal.value
    let asked (search : Search) : Filter := ⟨search, property, rule, literal⟩
    (∀ items : List Value, items.length < 2 ^ Magnitude.precision →
      ∃ (selected : List Value) (found index : Value),
        (asked .filter).apply (.list items) = .ok (.list selected) ∧
        (asked .find).apply (.list items) = .ok found ∧
        (asked .findIndex).apply (.list items) = .ok index ∧
        Selects accepts items selected ∧
        found = (Value.list selected).lookup "0" ∧
        (selected = [] → found = .undefined) ∧
        (index = .number (.ofInt (-1)) ↔ selected = []) ∧
        (selected ≠ [] → ∃ place : Nat, index.serialize = toString place ∧
          (Value.list items).lookup index.serialize = found ∧
          items[place]? = some found ∧ accepts found = true ∧
          ∀ earlier < place, ∀ item, items[earlier]? = some item → accepts item = false)) ∧
    ∀ (key : String) (before after : Path) (root : Value),
      RenamedSearch
        (Path.resolve (before ++ ⟨key, some (asked .find), none⟩ :: after) root)
        (Path.resolve
          (before ++ ⟨key, some (asked .filter), none⟩ :: .ofKey "0" :: after) root) := by
  intro accepts asked
  refine ⟨fun items short => ?_, fun key before after root => ?_⟩
  · refine ⟨items.filter accepts, (asked .find).run items, (asked .findIndex).run items, rfl, rfl,
      rfl, selects_filter accepts items, find_eq_lookup accepts items, fun none => ?_,
      Filter.run_findIndex_iff rfl short, fun matched => ?_⟩
    · rw [show (asked .find).run items = _ from find_eq_lookup accepts items, none]
      rfl
    · obtain ⟨place, item, index, first, at_place, accepted, earlier⟩ := exists_first_match matched
      have text : ((asked .findIndex).run items).serialize = toString place := by
        rw [@Filter.run_findIndex (asked .findIndex) items place rfl index]
        exact Value.serialize_ofInt (Value.le_greatestInteger_of_place at_place short)
      rw [@Filter.run_find (asked .find) items item rfl first]
      have word := lt_size_of_short short (List.getElem?_eq_some_iff.mp at_place).1
      refine ⟨place, text, ?_, at_place, accepted, earlier⟩
      rw [text, Value.lookup_list_toString items word, at_place]
      rfl
  · exact Path.renamedSearch_append before (Path.renamedSearch_find key property rule literal after)
      root

/-- The second and the third of three items match, and they are null and undefined themselves. -/
theorem Search.results_agree_null :
    let items := [Value.map [("id", .string "1")], .null, .undefined]
    let asked (search : Search) : Filter := ⟨search, "id", .equal, .structured .null⟩
    items.length < 2 ^ Magnitude.precision ∧
      ∃ index : Value, (asked .filter).apply (.list items) = .ok (.list [.null, .undefined]) ∧
        (asked .findIndex).apply (.list items) = .ok index ∧ index ≠ .number (.ofInt (-1)) ∧
        (asked .find).apply (.list items) = .ok ((Value.list items).lookup index.serialize) := by
  intro items asked
  have short : items.length < 2 ^ Magnitude.precision := by decide
  obtain ⟨selected, found, index, all, first, at_index, -, -, -, none_iff, matched⟩ :=
    (Search.results_agree "id" .equal (.structured .null)).1 items short
  have both : [.null, .undefined] = selected := Value.list.inj (Except.ok.inj all)
  have nonempty : selected ≠ [] := by
    rw [← both]
    nofun
  obtain ⟨place, -, element, -⟩ := matched nonempty
  exact ⟨short, index, rfl, at_index, fun minusOne => nonempty (none_iff.mp minusOne),
    first.trans (congrArg Except.ok element.symm)⟩

end PathQuery
