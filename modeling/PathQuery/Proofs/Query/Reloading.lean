import PathQuery.Proofs.Path.Composition
import PathQuery.Proofs.Value.Zeros
import PathQuery.Query

/-!
# Reloading the data from its own text

The data of a session may be written and loaded again. What comes back has its numbers reread. If
the data read back, it differs from what was written in the signs of zeros only, and no query tells
the one from the other. If they do not, the empty path does, since what is written tells all numbers
but for these signs (`query_reloaded`).

The argument runs along the evaluator. Every step of it takes a value without signs to what it takes
the value to, without signs: a search (`Filter.run_unsigned`), a projection
(`Value.project_unsigned`), a segment (`Segment.apply_unsigned`) and so a path
(`Path.resolve_unsigned`). What a query writes has no signs of zeros in any case
(`query_unsigned`).
-/

set_option autoImplicit false

namespace PathQuery

open Value

/-! ## Searches -/

namespace Filter

/-- A search does not see the sign of a zero in an item. -/
theorem accepts_unsigned (filter : Filter) (item : Value) :
    filter.accepts item.unsigned = filter.accepts item := by
  rw [accepts, accepts, Rule.holds, Rule.holds, lookup_unsigned, Rule.apply_unsigned_left]

theorem accepts_comp_unsigned (filter : Filter) :
    filter.accepts ∘ unsigned = filter.accepts := funext filter.accepts_unsigned

/-- The place of a match is a number without a sign, and the number for no match is not zero. -/
theorem unsigned_place (place : Option Nat) :
    let number := Value.number (.ofInt (match place with
      | some index => index
      | none => -1))
    number.unsigned = number := by
  cases place with
  | none => exact congrArg number (by decide +kernel)
  | some index =>
      have positive : decide ((index : Int) < 0) = false := by simp
      simp only [unsigned_number, Double.ofInt, positive, Double.unsignedZero_nearest]

/-- A search finds the same items, without signs of zeros. -/
theorem run_unsigned (filter : Filter) (items : List Value) :
    filter.run (items.map unsigned) = (filter.run items).unsigned := by
  obtain ⟨search, property, rule, literal⟩ := filter
  cases search with
  | find =>
      simp only [run, List.find?_map, accepts_comp_unsigned]
      cases items.find? (accepts _) <;> rfl
  | filter =>
      simp only [run, List.filter_map, accepts_comp_unsigned, unsigned_list]
  | findIndex =>
      simp only [run, List.findIdx?_map, accepts_comp_unsigned]
      exact (unsigned_place _).symm

theorem apply_unsigned (filter : Filter) (value : Value) :
    filter.apply value.unsigned = (filter.apply value).map unsigned := by
  cases value with
  | list items =>
      rw [unsigned_list, apply, run_unsigned]
      rfl
  | _ => rfl

end Filter

/-! ## Paths -/

theorem Value.project_unsigned (value : Value) (property : String) :
    value.unsigned.project property = (value.project property).map unsigned := by
  cases value with
  | list items =>
      simp only [unsigned_list, project, Except.map, List.map_map, Function.comp_def,
        lookup_unsigned]
  | _ => rfl

namespace Segment

theorem search_unsigned (segment : Segment) (value : Value) :
    segment.search value.unsigned = (segment.search value).map unsigned := by
  rw [search, search]
  cases segment.filter with
  | some filter => exact filter.apply_unsigned value
  | none => rfl

theorem project_unsigned (segment : Segment) (value : Value) :
    segment.project value.unsigned = (segment.project value).map unsigned := by
  rw [project, project]
  cases segment.projection with
  | some property => exact value.project_unsigned property
  | none => rfl

/-- A segment leads from a value without signs of zeros to one without. -/
theorem apply_unsigned (segment : Segment) (value : Value) :
    segment.apply value.unsigned = (segment.apply value).map unsigned := by
  rw [apply, apply, lookup_unsigned, search_unsigned]
  cases segment.search (value.lookup segment.key) with
  | error error => rfl
  | ok found => exact segment.project_unsigned found

end Segment

/-- **A path leads to the same value, without the signs of zeros.** -/
theorem Path.resolve_unsigned (path : Path) (root : Value) :
    path.resolve root.unsigned = (path.resolve root).map unsigned := by
  induction path generalizing root with
  | nil => rfl
  | cons segment rest ih =>
      rw [resolve_cons, resolve_cons, segment.apply_unsigned root]
      cases segment.apply root with
      | error error => rfl
      | ok value =>
          show Path.proceed rest value.unsigned = (Path.proceed rest value).map unsigned
          rw [proceed, proceed, isNullish_unsigned, ih value]
          cases value.isNullish <;> rfl

/-! ## Queries -/

theorem Value.invoke_unsigned (value : Value) (answers : Answers) :
    value.unsigned.invoke answers = value.invoke answers := by
  have written := value.serialize_unsigned
  cases value with
  | number _ | list _ | map _ =>
      simp only [invoke, unsigned_number, unsigned_list, unsigned_map] at written ⊢
      rw [written]
      rfl
  | _ => rfl

/-- **A query gives and does the same where zeros have lost their signs**, whatever the data. -/
theorem query_unsigned (root : Value) (path : String) (invoke : Bool) (answers : Answers) :
    query root.unsigned path invoke answers = query root path invoke answers := by
  rw [query, query]
  cases Path.ofText path with
  | error error => rfl
  | ok path =>
      simp only [Path.evaluate, path.resolve_unsigned root]
      cases path.resolve root with
      | error error => rfl
      | ok value => simp only [Except.map, value.invoke_unsigned, value.serialize_unsigned]

/-- The empty path asks for the data as they are. -/
theorem query_empty (root : Value) (answers : Answers) :
    query root "" false answers = ⟨.ok root.serialize, [], []⟩ := rfl

/-- **Reloading the data from its own text changes no answer**, exactly if the data read back. What
a text stands for, once written, is decoded again, with its numbers reread. If the data read back,
as they do if all their numbers are plain, the reloaded data lead on every path to the same error or
to a value that is written alike, and every query gives the same result, notifies the same and calls
the same. If they do not, some query gives another result. -/
theorem query_reloaded {text : String} {root : Value} (decoded : ofJsonText? text = some root) :
    ofJsonText? root.serialize = some root.reread ∧
      let same := (∀ path : Path,
          (path.resolve root.reread).map serialize = (path.resolve root).map serialize) ∧
        ∀ path invoke answers,
          query root.reread path invoke answers = query root path invoke answers
      (root.ReadsBack ↔ same) ∧ ((∀ n ∈ root.numbers, n.isPlain = true) → same) := by
  have reloaded := decode_reread decoded
  have kept (readsBack : root.ReadsBack) : (∀ path : Path,
      (path.resolve root.reread).map serialize = (path.resolve root).map serialize) ∧
      ∀ path invoke answers,
        query root.reread path invoke answers = query root path invoke answers := by
    rw [root.reread_eq_unsigned_iff.mpr readsBack]
    refine ⟨fun path => ?_, query_unsigned root⟩
    rw [path.resolve_unsigned root]
    cases path.resolve root with
    | error error => rfl
    | ok value => exact congrArg Except.ok value.serialize_unsigned
  refine ⟨reloaded, ⟨kept, fun ⟨_, same⟩ => ?_⟩, fun plain => kept (readsBack_of_isPlain plain)⟩
  have answer := same "" false fun _ => .ok .null
  rw [query_empty, query_empty] at answer
  have written := Except.ok.inj (congrArg Report.result answer)
  exact root.unsigned_reread_eq_iff.mp (unsigned_eq_of_serialize_eq reloaded decoded written)

/-- A zero whose sign is lost on the way is found in either data by the same search. -/
theorem query_reloaded_minus_zero :
    let text := "\x7b\"a\":[1,\x7b\"sum\":-0.0\x7d]\x7d"
    let path := "a(find sum in [0])"
    let answers : Answers := fun _ => .ok .null
    ∃ root, ofJsonText? text = some root ∧
      root.serialize = "\x7b\"a\":[1,\x7b\"sum\":0\x7d]\x7d" ∧ root.ReadsBack ∧
      ∃ reloaded, ofJsonText? root.serialize = some reloaded ∧
        (query reloaded path false answers).result.toOption = some "\x7b\"sum\":0\x7d" ∧
        query reloaded path true answers = query root path true answers := by
  intro text path answers
  have run : (ofJsonText? text).map (fun root =>
      (root.serialize, decide root.ReadsBack, (query root path false answers).result.toOption)) =
        some ("\x7b\"a\":[1,\x7b\"sum\":0\x7d]\x7d", true, some "\x7b\"sum\":0\x7d") := by
    decide +kernel
  obtain ⟨root, decoded, shown⟩ := Option.map_eq_some_iff.mp run
  obtain ⟨written, shown⟩ := Prod.mk.inj shown
  obtain ⟨readsBack, given⟩ := Prod.mk.inj shown
  have readsBack := of_decide_eq_true readsBack
  obtain ⟨read, same, -⟩ := query_reloaded decoded
  have same := (same.mp readsBack).2
  refine ⟨root, decoded, written, readsBack, _, read, ?_, same path true answers⟩
  rw [same path false answers]
  exact given

/-- The number that is decoded is written as 110395.43015404869, which is decoded as the double
below it, and the path to the number tells. -/
theorem query_reloaded_lost :
    let text := "\x7b\"a\":110395.430154048684\x7d"
    let answers : Answers := fun _ => .ok .null
    ∃ root reloaded, ofJsonText? text = some root ∧
      ofJsonText? root.serialize = some reloaded ∧
      (query root "a" false answers).result.toOption = some "110395.43015404869" ∧
      (query reloaded "a" false answers).result.toOption = some "110395.43015404868" := by
  intro text answers
  have run : ((ofJsonText? text).bind fun root =>
      (ofJsonText? root.serialize).map fun reloaded =>
        ((query root "a" false answers).result.toOption,
          (query reloaded "a" false answers).result.toOption)) =
        some (some "110395.43015404869", some "110395.43015404868") := by
    decide +kernel
  obtain ⟨root, decoded, later⟩ := Option.bind_eq_some_iff.mp run
  obtain ⟨reloaded, decoded', shown⟩ := Option.map_eq_some_iff.mp later
  obtain ⟨given, given'⟩ := Prod.mk.inj shown
  exact ⟨root, reloaded, decoded, decoded', given, given'⟩

end PathQuery
