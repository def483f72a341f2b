import PathQuery.Proofs.Path.Printing
import PathQuery.Proofs.Path.Searches
import PathQuery.Proofs.Value.Zeros
import PathQuery.Query

/-!
# Results as literals

What a query writes can be used as a literal in the next one. The text of a scalar, with backslashes
before its protected characters, is read by the filter as the scalar reread
(`Value.literal_serialize`). A scalar that reads back has lost no more than the sign of zero, which
loose equality does not see (`Value.looseEqual_reread`), and no value is equal to a scalar and to
what it is reread as otherwise (`Value.readsBack_of_looseEqual`). So a search for a property that is
equal to the literal finds an item no later than the one that the text was taken from exactly if the
scalar reads back (`query_find_serialized`).
-/

set_option autoImplicit false

namespace PathQuery

open Grammar PathQuery.Path Text

/-! ## Scalars -/

namespace Value

/-- The value is null, a truth value, a finite number or a string. -/
def isScalar : Value → Bool
  | null | bool _ | number (.finite _ _) | string _ => true
  | _ => false

theorem scalar_cases {value : Value} (scalar : value.isScalar = true) :
    value = null ∨ (∃ b, value = bool b) ∨ (∃ negative m, value = number (.finite negative m)) ∨
      ∃ s, value = string s := by
  unfold isScalar at scalar
  split at scalar
  · exact .inl rfl
  · exact .inr (.inl ⟨_, rfl⟩)
  · exact .inr (.inr (.inl ⟨_, _, rfl⟩))
  · exact .inr (.inr (.inr ⟨_, rfl⟩))
  · exact absurd scalar nofun

/-- A scalar is equal to itself. -/
theorem looseEqual_self {value : Value} (scalar : value.isScalar = true) :
    value.looseEqual value = true := by
  rcases scalar_cases scalar with rfl | ⟨b, rfl⟩ | ⟨negative, m, rfl⟩ | ⟨s, rfl⟩
  · rfl
  · cases b <;> decide +kernel
  · simp [looseEqual, isNullish, isCompound, primitive, withoutBool, plainEqual, Double.equal,
      Double.position]
  · simp [looseEqual, isNullish, isCompound, primitive, withoutBool, plainEqual]

/-- Loose equality does not see what is lost of a value that reads back. -/
theorem looseEqual_reread {value : Value} (readsBack : value.ReadsBack) (other : Value) :
    other.looseEqual value.reread = other.looseEqual value := by
  rw [value.reread_eq_unsigned_iff.mpr readsBack]
  exact Alike.looseEqual ⟨rfl, rfl, rfl, rfl⟩ value.alike_unsigned

/-- What is equal to a number is a number at the same place. -/
theorem position_toNumber_of_looseEqual {value : Value} {n : Double}
    (equal : value.looseEqual (number n) = true) : value.toNumber.position = n.position := by
  have found : value.isNullish = false := by
    rw [Bool.eq_false_iff]
    intro nullish
    rw [looseEqual_of_isNullish (.inl nullish)] at equal
    exact absurd (Bool.and_eq_true_iff.mp equal).2 Bool.false_ne_true
  rw [looseEqual_of_number found rfl (.inr rfl)] at equal
  exact Double.position_eq_of_equal equal

/-- **A scalar that is equal to what it is reread as reads back**, even if only some third value is
equal to both. -/
theorem readsBack_of_looseEqual {value other : Value} (scalar : value.isScalar = true)
    (equal : other.looseEqual value = true) (equalReread : other.looseEqual value.reread = true) :
    value.ReadsBack := by
  rcases scalar_cases scalar with rfl | ⟨b, rfl⟩ | ⟨negative, m, rfl⟩ | ⟨s, rfl⟩
  · exact List.forall_mem_nil _
  · exact List.forall_mem_nil _
  · have place := (position_toNumber_of_looseEqual equalReread).symm.trans
      (position_toNumber_of_looseEqual equal)
    exact List.forall_mem_singleton.mpr (Double.reread_of_position_eq place)
  · exact List.forall_mem_nil _

theorem isUnwritten_of_isScalar {value : Value} (scalar : value.isScalar = true) :
    value.isUnwritten = false := by
  rcases scalar_cases scalar with rfl | ⟨b, rfl⟩ | ⟨negative, m, rfl⟩ | ⟨s, rfl⟩ <;> rfl

theorem distinct_of_isScalar {value : Value} (scalar : value.isScalar = true) :
    value.Distinct := by
  rcases scalar_cases scalar with rfl | ⟨b, rfl⟩ | ⟨negative, m, rfl⟩ | ⟨s, rfl⟩ <;> trivial

theorem shallow_of_isScalar {value : Value} (scalar : value.isScalar = true) :
    value.depth ≤ Json.Reader.greatestDepth := by
  rcases scalar_cases scalar with rfl | ⟨b, rfl⟩ | ⟨negative, m, rfl⟩ | ⟨s, rfl⟩ <;>
    exact Nat.zero_le _

end Value

/-! ## The text of a scalar as a literal -/

/-- The text of a document does not begin with a space. -/
theorem Json.stops_chars {json : Json} (canonical : json.Canonical) :
    Stops isFieldSpace json.chars := by
  cases json with
  | null => exact stops_cons (by decide) _
  | bool b => cases b <;> exact stops_cons (by decide) _
  | string s => exact stops_cons (by decide) _
  | list items => exact stops_cons (by decide) _
  | object entries => exact stops_cons (by decide) _
  | number n =>
      obtain ⟨negative, numeral, wellFormed, text⟩ := JsonNumber.exists_numeral canonical
      have apart : ∀ c, Token.isWordChar c = true → isFieldSpace c = false := by
        intro c member
        simp only [Token.isWordChar, Token.isSpace, Bool.and_eq_true, Bool.not_eq_true',
          Bool.or_eq_false_iff] at member
        simp [isFieldSpace, member]
      have stops := (Token.run_signedNumeral wellFormed negative).stops apart []
      rwa [List.append_nil, ← text] at stops

namespace Value

/-- The text of a value with a backslash before every protected character. -/
def asLiteral (value : Value) : String :=
  String.ofList (Literal.escape value.serialize.toList)

theorem stops_serialize {value : Value} (scalar : value.isScalar = true) :
    Stops isFieldSpace value.serialize.toList := by
  obtain ⟨json, text, -, document⟩ := exists_serialize (isUnwritten_of_isScalar scalar)
    (distinct_of_isScalar scalar) (shallow_of_isScalar scalar)
  rw [text, Json.text, String.toList_ofList]
  exact Json.stops_chars document.canonical

theorem norm_of_isScalar {value : Value} (scalar : value.isScalar = true) :
    value.norm = value.unsigned := by
  rcases scalar_cases scalar with rfl | ⟨b, rfl⟩ | ⟨negative, m, rfl⟩ | ⟨s, rfl⟩ <;> rfl

/-- The text of a scalar is read as the scalar reread. -/
theorem literal_serialize {value : Value} (scalar : value.isScalar = true) :
    Literal.ofText value.serialize = .structured value.reread := by
  rw [Literal.ofText, decode_of_written (isUnwritten_of_isScalar scalar)
    (distinct_of_isScalar scalar) (shallow_of_isScalar scalar), norm_of_isScalar scalar,
    reread_unsigned]

end Value

/-! ## Searching -/

/-- A filter that is written behind the key of a list searches the list. -/
theorem query_filter (draft : FilterDraft) {key : String} (nonempty : key ≠ "")
    (parenthesis : '(' ∉ key.toList) (apart : Unseparated key.toList) {root : Value}
    {items : List Value} (found : root.lookup key = .list items) (answers : Answers) :
    query root (String.ofList (key.toList ++ draft.chars)) false answers =
      ⟨.ok (draft.filter.run items).serialize, [], []⟩ := by
  have letters : key.toList ≠ [] := fun none => nonempty (String.toList_inj.mp none)
  have whole : key.toList ++ draft.chars ≠ [] := by simp [letters]
  have text : Unseparated (key.toList ++ draft.chars) :=
    apart.append draft.unseparated_chars (by simp [FilterDraft.chars, groupText])
  have reads := reads_of_groups letters parenthesis (.filter draft.grammar)
  rw [String.ofList_toList] at reads
  have path := ofText_of_unseparated text whole ((reads_iff whole).mpr reads)
  have applied : Segment.apply ⟨key, some draft.filter, none⟩ root =
      .ok (draft.filter.run items) := by
    rw [Segment.apply, found]
    rfl
  rw [query, path]
  simp only [evaluate, resolve_singleton, applied]
  rfl

/-- What is true of an item is true of a first item, which both searches find. -/
theorem exists_first {α : Type} {p : α → Bool} {items : List α} {element : α} {j : Nat}
    (place : items[j]? = some element) (holds : p element = true) :
    ∃ i item, i ≤ j ∧ items[i]? = some item ∧ p item = true ∧
      items.findIdx? p = some i ∧ items.find? p = some item := by
  have member : element ∈ items.filter p :=
    List.mem_filter.mpr ⟨List.mem_of_getElem? place, holds⟩
  obtain ⟨i, item, index, first, at_i, accepted, earlier⟩ :=
    exists_first_match (List.ne_nil_of_mem member)
  refine ⟨i, item, Nat.le_of_not_lt fun later => ?_, at_i, accepted, index, first⟩
  exact absurd holds (Bool.eq_false_iff.mp (earlier j later element place))

theorem Filter.accepts_equal {filter : Filter} (rule : filter.rule = .equal) (item : Value) :
    filter.accepts item = (item.lookup filter.property).looseEqual filter.literal.value := by
  rw [accepts, rule]
  rfl

/-- Where a filter is written with the text of a scalar, it asks for the scalar reread. -/
theorem FilterDraft.accepts_equal {draft : FilterDraft} {value : Value}
    (rule : draft.rule = .equal) (literal : draft.literal = value.serialize)
    (scalar : value.isScalar = true) (item : Value) :
    draft.filter.accepts item = (item.lookup draft.property).looseEqual value.reread := by
  have whole : value.serialize.toList.dropWhile isFieldSpace = value.serialize.toList :=
    @dropWhile_append _ [] _ nofun (Value.stops_serialize scalar)
  have read : draft.filter.literal = .structured value.reread := by
    rw [FilterDraft.filter, literal, whole, String.ofList_toList, Value.literal_serialize scalar]
  rw [Filter.accepts_equal rule, read, Literal.value]
  rfl

/-- The search for items whose property is equal to a value, by the text of the value. -/
def Value.equalDraft (value : Value) (search : Search) (property : String)
    (name : Name property.toList) (unseparated : Unseparated value.asLiteral.toList) :
    FilterDraft where
  search := search
  property := property
  rule := .equal
  literal := value.serialize
  name := name
  unseparated := by
    rwa [asLiteral, String.toList_ofList, unseparated_escape_iff] at unseparated

theorem Value.text_equalDraft {value : Value} {search : Search} {property : String}
    {name : Name property.toList} {unseparated : Unseparated value.asLiteral.toList} (key : String)
    {opening : String} (opens : opening.toList = '(' :: (search.word.toList ++ [' '])) :
    key ++ opening ++ property ++ " eq " ++ value.asLiteral ++ ")" =
      String.ofList (key.toList ++ (value.equalDraft search property name unseparated).chars) := by
  rw [← String.toList_inj]
  simp [FilterDraft.chars, FilterDraft.body, groupText, equalDraft, asLiteral, Rule.word, opens]

/-- A search for a place that gives the text of an index has found the index. -/
theorem Filter.findIdx?_of_run {filter : Filter} {items : List Value} {i : Nat}
    (search : filter.search = .findIndex) (short : items.length < 2 ^ Magnitude.precision)
    (text : (filter.run items).serialize = toString i) :
    items.findIdx? filter.accepts = some i := by
  cases found : items.findIdx? filter.accepts with
  | none =>
      have given : filter.run items = .number (.ofInt (-1)) := by
        rw [run, search]
        simp only [found]
      have minusOne : (Value.number (.ofInt (-1))).serialize = "-1" := by decide +kernel
      have digit : '-'.isDigit = true := by
        refine (run_toDigits i).members '-' ?_
        rw [← toList_toString, ← text, given, minusOne]
        decide
      exact absurd digit (by decide)
  | some place =>
      have inside := (List.findIdx?_eq_some_iff_getElem.mp found).1
      have small := Value.le_greatestInteger_of_place (List.getElem?_eq_getElem inside) short
      rw [run_findIndex search found, Value.serialize_ofInt small] at text
      rw [eq_of_toString_eq text]

/-- **The text of a property finds an item that has it**, exactly if the property reads back. In a
list under a key, take a property of an item that is a scalar, and search for items whose property
is equal to its text as a literal. If the property reads back, as it does unless it is a number that
is not plain, the search finds an item that is no later, whose property is equal to the one taken.
If it does not, no such item is found. -/
theorem query_find_serialized {entries : List (String × Value)} {key property : String}
    {items : List Value} {element : Value} {j : Nat}
    (found : entries.lookup key = some (.list items)) (nonempty : key ≠ "")
    (parenthesis : '(' ∉ key.toList) (apart : Unseparated key.toList)
    (short : items.length < 2 ^ Magnitude.precision) (name : Name property.toList)
    (place : items[j]? = some element) (scalar : (element.lookup property).isScalar = true)
    (literal : Unseparated (element.lookup property).asLiteral.toList) (answers : Answers) :
    let taken := element.lookup property
    let finds := ∃ i item, i ≤ j ∧ items[i]? = some item ∧
      (item.lookup property).looseEqual taken = true ∧
      query (.map entries) (key ++ "(findIndex " ++ property ++ " eq " ++ taken.asLiteral ++ ")")
        false answers = ⟨.ok (toString i), [], []⟩ ∧
      query (.map entries) (key ++ "(find " ++ property ++ " eq " ++ taken.asLiteral ++ ")")
        false answers = ⟨.ok item.serialize, [], []⟩
    (taken.ReadsBack ↔ finds) ∧ ((∀ n ∈ taken.numbers, n.isPlain = true) → finds) := by
  intro taken finds
  have list : (Value.map entries).lookup key = .list items := by
    rw [Value.lookup, found]
    rfl
  -- Both searches accept the same items and differ only in what they give.
  let draft (search : Search) := taken.equalDraft search property name literal
  have accepts (search : Search) : (draft search).filter.accepts =
      fun item => (item.lookup property).looseEqual taken.reread :=
    funext (FilterDraft.accepts_equal rfl rfl scalar)
  have asked (search : Search) :=
    query_filter (draft search) nonempty parenthesis apart list answers
  have index := asked .findIndex
  have first := asked .find
  rw [← @Value.text_equalDraft _ .findIndex _ name literal key "(findIndex " rfl] at index
  rw [← @Value.text_equalDraft _ .find _ name literal key "(find " rfl] at first
  have sought : taken.ReadsBack → finds := by
    intro readsBack
    have itself : (element.lookup property).looseEqual taken.reread = true := by
      rw [Value.looseEqual_reread readsBack]
      exact Value.looseEqual_self scalar
    obtain ⟨i, item, earlier, at_i, equal, found, found'⟩ := exists_first
      (p := fun item => (item.lookup property).looseEqual taken.reread) place itself
    refine ⟨i, item, earlier, at_i, ?_, ?_, ?_⟩
    · rw [← Value.looseEqual_reread readsBack]
      exact equal
    · rw [index, Filter.run_findIndex rfl (by rw [accepts]; exact found),
        Value.serialize_ofInt (Value.le_greatestInteger_of_place at_i short)]
    · rw [first, Filter.run_find rfl (by rw [accepts]; exact found')]
  refine ⟨⟨sought, ?_⟩, fun plain => sought (Value.readsBack_of_isPlain plain)⟩
  rintro ⟨i, item, -, at_i, equal, given, -⟩
  rw [index] at given
  have text := Except.ok.inj (congrArg Report.result given)
  have found := Filter.findIdx?_of_run rfl short text
  obtain ⟨inside, accepted, -⟩ := List.findIdx?_eq_some_iff_getElem.mp found
  obtain rfl := Option.some.inj ((List.getElem?_eq_getElem inside).symm.trans at_i)
  rw [accepts] at accepted
  exact Value.readsBack_of_looseEqual scalar equal accepted

/-- The text of a string with all kinds of characters that are written in another way, behind a key
that ends in a colon. -/
theorem query_find_serialized_quoted :
    let element := Value.map [("id", .string "(5)\"\\\n:")]
    let items := [Value.undefined, .map [("id", .number .zero)], element]
    ∃ i item, i ≤ 2 ∧ items[i]? = some item ∧
      (item.lookup "id").looseEqual (element.lookup "id") = true ∧
      query (.map [("all:", .list items)]) ("all:" ++ "(findIndex " ++ "id" ++ " eq " ++
        (element.lookup "id").asLiteral ++ ")") false (fun _ => .ok .null) =
        ⟨.ok (toString i), [], []⟩ ∧
      query (.map [("all:", .list items)]) ("all:" ++ "(find " ++ "id" ++ " eq " ++
        (element.lookup "id").asLiteral ++ ")") false (fun _ => .ok .null) =
        ⟨.ok item.serialize, [], []⟩ := by
  intro element items
  have name : Name "id".toList := ⟨nofun, List.all_eq_true.mp rfl⟩
  have apart : Unseparated "all:".toList := by decide +kernel
  have literal : Unseparated (element.lookup "id").asLiteral.toList := by decide +kernel
  exact (@query_find_serialized _ _ _ _ element 2 rfl (by decide) (by decide) apart (by decide) name
    rfl rfl literal _).1.mp (List.forall_mem_nil _)

/-- The only item of a list has the number 110395.43015404869, which is the text and so the literal
as well, and is not found. -/
theorem query_find_serialized_lost :
    let taken := Value.number (.ofBits 0x40faf3b6e1e93636)
    let root := Value.map [("k", .list [.map [("p", taken)]])]
    taken.asLiteral = "110395.43015404869" ∧ Unseparated taken.asLiteral.toList ∧
      ((query root ("k(findIndex p eq " ++ taken.asLiteral ++ ")") false
        (fun _ => .ok .null)).result.toOption = some "-1") := by
  intro taken root
  have written : taken.asLiteral = "110395.43015404869" := by decide +kernel
  rw [written]
  exact ⟨rfl, by decide +kernel, by decide +kernel⟩

end PathQuery
