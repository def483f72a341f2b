import PathQuery.Proofs.Path.Segments
import PathQuery.Proofs.Path.Splitting

/-!
# Writing paths

A `SegmentDraft` is a segment before it is written: its literal is any text, and its parts fit into
a path. The draft of a key has no opening parenthesis, so that no group can be found inside it, and
it neither contains a separator nor ends in half of one.

A draft is written with backslashes before the protected characters of its literal. What is read
back from the drafts of a path is the segments they stand for (`ofText_text`), where a literal has
lost the white space in front of it.
-/

set_option autoImplicit false

namespace PathQuery

open Grammar PathQuery.Path Text

/-! ## Drafts -/

/-- A filter before it is written. -/
structure FilterDraft where
  search : Search
  property : String
  rule : Rule
  /-- What the literal stands for. -/
  literal : String
  name : Name property.toList
  unseparated : Unseparated literal.toList

/-- The property of a projection before it is written. -/
structure ProjectionDraft where
  property : String
  name : Name property.toList

/-- A segment before it is written. -/
structure SegmentDraft where
  key : String
  filter : Option FilterDraft
  projection : Option ProjectionDraft
  nonempty : key ≠ ""
  parenthesis : '(' ∉ key.toList
  unseparated : Unseparated key.toList
  colon : key.toList.getLast? ≠ some ':'

/-- What stands between the keyword of a filter and the end of its group. -/
def FilterDraft.body (draft : FilterDraft) : List Char :=
  ' ' :: (draft.property.toList ++ ' ' :: (draft.rule.word.toList ++
    ' ' :: Literal.escape draft.literal.toList))

/-- The group of a filter. -/
def FilterDraft.chars (draft : FilterDraft) : List Char :=
  groupText draft.search.word.toList draft.body

/-- The group of a projection. -/
def ProjectionDraft.chars (draft : ProjectionDraft) : List Char :=
  groupText "map".toList (' ' :: draft.property.toList)

namespace SegmentDraft

/-- The groups behind the key. -/
def tail (draft : SegmentDraft) : List Char :=
  (draft.filter.map (·.chars)).getD [] ++ (draft.projection.map (·.chars)).getD []

/-- The segment as it is written. -/
def chars (draft : SegmentDraft) : List Char := draft.key.toList ++ draft.tail

end SegmentDraft

/-- The filter that a draft stands for. -/
def FilterDraft.filter (draft : FilterDraft) : Filter :=
  ⟨draft.search, draft.property, draft.rule,
    .ofText (String.ofList (draft.literal.toList.dropWhile isFieldSpace))⟩

/-- The segment that a draft stands for. -/
def SegmentDraft.segment (draft : SegmentDraft) : Segment :=
  ⟨draft.key, draft.filter.map (·.filter), draft.projection.map (·.property)⟩

/-- The drafts of a path as they are written, with separators between them. -/
def Path.text (drafts : List SegmentDraft) : String :=
  String.ofList ([':', ':'].intercalate (drafts.map (·.chars)))

/-! ## Literals -/

theorem spells_escape (cs : List Char) : Spells (Literal.escape cs) cs := by
  induction cs with
  | nil => exact .nil
  | cons c cs ih =>
      rw [Literal.escape_cons]
      by_cases h : isProtected c
      · rw [if_pos h]
        exact .escaped h ih
      · have parenthesis : c ≠ ')' := by
          rintro rfl
          exact h (by decide)
        rw [if_neg h]
        exact .plain (ne_backslash_of_not_isProtected h) parenthesis ih

theorem escape_append (cs ds : List Char) :
    Literal.escape (cs ++ ds) = Literal.escape cs ++ Literal.escape ds := by
  simp [Literal.escape]

/-- No backslash stands before a space. -/
theorem escape_of_isFieldSpace {cs : List Char} (space : ∀ c ∈ cs, isFieldSpace c = true) :
    Literal.escape cs = cs := by
  induction cs with
  | nil => rfl
  | cons c cs ih =>
      have plain : isProtected c = false := by
        rcases isFieldSpace_cases (space c (by simp)) with rfl | rfl | rfl | rfl <;> decide
      rw [Literal.escape_cons, ih fun d hd => space d (List.mem_cons_of_mem c hd), plain]
      rfl

theorem stops_escape {cs : List Char} (stops : Stops isFieldSpace cs) :
    Stops isFieldSpace (Literal.escape cs) := by
  cases cs with
  | nil => exact stops_nil _
  | cons c cs =>
      rw [Literal.escape_cons]
      split
      · exact stops_cons (by decide) _
      · exact stops_cons (stops c rfl) _

theorem colon_not_isProtected : ¬ isProtected ':' := by decide

theorem head?_escape_iff {cs : List Char} :
    (Literal.escape cs).head? = some ':' ↔ cs.head? = some ':' := by
  cases cs with
  | nil => rfl
  | cons c cs =>
      rw [Literal.escape_cons]
      split
      · next h =>
          have colon : c ≠ ':' := fun same => colon_not_isProtected (same ▸ h)
          simp [colon]
      · rfl

/-- Backslashes neither put a separator into a text nor break one up. -/
theorem unseparated_escape_iff {cs : List Char} :
    Unseparated (Literal.escape cs) ↔ Unseparated cs := by
  induction cs with
  | nil => rfl
  | cons c cs ih =>
      rw [Literal.escape_cons]
      split
      · next h =>
          have colon : c ≠ ':' := fun same => colon_not_isProtected (same ▸ h)
          have backslash : '\\' ≠ ':' := by decide
          exact (unseparated_cons_of_ne backslash _).trans <|
            (unseparated_cons_of_ne colon _).trans <| ih.trans (unseparated_cons_of_ne colon _).symm
      · rw [List.singleton_append, unseparated_cons_iff, unseparated_cons_iff, ih,
          head?_escape_iff]

/-! ## Groups -/

theorem keyword_toList (word : String) : Keyword word word.toList := rfl

theorem space_singleton : Space [' '] :=
  ⟨by simp, by simp [isFieldSpace]⟩

/-- White space at the head of a literal stays in front when the literal is written. -/
theorem escape_eq_append (cs : List Char) :
    Literal.escape cs =
      cs.takeWhile isFieldSpace ++ Literal.escape (cs.dropWhile isFieldSpace) := by
  have space : ∀ c ∈ cs.takeWhile isFieldSpace, isFieldSpace c = true :=
    fun c hc => List.all_eq_true.mp List.all_takeWhile c hc
  calc Literal.escape cs
      = Literal.escape (cs.takeWhile isFieldSpace ++ cs.dropWhile isFieldSpace) := by
        rw [List.takeWhile_append_dropWhile]
    _ = cs.takeWhile isFieldSpace ++ Literal.escape (cs.dropWhile isFieldSpace) := by
        rw [escape_append, escape_of_isFieldSpace space]

/-- A draft is written as a complete group, whose literal begins at the first character that is
not a space. -/
theorem FilterDraft.grammar (draft : FilterDraft) :
    FilterGroup draft.chars (some draft.filter) := by
  refine .mk (keyword_toList _) ?_
  have space₃ : Space (' ' :: draft.literal.toList.takeWhile isFieldSpace) := by
    refine ⟨by simp, fun c hc => ?_⟩
    obtain rfl | hc := List.mem_cons.mp hc
    · decide
    · exact List.all_eq_true.mp List.all_takeWhile c hc
  have stops : Stops isFieldSpace (draft.literal.toList.dropWhile isFieldSpace) :=
    stops_dropWhile _ _
  have complete : FilterBody draft.search _ (some _) :=
    .complete space_singleton draft.name space_singleton (keyword_toList draft.rule.word) space₃
      (stops_escape stops) (spells_escape _)
  rw [String.ofList_toList] at complete
  have body : draft.body = [' '] ++ (draft.property.toList ++ ([' '] ++
      (draft.rule.word.toList ++ ((' ' :: draft.literal.toList.takeWhile isFieldSpace) ++
        Literal.escape (draft.literal.toList.dropWhile isFieldSpace))))) := by
    rw [FilterDraft.body, escape_eq_append]
    rfl
  rw [body]
  exact complete

theorem ProjectionDraft.grammar (draft : ProjectionDraft) :
    ProjectionGroup draft.chars (some draft.property) := by
  have complete := ProjectionBody.complete space_singleton draft.name
  rw [String.ofList_toList] at complete
  exact .mk (keyword_toList _) complete

/-! ## Segments -/

/-- Behind a key without parentheses the first groups are found. -/
theorem reads_of_groups {key tail : List Char} {filter : Option Filter}
    {property : Option String} (nonempty : key ≠ []) (parenthesis : '(' ∉ key)
    (groups : Groups tail filter property) :
    Reads (key ++ tail) ⟨String.ofList key, filter, property⟩ := by
  refine .split ⟨nonempty, tail, rfl, groups⟩ ?_
  rintro key' filter' property' ⟨_, tail', same, groups'⟩
  obtain ⟨rest, rfl⟩ := head_of_groups groups'
  -- A shorter key would have the parenthesis of its groups inside the given one.
  rcases List.append_eq_append_iff.mp same with ⟨between, rfl, -⟩ | ⟨between, rfl, behind⟩
  · simp
  · cases between with
    | nil => simp
    | cons c between =>
        obtain rfl : '(' = c := (List.cons.inj behind).1
        exact absurd (by simp) parenthesis

/-- A text without parentheses is a key. -/
theorem reads_of_notMem {text : List Char} (parenthesis : '(' ∉ text) :
    Reads text (.ofKey (String.ofList text)) := by
  refine .key ?_
  rintro key filter property ⟨_, tail, rfl, groups⟩
  obtain ⟨rest, rfl⟩ := head_of_groups groups
  exact parenthesis (by simp)

namespace SegmentDraft

theorem key_ne_nil (draft : SegmentDraft) : draft.key.toList ≠ [] :=
  fun h => draft.nonempty (String.toList_inj.mp h)

theorem chars_ne_nil (draft : SegmentDraft) : draft.chars ≠ [] := by
  simp [chars, draft.key_ne_nil]

/-- A draft is written as the segment it stands for. -/
theorem reads (draft : SegmentDraft) : Reads draft.chars draft.segment := by
  have behind {filter : Option Filter} {property : Option String}
      (groups : Groups draft.tail filter property) :
      Reads draft.chars ⟨draft.key, filter, property⟩ := by
    have reads := reads_of_groups draft.key_ne_nil draft.parenthesis groups
    rwa [String.ofList_toList] at reads
  unfold segment
  cases filter : draft.filter with
  | none =>
      cases projection : draft.projection with
      | none =>
          have plain := reads_of_notMem draft.parenthesis
          simpa [chars, tail, filter, projection, Segment.ofKey] using plain
      | some projection' =>
          refine behind ?_
          simpa [tail, filter, projection] using .projection projection'.grammar
  | some filter' =>
      cases projection : draft.projection with
      | none =>
          refine behind ?_
          simpa [tail, filter, projection] using .filter filter'.grammar
      | some projection' =>
          refine behind ?_
          simpa [tail, filter, projection] using .both filter'.grammar projection'.grammar

end SegmentDraft

/-! ## Separators -/

theorem colon_notMem_name {property : List Char} (name : Name property) : ':' ∉ property :=
  fun member => absurd (name.members ':' member) (by decide)

theorem colon_notMem_letters {word : List Char} (letters : Run Char.isAlpha word) : ':' ∉ word :=
  fun member => absurd (letters.members ':' member) (by decide)

/-- The text of a group holds a separator only if its body does. -/
theorem unseparated_groupText {keyword body : List Char} (letters : Run Char.isAlpha keyword)
    (text : Unseparated body) : Unseparated (groupText keyword body) := by
  rw [groupText, unseparated_cons_of_ne (by decide),
    unseparated_append_of_notMem (colon_notMem_letters letters)]
  exact text.append (by decide) (by decide)

theorem getLast?_groupText (keyword body : List Char) :
    (groupText keyword body).getLast? = some ')' := by
  rw [groupText, ← List.append_assoc, ← List.cons_append, List.getLast?_concat]

theorem FilterDraft.unseparated_chars (draft : FilterDraft) : Unseparated draft.chars := by
  refine unseparated_groupText (keyword_toList _).run_search ?_
  have space : ' ' ≠ ':' := by decide
  rw [body, unseparated_cons_of_ne space,
    unseparated_append_of_notMem (colon_notMem_name draft.name), unseparated_cons_of_ne space,
    unseparated_append_of_notMem (colon_notMem_letters (keyword_toList draft.rule.word).run_rule),
    unseparated_cons_of_ne space, unseparated_escape_iff]
  exact draft.unseparated

theorem ProjectionDraft.unseparated_chars (draft : ProjectionDraft) :
    Unseparated draft.chars := by
  refine unseparated_groupText (keyword_toList _).run_map ?_
  have property := unseparated_append_of_notMem (colon_notMem_name draft.name) []
  rw [List.append_nil] at property
  rw [unseparated_cons_of_ne (by decide)]
  exact property.mpr unseparated_nil

namespace SegmentDraft

/-- Groups stand between parentheses. -/
theorem tail_cases (draft : SegmentDraft) :
    draft.tail = [] ∨ draft.tail.head? = some '(' ∧ draft.tail.getLast? = some ')' := by
  unfold tail
  cases draft.filter with
  | none =>
      cases draft.projection with
      | none => exact .inl rfl
      | some projection => exact .inr ⟨rfl, getLast?_groupText _ _⟩
  | some filter =>
      cases draft.projection with
      | none => exact .inr ⟨rfl, by simp [FilterDraft.chars, getLast?_groupText]⟩
      | some projection =>
          refine .inr ⟨rfl, ?_⟩
          simp [ProjectionDraft.chars, getLast?_groupText]

theorem unseparated_tail (draft : SegmentDraft) : Unseparated draft.tail := by
  unfold tail
  cases draft.filter with
  | none =>
      cases draft.projection with
      | none => exact unseparated_nil
      | some projection => exact projection.unseparated_chars
  | some filter =>
      cases draft.projection with
      | none => simpa using filter.unseparated_chars
      | some projection =>
          have apart : projection.chars.head? ≠ some ':' := by
            simp [ProjectionDraft.chars, groupText]
          exact filter.unseparated_chars.append projection.unseparated_chars apart

/-- No separator begins or lies inside a segment that is written. -/
theorem apart (draft : SegmentDraft) :
    Unseparated draft.chars ∧ draft.chars.getLast? ≠ some ':' := by
  unfold chars
  rcases draft.tail_cases with none | ⟨first, last⟩
  · rw [none, List.append_nil]
    exact ⟨draft.unseparated, draft.colon⟩
  · refine ⟨draft.unseparated.append draft.unseparated_tail (by simp [first]), ?_⟩
    simp [last]

end SegmentDraft

/-- **Writing and then reading a path gives its segments back**, in their order, each with its key,
its filter and its projection. -/
theorem Path.ofText_text (drafts : List SegmentDraft) :
    Path.ofText (Path.text drafts) = .ok (drafts.map (·.segment)) := by
  cases drafts with
  | nil => rfl
  | cons draft drafts =>
      have split : Path.split ([':', ':'].intercalate ((draft :: drafts).map (·.chars))) =
          (draft :: drafts).map (·.chars) := by
        refine split_intercalate (by simp) fun piece member => ?_
        obtain ⟨draft', -, rfl⟩ := List.mem_map.mp member
        exact draft'.apart
      have filled : (Path.text (draft :: drafts)).isEmpty = false := by
        rw [String.isEmpty_eq_false_iff]
        intro empty
        have none : [':', ':'].intercalate ((draft :: drafts).map (·.chars)) = [] := by
          simpa [Path.text] using congrArg String.toList empty
        rw [none] at split
        exact draft.chars_ne_nil (List.cons.inj split).1.symm
      have pieces : Path.pieces (Path.text (draft :: drafts)) =
          (draft :: drafts).map (·.chars) := by
        rw [Path.pieces, filled, Path.text, String.toList_ofList, split]
        rfl
      rw [Path.ofText, pieces]
      refine ofPieces_map SegmentDraft.chars SegmentDraft.segment (fun draft => ?_) _ _ 0
      exact (reads_iff draft.chars_ne_nil).mpr draft.reads

/-- A filter and a projection behind one key, where the literal holds parentheses and ends in a
backslash, and an index behind them. -/
theorem Path.ofText_text_escaped :
    let text := "all(filter id eq f\\(a\\)\\\\)(map name)::0"
    ∃ (filter : FilterDraft) (projection : ProjectionDraft) (first last : SegmentDraft),
      first.filter = some filter ∧ first.projection = some projection ∧
      filter.literal = "f(a)\\" ∧ Path.text [first, last] = text ∧
      Path.ofText text =
        .ok [⟨"all", some ⟨.filter, "id", .equal, .raw "f(a)\\"⟩, some "name"⟩, .ofKey "0"] := by
  intro text
  let filter : FilterDraft :=
    ⟨.filter, "id", .equal, "f(a)\\", ⟨nofun, List.all_eq_true.mp rfl⟩, by decide +kernel⟩
  let projection : ProjectionDraft := ⟨"name", ⟨nofun, List.all_eq_true.mp rfl⟩⟩
  let first : SegmentDraft :=
    ⟨"all", some filter, some projection, by decide, by decide, by decide +kernel, by decide⟩
  let last : SegmentDraft := ⟨"0", none, none, by decide, by decide, by decide +kernel, by decide⟩
  have written : Path.text [first, last] = text := by decide +kernel
  have undecoded : Value.ofJsonText? "f(a)\\" = none := by decide +kernel
  have kept : String.ofList (filter.literal.toList.dropWhile isFieldSpace) = "f(a)\\" := by
    decide +kernel
  have stands : filter.filter = ⟨.filter, "id", .equal, .raw "f(a)\\"⟩ := by
    rw [FilterDraft.filter, kept, Literal.ofText, undecoded]
  have read := Path.ofText_text [first, last]
  rw [written, List.map_cons, SegmentDraft.segment, Option.map_some, stands] at read
  exact ⟨filter, projection, first, last, rfl, rfl, rfl, written, read⟩

end PathQuery
