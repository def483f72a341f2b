import PathQuery.Proofs.Path.Segments
import PathQuery.Proofs.Path.Composition
import PathQuery.Proofs.Value.Zeros
import PathQuery.Query

/-!
# Equal paths

Decoded literals are equal when they are written alike. What a literal of a path stands for was read
from a text, so that equal literals differ in the signs of zeros only
(`Literal.unsigned_value_of_equal`), which no rule sees (`Rule.apply_of_equal`). A path that was
read holds literals of that kind only (`Path.readable_of_ofText`), and so equal paths lead to the
same value or to the same error from every root (`Path.resolve_of_equal`, `query_of_equal`).
-/

set_option autoImplicit false

namespace PathQuery

/-! ## Literals -/

/-- Some text is read as the literal. -/
def Literal.Readable (literal : Literal) : Prop := ∃ text, ofText text = literal

/-- Equal literals stand for the same value but for the signs of zeros. -/
theorem Literal.unsigned_value_of_equal {a b : Literal} (readA : a.Readable) (readB : b.Readable)
    (equal : a.equal b = true) : a.value.unsigned = b.value.unsigned := by
  obtain ⟨s, rfl⟩ := readA
  obtain ⟨t, rfl⟩ := readB
  unfold ofText at equal ⊢
  cases decodedA : Value.ofJsonText? s with
  | some a =>
      cases decodedB : Value.ofJsonText? t with
      | some b =>
          simp only [decodedA, decodedB, Literal.equal, beq_iff_eq] at equal
          exact Value.unsigned_eq_of_serialize_eq decodedA decodedB equal
      | none => simp [decodedA, decodedB, Literal.equal] at equal
  | none =>
      cases decodedB : Value.ofJsonText? t with
      | some b => simp [decodedA, decodedB, Literal.equal] at equal
      | none =>
          simp only [decodedA, decodedB, Literal.equal, beq_iff_eq] at equal
          rw [equal]

/-- A rule makes no difference between equal literals. -/
theorem Rule.apply_of_equal {a b : Literal} (readA : a.Readable) (readB : b.Readable)
    (equal : a.equal b = true) (rule : Rule) (property : Value) :
    rule.apply property a.value = rule.apply property b.value := by
  have same := Literal.unsigned_value_of_equal readA readB equal
  rw [← rule.apply_unsigned_right property a.value, same, rule.apply_unsigned_right]

/-! ## Literals in a path that was read -/

/-- The literal of the segment, if it has one, was read from a text. -/
def Segment.Readable (segment : Segment) : Prop :=
  ∀ filter, segment.filter = some filter → filter.literal.Readable

namespace Grammar

theorem FilterGroup.readable {text : List Char} {filter : Filter}
    (group : FilterGroup text (some filter)) : filter.literal.Readable := by
  cases group with
  | mk _ body =>
      cases body with
      | complete => exact ⟨_, rfl⟩

theorem Groups.readable {text : List Char} {filter : Filter} {property : Option String}
    (groups : Groups text (some filter) property) : filter.literal.Readable := by
  cases groups with
  | filter group => exact group.readable
  | both group _ => exact group.readable

theorem Reads.readable {text : List Char} {segment : Segment} (reads : Reads text segment) :
    segment.Readable := by
  cases reads with
  | split split _ =>
      rintro filter rfl
      obtain ⟨_, _, groups⟩ := split.groups
      exact groups.readable
  | key _ => nofun

end Grammar

/-- The literals of a path that was read were read from texts. -/
theorem Path.readable_of_ofPieces {text : String} : ∀ {pieces : List (List Char)} {index : Nat}
    {path : Path}, ofPieces text index pieces = .ok path → ∀ segment ∈ path, segment.Readable := by
  intro pieces
  induction pieces with
  | nil =>
      rintro index path read segment member
      cases read
      exact nomatch member
  | cons piece pieces ih =>
      intro index path read
      rw [ofPieces] at read
      cases first : Segment.ofChars? piece with
      | none => simp [first] at read
      | some segment =>
          rw [first] at read
          cases others : ofPieces text (index + 1) pieces with
          | error error => simp [others, Except.map] at read
          | ok rest =>
              simp only [others, Except.map, Except.ok.injEq] at read
              subst read
              have nonempty : piece ≠ [] := by
                rintro rfl
                exact nomatch first
              intro segment' member
              rcases List.mem_cons.mp member with rfl | member
              · exact ((Grammar.reads_iff nonempty).mp first).readable
              · exact ih others segment' member

theorem Path.readable_of_ofText {text : String} {path : Path} (read : ofText text = .ok path) :
    ∀ segment ∈ path, segment.Readable := readable_of_ofPieces read

/-! ## Resolving equal paths -/

/-- Equal filters find the same in every value. -/
theorem Filter.apply_of_equal {a b : Filter} (readA : a.literal.Readable)
    (readB : b.literal.Readable) (equal : a.equal b = true) (value : Value) :
    a.apply value = b.apply value := by
  obtain ⟨search, property, rule, a⟩ := a
  obtain ⟨search', property', rule', b⟩ := b
  simp only [Filter.equal, Bool.and_eq_true, beq_iff_eq] at equal
  obtain ⟨⟨⟨rfl, rfl⟩, rfl⟩, literals⟩ := equal
  have accepts : accepts ⟨search, property, rule, a⟩ = accepts ⟨search, property, rule, b⟩ := by
    funext item
    simp only [Filter.accepts, Rule.holds, Rule.apply_of_equal readA readB literals]
  cases value with
  | list items => simp only [apply, run, accepts]
  | _ => rfl

/-- Equal segments make the same of every value. -/
theorem Segment.apply_of_equal {a b : Segment} (readA : a.Readable) (readB : b.Readable)
    (equal : a.equal b = true) (value : Value) : a.apply value = b.apply value := by
  obtain ⟨key, filterA, projection⟩ := a
  obtain ⟨key', filterB, projection'⟩ := b
  simp only [Segment.equal, Bool.and_eq_true, beq_iff_eq] at equal
  obtain ⟨⟨rfl, filters⟩, rfl⟩ := equal
  cases filterA with
  | some filterA =>
      cases filterB with
      | some filterB =>
          have found := Filter.apply_of_equal (readA _ rfl) (readB _ rfl) filters
          simp only [apply, search, found]
          rfl
      | none => exact absurd filters Bool.false_ne_true
  | none =>
      cases filterB with
      | some filterB => exact absurd filters Bool.false_ne_true
      | none => rfl

/-- **Equal paths lead to the same**, value or error, from every root. -/
theorem Path.resolve_of_equal {a b : Path} (readA : ∀ segment ∈ a, segment.Readable)
    (readB : ∀ segment ∈ b, segment.Readable) (equal : a.equal b = true) (root : Value) :
    a.resolve root = b.resolve root := by
  induction a generalizing b root with
  | nil =>
      cases b with
      | nil => rfl
      | cons _ _ => exact nomatch equal
  | cons first a ih =>
      cases b with
      | nil => exact nomatch equal
      | cons first' b =>
          obtain ⟨firsts, rests⟩ := Bool.and_eq_true_iff.mp equal
          obtain ⟨readFirst, readA⟩ := List.forall_mem_cons.mp readA
          obtain ⟨readFirst', readB⟩ := List.forall_mem_cons.mp readB
          have rests (value : Value) : Path.proceed a value = Path.proceed b value := by
            rw [proceed, proceed, ih readA readB rests value]
          rw [resolve_cons, resolve_cons, Segment.apply_of_equal readFirst readFirst' firsts,
            funext rests]

/-- **Equality is a congruence.** Equal literals cannot be told apart by any rule, whatever they are
compared with, and texts that are read as equal paths are the same query on every root. -/
theorem query_of_equal :
    (∀ s t, (Literal.ofText s).equal (.ofText t) = true → ∀ (rule : Rule) (property : Value),
      rule.apply property (Literal.ofText s).value =
        rule.apply property (Literal.ofText t).value) ∧
    ∀ s t path path', Path.ofText s = .ok path → Path.ofText t = .ok path' →
      Path.equal path path' = true → ∀ root : Value,
        path.resolve root = path'.resolve root ∧
        ∀ invoke answers, query root s invoke answers = query root t invoke answers := by
  refine ⟨fun s t equal => Rule.apply_of_equal ⟨s, rfl⟩ ⟨t, rfl⟩ equal, ?_⟩
  intro s t path path' readS readT equal root
  have resolve := Path.resolve_of_equal (Path.readable_of_ofText readS)
    (Path.readable_of_ofText readT) equal root
  refine ⟨resolve, fun invoke answers => ?_⟩
  simp only [query, readS, readT, Path.evaluate, resolve]

/-- Two literals that differ in a space, a sign and a fraction, and paths that differ in them and in
the space before a property. -/
theorem query_of_equal_zeros :
    let root := Value.map [("k", .list [.map [("id", .number (.finite true .zero))]])]
    (Literal.ofText "[1,-0]").equal (.ofText "[1, 0.0]") = true ∧
    (∀ rule : Rule, rule.apply (.string "1,0") (Literal.ofText "[1,-0]").value =
      rule.apply (.string "1,0") (Literal.ofText "[1, 0.0]").value) ∧
    ∃ path path', Path.ofText "k(find id in [1,-0])" = .ok path ∧
      Path.ofText "k(find  id in [1, 0.0])" = .ok path' ∧ Path.equal path path' = true ∧
      path.resolve root = path'.resolve root ∧
      query root "k(find id in [1,-0])" false (fun _ => .ok .null) =
        query root "k(find  id in [1, 0.0])" false (fun _ => .ok .null) := by
  intro root
  have literals : (Literal.ofText "[1,-0]").equal (.ofText "[1, 0.0]") = true := by decide +kernel
  have paths : ((Path.ofText "k(find id in [1,-0])").toOption.bind fun path =>
      (Path.ofText "k(find  id in [1, 0.0])").toOption.map path.equal) = some true := by
    decide +kernel
  cases readS : Path.ofText "k(find id in [1,-0])" with
  | error error => simp [readS, Except.toOption] at paths
  | ok path =>
      cases readT : Path.ofText "k(find  id in [1, 0.0])" with
      | error error => simp [readS, readT, Except.toOption] at paths
      | ok path' =>
          simp only [readS, readT, Except.toOption, Option.bind_some, Option.map_some,
            Option.some.injEq] at paths
          obtain ⟨resolve, run⟩ := query_of_equal.2 _ _ path path' readS readT paths root
          exact ⟨literals, fun rule => query_of_equal.1 _ _ literals rule _, path, path', rfl, rfl,
            paths, resolve, run false _⟩

end PathQuery
