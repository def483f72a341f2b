import PathQuery.Path.Parser

/-!
# Splitting a path at its separators

The pieces of a path are found from the left. A piece that does not contain the separator comes
back as it is, also when its last character is a colon, unless another piece follows: then the
separator would begin one character early. `split_intercalate` is the law for all pieces of a path.
-/

set_option autoImplicit false

namespace PathQuery
namespace Path

/-- The text does not contain the separator of segments. -/
def Unseparated (cs : List Char) : Prop := ¬ [':', ':'] <:+: cs

instance (cs : List Char) : Decidable (Unseparated cs) :=
  inferInstanceAs (Decidable (¬ _))

/-! ## Texts without separators -/

theorem unseparated_nil : Unseparated [] := by decide

theorem unseparated_cons_iff {c : Char} {cs : List Char} :
    Unseparated (c :: cs) ↔ ¬ (c = ':' ∧ cs.head? = some ':') ∧ Unseparated cs := by
  unfold Unseparated
  rw [List.infix_cons_iff, not_or]
  refine and_congr_left fun _ => not_congr ?_
  cases cs with
  | nil => simp
  | cons d cs => simp [eq_comm]

theorem Unseparated.tail {c : Char} {cs : List Char} (text : Unseparated (c :: cs)) :
    Unseparated cs :=
  (unseparated_cons_iff.mp text).2

/-- A character other than a colon may stand before any text. -/
theorem unseparated_cons_of_ne {c : Char} (colon : c ≠ ':') (cs : List Char) :
    Unseparated (c :: cs) ↔ Unseparated cs :=
  ⟨.tail, fun text => unseparated_cons_iff.mpr ⟨fun h => colon h.1, text⟩⟩

/-- A text without colons may stand before any text. -/
theorem unseparated_append_of_notMem {cs : List Char} (colon : ':' ∉ cs) (ds : List Char) :
    Unseparated (cs ++ ds) ↔ Unseparated ds := by
  induction cs with
  | nil => rfl
  | cons c cs ih =>
      rw [List.mem_cons, not_or] at colon
      rw [List.cons_append, unseparated_cons_of_ne (Ne.symm colon.1), ih colon.2]

/-- Two texts may stand together when the second does not begin with a colon. -/
theorem Unseparated.append {cs ds : List Char} (left : Unseparated cs) (right : Unseparated ds)
    (colon : ds.head? ≠ some ':') : Unseparated (cs ++ ds) := by
  induction cs with
  | nil => exact right
  | cons c cs ih =>
      obtain ⟨apart, left⟩ := unseparated_cons_iff.mp left
      refine unseparated_cons_iff.mpr ⟨?_, ih left⟩
      rintro ⟨rfl, next⟩
      cases cs with
      | nil => exact colon next
      | cons d cs => exact apart ⟨rfl, next⟩

/-! ## Splitting -/

/-- A character that does not begin a separator belongs to the first piece. -/
theorem split_cons {c : Char} {cs piece : List Char} {pieces : List (List Char)}
    (apart : ¬ (c = ':' ∧ cs.head? = some ':')) (rest : split cs = piece :: pieces) :
    split (c :: cs) = (c :: piece) :: pieces := by
  rw [split.eq_3 c cs ?_, rest]
  rintro cs rfl rfl
  exact apart ⟨rfl, rfl⟩

theorem split_of_unseparated {cs : List Char} (text : Unseparated cs) : split cs = [cs] := by
  induction cs with
  | nil => rfl
  | cons c cs ih => exact split_cons (unseparated_cons_iff.mp text).1 (ih text.tail)

theorem split_ne_nil (cs : List Char) : split cs ≠ [] := by
  induction cs using split.induct with
  | case1 => exact List.cons_ne_nil _ _
  | case2 rest _ => exact List.cons_ne_nil _ _
  | case3 c rest apart piece pieces pieces_eq _ =>
      rw [split.eq_3 c rest apart, pieces_eq]
      exact List.cons_ne_nil _ _
  | case4 c rest _ none more => exact absurd none more

/-- **Texts with a separator between them are split on their own**, unless the first one ends in a
colon: then a separator would begin in it. The induction is on the way the first text is split, a
character or a whole separator at a time. -/
theorem split_append {cs : List Char} (colon : cs.getLast? ≠ some ':') (rest : List Char) :
    split (cs ++ ':' :: ':' :: rest) = split cs ++ split rest := by
  induction cs using split.induct with
  | case1 => rfl
  | case2 cs ih =>
      have inner : cs.getLast? ≠ some ':' := by
        cases cs with
        | nil => exact nofun
        | cons c cs => rwa [List.getLast?_cons_cons, List.getLast?_cons_cons] at colon
      exact congrArg ([] :: ·) (ih inner)
  | case3 c cs apart piece pieces split_cs ih =>
      have begun : ¬ (c = ':' ∧ cs.head? = some ':') := by
        rintro ⟨rfl, next⟩
        obtain ⟨cs, rfl⟩ := List.head?_eq_some_iff.mp next
        exact apart cs rfl rfl
      rw [split_cons begun split_cs]
      cases cs with
      | nil =>
          cases split_cs
          have ends : c ≠ ':' := fun h => colon (congrArg some h)
          exact split_cons (fun h => ends h.1) (split.eq_2 rest)
      | cons d cs =>
          rw [List.getLast?_cons_cons] at colon
          have inner := ih colon
          rw [split_cs] at inner
          exact split_cons begun inner
  | case4 c cs _ none _ => exact absurd none (split_ne_nil cs)

/-- **Splitting undoes joining** pieces that do not contain the separator and do not end in half
of it. -/
theorem split_intercalate {pieces : List (List Char)} (nonempty : pieces ≠ [])
    (apart : ∀ piece ∈ pieces, Unseparated piece ∧ piece.getLast? ≠ some ':') :
    split ([':', ':'].intercalate pieces) = pieces := by
  induction pieces with
  | nil => exact absurd rfl nonempty
  | cons piece pieces ih =>
      obtain ⟨text, colon⟩ := apart piece (by simp)
      cases pieces with
      | nil =>
          rw [List.intercalate_singleton]
          exact split_of_unseparated text
      | cons next pieces =>
          have joined : [':', ':'].intercalate (piece :: next :: pieces) =
              piece ++ ':' :: ':' :: [':', ':'].intercalate (next :: pieces) := by
            rw [List.intercalate_cons_cons, List.append_assoc]
            rfl
          rw [joined, split_append colon, split_of_unseparated text,
            ih (by simp) fun piece member => apart piece (List.mem_cons_of_mem _ member)]
          rfl

/-! ## Pieces of a path -/

/-- Pieces that are read as segments one by one make a path. -/
theorem ofPieces_map {α : Type} (chars : α → List Char) (segment : α → Segment)
    (read : ∀ item, Segment.ofChars? (chars item) = some (segment item)) (path : String)
    (items : List α) (index : Nat) :
    ofPieces path index (items.map chars) = .ok (items.map segment) := by
  induction items generalizing index with
  | nil => rfl
  | cons item items ih =>
      rw [List.map_cons, ofPieces, read]
      simp only [ih, Except.map, List.map_cons]

/-- A text without separators is a path of one segment. -/
theorem ofText_of_unseparated {path : List Char} {segment : Segment} (text : Unseparated path)
    (nonempty : path ≠ []) (read : Segment.ofChars? path = some segment) :
    ofText (String.ofList path) = .ok [segment] := by
  have filled : (String.ofList path).isEmpty = false := by
    rw [String.isEmpty_eq_false_iff]
    intro h
    exact nonempty (by simpa using congrArg String.toList h)
  have one : pieces (String.ofList path) = [path] := by
    simp only [pieces, filled, String.toList_ofList, split_of_unseparated text]
    rfl
  rw [ofText, one]
  exact ofPieces_map (fun _ => path) (fun _ => segment) (fun _ => read) _ [()] 0

end Path
end PathQuery
