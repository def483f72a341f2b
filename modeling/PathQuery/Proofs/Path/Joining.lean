import PathQuery.Proofs.Path.Splitting

/-!
# Paths joined by a separator

A path is read piece by piece, and what goes wrong is told by the place of its first empty piece
(`ofText_eq`). The pieces of two texts with a separator between them are those of the one and then
those of the other, unless the first text ends in a colon. So reading the joined text reads both
texts, and counts the pieces of the second after those of the first (`ofText_joined`).
-/

set_option autoImplicit false

namespace PathQuery

theorem Segment.ofChars?_eq_none_iff {text : List Char} : ofChars? text = none ↔ text = [] := by
  cases text with
  | nil => exact iff_of_true rfl rfl
  | cons c text =>
      refine iff_of_false ?_ (List.cons_ne_nil c text)
      rw [ofChars?, List.isEmpty_cons, if_neg Bool.false_ne_true]
      split <;> exact Option.some_ne_none _

namespace Path

/-! ## The first empty piece -/

/-- Reading pieces fails at the first empty one, or reads them all. -/
theorem ofPieces_eq (path : String) (index : Nat) (pieces : List (List Char)) :
    ofPieces path index pieces =
      (pieces.findIdx? List.isEmpty).elim (.ok (pieces.filterMap Segment.ofChars?))
        fun place => .error (.malformedSegment path (index + place)) := by
  induction pieces generalizing index with
  | nil => rfl
  | cons piece pieces ih =>
      rw [ofPieces, List.findIdx?_cons]
      cases read : Segment.ofChars? piece with
      | none =>
          rw [Segment.ofChars?_eq_none_iff.mp read]
          rfl
      | some segment =>
          have filled : piece.isEmpty = false := by
            rw [List.isEmpty_eq_false_iff]
            intro empty
            rw [Segment.ofChars?_eq_none_iff.mpr empty] at read
            exact Option.some_ne_none segment read.symm
          rw [filled, ih, List.filterMap_cons_some read]
          cases pieces.findIdx? List.isEmpty with
          | some place =>
              rw [Option.elim_some, Nat.add_right_comm]
              rfl
          | none => rfl

variable {path s t : String}

/-- The pieces of a text that is not empty. -/
theorem ofText_eq (filled : path ≠ "") :
    ofText path =
      ((split path.toList).findIdx? List.isEmpty).elim
        (.ok ((split path.toList).filterMap Segment.ofChars?))
        fun place => .error (.malformedSegment path place) := by
  have pieces : pieces path = split path.toList :=
    if_neg (by rwa [String.isEmpty_iff])
  rw [ofText, pieces, ofPieces_eq]
  simp only [Nat.zero_add]

/-- What goes wrong in reading a path is told by the path and the place of its first empty piece. -/
theorem ofText_eq_error_iff {error : QueryError} :
    ofText path = .error error ↔ path ≠ "" ∧ ∃ place,
      (split path.toList).findIdx? List.isEmpty = some place ∧
        error = .malformedSegment path place := by
  by_cases filled : path = ""
  · subst filled
    exact iff_of_false nofun fun h => h.1 rfl
  · rw [ofText_eq filled]
    cases (split path.toList).findIdx? List.isEmpty with
    | some place => simp [filled, eq_comm]
    | none => simp

/-- A path that is read has a segment for every piece, and no piece is empty. -/
theorem of_ofText_eq_ok {segments : Path} (filled : path ≠ "") (read : ofText path = .ok segments) :
    (split path.toList).findIdx? List.isEmpty = none ∧
      segments = (split path.toList).filterMap Segment.ofChars? ∧
      segments.length = (split path.toList).length := by
  rw [ofText_eq filled] at read
  cases found : (split path.toList).findIdx? List.isEmpty with
  | some place =>
      rw [found] at read
      exact nomatch read
  | none =>
      rw [found] at read
      cases read
      refine ⟨rfl, rfl, List.filterMap_length_eq_length.mpr fun piece member => ?_⟩
      rw [Option.isSome_iff_ne_none, ne_eq, Segment.ofChars?_eq_none_iff, ← List.isEmpty_iff,
        List.findIdx?_eq_none_iff.mp found piece member]
      exact Bool.false_ne_true

/-! ## Joining -/

theorem toList_joined (s t : String) :
    (s ++ "::" ++ t).toList = s.toList ++ ':' :: ':' :: t.toList := by
  simp

theorem joined_ne_empty (s t : String) : s ++ "::" ++ t ≠ "" := by
  intro empty
  have chars := congrArg String.toList empty
  rw [toList_joined] at chars
  exact absurd chars (by simp)

/-- The first empty piece of a joined text is that of the first text, or that of the second, counted
after all pieces of the first. -/
theorem findIdx?_split_joined (colon : s.toList.getLast? ≠ some ':') :
    (split (s ++ "::" ++ t).toList).findIdx? List.isEmpty =
      ((split s.toList).findIdx? List.isEmpty).or
        (((split t.toList).findIdx? List.isEmpty).map (· + (split s.toList).length)) := by
  rw [toList_joined, split_append colon, List.findIdx?_append]

theorem ofText_joined_of_error (colon : s.toList.getLast? ≠ some ':') {place : Nat}
    (failed : ofText s = .error (.malformedSegment s place)) :
    ofText (s ++ "::" ++ t) = .error (.malformedSegment (s ++ "::" ++ t) place) := by
  obtain ⟨-, _, found, ⟨⟩⟩ := ofText_eq_error_iff.mp failed
  refine ofText_eq_error_iff.mpr ⟨joined_ne_empty s t, place, ?_, rfl⟩
  rw [findIdx?_split_joined colon, found, Option.some_or]

/-- The second text may be empty here, and then it is one empty piece. -/
theorem ofText_joined_of_empty_piece (filled : s ≠ "") (colon : s.toList.getLast? ≠ some ':')
    {segments : Path} {place : Nat} (read : ofText s = .ok segments)
    (found : (split t.toList).findIdx? List.isEmpty = some place) :
    ofText (s ++ "::" ++ t) =
      .error (.malformedSegment (s ++ "::" ++ t) (segments.length + place)) := by
  obtain ⟨noEmpty, -, length⟩ := of_ofText_eq_ok filled read
  refine ofText_eq_error_iff.mpr ⟨joined_ne_empty s t, _, ?_, rfl⟩
  rw [findIdx?_split_joined colon, noEmpty, found, length, Nat.add_comm]
  rfl

theorem ofText_joined_of_ok (filledS : s ≠ "") (filledT : t ≠ "")
    (colon : s.toList.getLast? ≠ some ':') {first rest : Path} (readS : ofText s = .ok first)
    (readT : ofText t = .ok rest) : ofText (s ++ "::" ++ t) = .ok (first ++ rest) := by
  obtain ⟨noneS, segmentsS, -⟩ := of_ofText_eq_ok filledS readS
  obtain ⟨noneT, segmentsT, -⟩ := of_ofText_eq_ok filledT readT
  have noEmpty : (split (s ++ "::" ++ t).toList).findIdx? List.isEmpty = none := by
    rw [findIdx?_split_joined colon, noneS, noneT]
    rfl
  rw [ofText_eq (joined_ne_empty s t), noEmpty, Option.elim_none, segmentsS, segmentsT,
    ← List.filterMap_append, ← split_append colon, ← toList_joined]

/-- **Reading a joined text reads both texts, and counts pieces over the whole text.** The first
text does not end in a colon. What goes wrong is always told by the whole text and the place of a
piece in it: a place of the first text as it is, one of the second after the segments of the first,
and a separator at the end leaves an empty piece behind all others. -/
theorem ofText_joined {s t : String} (filledS : s ≠ "") (filledT : t ≠ "")
    (colon : s.toList.getLast? ≠ some ':') :
    (∀ first rest, ofText s = .ok first → ofText t = .ok rest →
      ofText (s ++ "::" ++ t) = .ok (first ++ rest)) ∧
    (∀ place, ofText s = .error (.malformedSegment s place) →
      ofText (s ++ "::" ++ t) = .error (.malformedSegment (s ++ "::" ++ t) place)) ∧
    (∀ first place, ofText s = .ok first → ofText t = .error (.malformedSegment t place) →
      ofText (s ++ "::" ++ t) =
        .error (.malformedSegment (s ++ "::" ++ t) (first.length + place))) ∧
    (∀ first, ofText s = .ok first →
      ofText (s ++ "::") = .error (.malformedSegment (s ++ "::") first.length)) ∧
    (∀ place, ofText s = .error (.malformedSegment s place) →
      ofText (s ++ "::") = .error (.malformedSegment (s ++ "::") place)) ∧
    (∀ path error, ofText path = .error error →
      ∃ place, error = .malformedSegment path place) := by
  refine ⟨?_, ?_, ?_, ?_, ?_, ?_⟩
  · intro first rest readS readT
    exact ofText_joined_of_ok filledS filledT colon readS readT
  · intro place failed
    exact ofText_joined_of_error colon failed
  · intro first place read failed
    obtain ⟨-, _, found, ⟨⟩⟩ := ofText_eq_error_iff.mp failed
    exact ofText_joined_of_empty_piece filledS colon read found
  · intro first read
    have last := @ofText_joined_of_empty_piece s "" filledS colon first 0 read rfl
    rwa [String.append_empty] at last
  · intro place failed
    have last := ofText_joined_of_error (t := "") colon failed
    rwa [String.append_empty] at last
  · intro path error failed
    obtain ⟨-, place, -, same⟩ := ofText_eq_error_iff.mp failed
    exact ⟨place, same⟩

/-- A text that is read, in front of one that begins with a separator and in front of none. -/
theorem ofText_joined_separators :
    (ofText "a:::b" = .ok [.ofKey "a", .ofKey ":b"] ∧
      ofText "::c" = .error (.malformedSegment "::c" 0)) ∧
    ofText ("a:::b" ++ "::" ++ "::c") = .error (.malformedSegment "a:::b::::c" 2) ∧
    ofText ("a:::b" ++ "::") = .error (.malformedSegment "a:::b::" 2) := by
  have joined := @ofText_joined "a:::b" "::c" (by decide) (by decide) (by decide)
  have read : ofText "a:::b" = .ok [.ofKey "a", .ofKey ":b"] := rfl
  have failed : ofText "::c" = .error (.malformedSegment "::c" 0) := rfl
  exact ⟨⟨read, failed⟩, joined.2.2.1 _ 0 read failed, joined.2.2.2.1 _ read⟩

end Path

end PathQuery
