import PathQuery.Path.Group

/-!
# Reading paths

Segments are separated by `::`. The key of a segment is the shortest text before a parenthesis, not
empty, such that groups and nothing else stand after it. Where there is no such parenthesis the
whole segment is the key. A segment may not be empty, but a path may be.

`Segment.attempts` lists the places where groups might begin. Reading stops at the first that
succeeds, and `Segment.tried` lists the places it has looked at by then.
-/

set_option autoImplicit false

namespace PathQuery

/-- What goes wrong in a query. -/
inductive QueryError where
  /-- The segment at an index of a path is empty. -/
  | malformedSegment (path : String) (index : Nat)
  /-- A search or a projection was to be applied to a value that is not a list. -/
  | typeMismatch (operation found : String)
  deriving DecidableEq

/-- The text of the error. -/
def QueryError.message : QueryError → String
  | malformedSegment path index =>
      "Malformed segment " ++ toString index ++ " in '" ++ path ++ "': segment is empty"
  | typeMismatch operation found =>
      "Type error: cannot apply '" ++ operation ++ "' to " ++ found ++ ", expected a list"

namespace Segment

/-- Every parenthesis that has something before it, as the text before it, in reverse, and the
groups after it. `before` is the text to the left, in reverse. -/
def attempts (before : List Char) : List Char → List (List Char × Tail)
  | [] => []
  | c :: rest =>
      let others := attempts (c :: before) rest
      if c = '(' ∧ before ≠ [] then (before, Tail.read (c :: rest)) :: others else others

/-- The attempts up to the first that succeeds. -/
def tried (text : List Char) : List (List Char × Tail) :=
  let all := attempts [] text
  all.takeWhile (fun attempt => !attempt.2.isWhole) ++ (all.find? (·.2.isWhole)).toList

/-- The segment of a text, unless the text is empty. -/
def ofChars? (text : List Char) : Option Segment :=
  if text.isEmpty then none
  else match (attempts [] text).find? (·.2.isWhole) with
    | some (before, tail) =>
        some ⟨String.ofList before.reverse, tail.filter.bind (·.clause?),
          tail.projection.bind (·.clause?)⟩
    | none => some (.ofKey (String.ofList text))

/-- The segment of a text, unless the text is empty. -/
def ofText? (text : String) : Option Segment := ofChars? text.toList

end Segment

namespace Path

/-- The texts between the separators `::`, which are found from the left. -/
def split : List Char → List (List Char)
  | [] => [[]]
  | ':' :: ':' :: rest => [] :: split rest
  | c :: rest =>
      match split rest with
      | piece :: pieces => (c :: piece) :: pieces
      | [] => [[c]]

/-- Reads the texts of segments, the first of which has the given index. -/
def ofPieces (path : String) (index : Nat) : List (List Char) → Except QueryError Path
  | [] => .ok []
  | piece :: pieces =>
      match Segment.ofChars? piece with
      | none => .error (.malformedSegment path index)
      | some segment => (ofPieces path (index + 1) pieces).map (segment :: ·)

/-- The texts of the segments of a path. A path without any text has no segments. -/
def pieces (path : String) : List (List Char) :=
  if path.isEmpty then [] else split path.toList

/-- Reads a path. -/
def ofText (path : String) : Except QueryError Path := ofPieces path 0 (pieces path)

end Path

end PathQuery
