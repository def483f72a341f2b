import PathQuery.Query

/-!
# The log of a query

A query can be followed in a log. Reading a path logs each group that breaks off, every time it is
looked at. Resolving logs each comparison that cannot be carried out and the segment at which it
stops early. A call asked of something that is not a callable is a warning, and what is notified
to the user is logged as an error.

The log is a view: it is computed from the same attempts, segments and reports as the answer.
-/

set_option autoImplicit false

namespace PathQuery

/-- How much a record matters. -/
inductive Level where
  | error
  | warn
  | info
  | debug
  | trace
  deriving DecidableEq

/-- One line of the log. -/
structure Record where
  level : Level
  message : String
  deriving DecidableEq

/-! ## Reading -/

/-- The record of a group that breaks off. -/
def Group.record? {α : Type} (kind : String) (group : Group α) : Option Record :=
  group.fragment?.map fun fragment =>
    ⟨.debug, "Dropping incomplete " ++ kind ++ " clause '" ++ fragment ++ "'"⟩

/-- The records of one attempt to find groups. -/
def Tail.log (tail : Tail) : List Record :=
  (tail.filter.bind (·.record? "filter")).toList ++
    (tail.projection.bind (·.record? "map")).toList

/-- The records of reading a segment. -/
def Segment.readingLog (text : List Char) : List Record :=
  (Segment.tried text).flatMap fun (_, tail) => tail.log

/-- The records of reading a path, up to a segment that is empty. -/
def Path.readingLog (path : String) : List Record :=
  ((Path.pieces path).takeWhile fun piece => !piece.isEmpty).flatMap Segment.readingLog

/-! ## Resolving -/

/-- The record of a comparison that cannot be carried out. -/
def Filter.record? (filter : Filter) (item : Value) : Option Record :=
  match filter.rule.apply (item.lookup filter.property) filter.literal.value with
  | .ok _ => none
  | .error error => some ⟨.trace, "Comparison treated as non-match: " ++ error.message⟩

/-- The items that a search compares: all of them, or those up to the first match. -/
def Filter.compared (filter : Filter) (items : List Value) : List Value :=
  match filter.search with
  | .filter => items
  | .find | .findIndex =>
      items.takeWhile (fun item => !filter.accepts item) ++ (items.find? filter.accepts).toList

/-- The records of applying a segment. -/
def Segment.log (segment : Segment) (value : Value) : List Record :=
  match segment.filter, value.lookup segment.key with
  | some filter, .list items => (filter.compared items).filterMap filter.record?
  | _, _ => []

/-- The record of stopping at a segment. -/
def Segment.stopRecord (segment : Segment) (index : Nat) (value : Value) : Record :=
  ⟨.debug, "Traversal stopped at segment " ++ toString index ++ " ('" ++ segment.key ++ "'): " ++
    value.typeName⟩

/-- The records of resolving a path whose first segment has the given index. -/
def Path.resolutionLog (path : Path) (root : Value) (index : Nat) : List Record :=
  match path with
  | [] => []
  | segment :: rest =>
      segment.log root ++
        match segment.apply root with
        | .error _ => []
        | .ok value =>
            if value.isNullish then [segment.stopRecord index value]
            else resolutionLog rest value (index + 1)

/-! ## Calling -/

/-- The warning about a call that is asked of something that is not a callable. -/
def Value.callLog (value : Value) : List Record :=
  match value with
  | callable _ => []
  | other => [⟨.warn, "Requested a call on a " ++ other.typeName ++ " value"⟩]

/-- The records of evaluating a path. -/
def Path.log (path : Path) (root : Value) (invoke : Bool) (answers : Answers) : List Record :=
  let warnings := match path.resolve root with
    | .ok value => if invoke then value.callLog else []
    | .error _ => []
  path.resolutionLog root 0 ++ warnings ++
    (path.evaluate root invoke answers).notified.map (⟨.error, ·⟩)

/-- The records of a query. -/
def queryLog (root : Value) (path : String) (invoke : Bool) (answers : Answers) : List Record :=
  Path.readingLog path ++
    match Path.ofText path with
    | .ok path => path.log root invoke answers
    | .error _ => []

end PathQuery
