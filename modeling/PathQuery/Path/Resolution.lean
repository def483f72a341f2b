import PathQuery.Path.Parser
import PathQuery.Value.Lookup

/-!
# Resolving paths

A path is resolved from a root value. Every segment looks up its key, applies its filter and then
its projection. Resolving stops as soon as a segment gives null or undefined: what is left of the
path is not looked at. A filter or a projection on a value that is not a list is an error.
-/

set_option autoImplicit false

namespace PathQuery

namespace Filter

/-- The item matches. -/
def accepts (filter : Filter) (item : Value) : Bool :=
  filter.rule.holds (item.lookup filter.property) filter.literal.value

/-- What the search finds in a list. -/
def run (filter : Filter) (items : List Value) : Value :=
  match filter.search with
  | .find => (items.find? filter.accepts).getD .undefined
  | .filter => .list (items.filter filter.accepts)
  | .findIndex => .number (.ofInt (match items.findIdx? filter.accepts with
      | some index => index
      | none => -1))

/-- Applies the filter to a value, which has to be a list. -/
def apply (filter : Filter) (value : Value) : Except QueryError Value :=
  match value with
  | .list items => .ok (filter.run items)
  | other => .error (.typeMismatch filter.search.word other.typeName)

end Filter

/-- Takes a property of every item of a value, which has to be a list. -/
def Value.project (value : Value) (property : String) : Except QueryError Value :=
  match value with
  | list items => .ok (list (items.map (·.lookup property)))
  | other => .error (.typeMismatch "map" other.typeName)

namespace Segment

/-- Applies the filter, if there is one. -/
def search (segment : Segment) (value : Value) : Except QueryError Value :=
  match segment.filter with
  | some filter => filter.apply value
  | none => .ok value

/-- Applies the projection, if there is one. -/
def project (segment : Segment) (value : Value) : Except QueryError Value :=
  match segment.projection with
  | some property => value.project property
  | none => .ok value

/-- Applies a segment to a value. -/
def apply (segment : Segment) (value : Value) : Except QueryError Value :=
  (segment.search (value.lookup segment.key)).bind segment.project

end Segment

namespace Path

/-- Resolves a path from a root. -/
def resolve (path : Path) (root : Value) : Except QueryError Value :=
  match path with
  | [] => .ok root
  | segment :: rest =>
      (segment.apply root).bind fun value =>
        if value.isNullish then .ok value else resolve rest value

end Path

end PathQuery
