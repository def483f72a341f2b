import PathQuery.Path.Rule
import PathQuery.Value.Json

/-!
# Paths

A path is a row of segments. A segment has a key that is looked up, perhaps a filter that searches
the list found there, and perhaps a projection that takes one property of every item.

The literal of a filter is decoded as JSON where that is possible and is plain text where it is
not. Two decoded literals are equal when they are written alike.
-/

set_option autoImplicit false

namespace PathQuery

/-- What a filter asks of a list. -/
inductive Search where
  /-- The first match. -/
  | find
  /-- All matches in order. -/
  | filter
  /-- The place of the first match, or `-1`. -/
  | findIndex
  deriving DecidableEq

namespace Search

/-- The word for a search. -/
def word : Search → String
  | find => "find"
  | filter => "filter"
  | findIndex => "findIndex"

def all : List Search := [find, filter, findIndex]

/-- The search that a word names, in any case. -/
def ofWord? (s : String) : Option Search :=
  all.find? fun search => s.toLower == search.word.toLower

theorem ofWord?_word (search : Search) : ofWord? search.word = some search := by
  cases search <;> decide +kernel

end Search

/-- The literal of a filter. -/
inductive Literal where
  /-- A text that is JSON. -/
  | structured (value : Value)
  /-- Any other text. -/
  | raw (text : String)

namespace Literal

/-- Decodes a text as JSON, or keeps it as it is. -/
def ofText (text : String) : Literal :=
  match Value.ofJsonText? text with
  | some value => structured value
  | none => raw text

/-- The value that the literal is compared as. -/
def value : Literal → Value
  | structured value => value
  | raw text => .string text

/-- The literals are written alike. -/
def equal : Literal → Literal → Bool
  | structured a, structured b => a.serialize == b.serialize
  | raw a, raw b => a == b
  | _, _ => false

end Literal

/-- A search for items by one of their properties. -/
structure Filter where
  search : Search
  property : String
  rule : Rule
  literal : Literal

/-- One step of a path. -/
structure Segment where
  /-- What is looked up first. -/
  key : String
  filter : Option Filter
  /-- The property that is taken of every item. -/
  projection : Option String

/-- The segments in order. -/
abbrev Path := List Segment

/-- A segment that only looks up a key. -/
def Segment.ofKey (key : String) : Segment := ⟨key, none, none⟩

/-! ## Equality -/

def Filter.equal (a b : Filter) : Bool :=
  a.search == b.search && a.property == b.property && a.rule == b.rule &&
    a.literal.equal b.literal

def Segment.equal (a b : Segment) : Bool :=
  let filters := match a.filter, b.filter with
    | some x, some y => x.equal y
    | none, none => true
    | _, _ => false
  a.key == b.key && filters && a.projection == b.projection

/-- The paths have equal segments. -/
def Path.equal : Path → Path → Bool
  | [], [] => true
  | a :: as, b :: bs => a.equal b && Path.equal as bs
  | _, _ => false

end PathQuery
