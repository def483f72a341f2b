import PathQuery.Path.Basic

/-!
# Groups at the end of a segment

A filter is written `(find name eq Alice)` and a projection `(map name)`. A group opens with a
keyword, in any case, and ends at the first closing parenthesis that no backslash protects. Inside
a literal a backslash protects parentheses and itself.

A group has three ways to be read (`Reading`). It may be complete. It may break off before its last
field, and then it is a group that says nothing. Or it holds something else, and is no group at all.
A `Tail` is what groups stand at one place: a filter or none, then a projection or none.
-/

set_option autoImplicit false

namespace PathQuery

/-! ## Character classes -/

/-- The characters that separate the fields of a group. -/
def isFieldSpace (c : Char) : Bool := c == ' ' || c == '\t' || c == '\r' || c == '\n'

/-- The characters of a property in a group. -/
def isPropertyChar (c : Char) : Bool := c.isAlphanum || c == '_'

/-! ## Literals -/

/-- The characters that a backslash protects. -/
def isProtected (c : Char) : Bool := c == '(' || c == ')' || c == '\\'

/-- Takes the backslash away from a protected character. Every other backslash stays. -/
def Literal.unescape : List Char → List Char
  | [] => []
  | [c] => [c]
  | c :: d :: rest =>
      if c = '\\' ∧ isProtected d then d :: unescape rest else c :: unescape (d :: rest)

/-- Puts a backslash before every protected character. -/
def Literal.escape (cs : List Char) : List Char :=
  cs.flatMap fun c => if isProtected c then ['\\', c] else [c]

theorem Literal.escape_cons (c : Char) (cs : List Char) :
    Literal.escape (c :: cs) =
      (if isProtected c then ['\\', c] else [c]) ++ Literal.escape cs := rfl

theorem ne_backslash_of_not_isProtected {c : Char} (h : ¬ isProtected c) : c ≠ '\\' := by
  rintro rfl
  exact h (by decide)

theorem Literal.unescape_cons {c : Char} (h : c ≠ '\\') (cs : List Char) :
    Literal.unescape (c :: cs) = c :: Literal.unescape cs := by
  cases cs with
  | nil => simp [Literal.unescape]
  | cons d rest => simp [Literal.unescape, h]

/-! ## Fields -/

/-- What the text of a group says. -/
inductive Reading (α : Type) where
  /-- All fields are there. -/
  | complete (clause : α)
  /-- The text breaks off. -/
  | incomplete
  /-- The text holds something that does not belong there. -/
  | malformed

/-- Takes characters of a class, at least one, and goes on with them and the rest. -/
def takeField {α : Type} (isMember : Char → Bool) (text : List Char)
    (next : List Char → List Char → Reading α) : Reading α :=
  match text.takeWhile isMember, text.dropWhile isMember with
  | [], [] => .incomplete
  | [], _ :: _ => .malformed
  | field, rest => next field rest

/-- Skips the space before a field, which has to be there. -/
def skipSpace {α : Type} (text : List Char) (next : List Char → Reading α) : Reading α :=
  takeField isFieldSpace text fun _ rest => next rest

/-- Reads a property, a rule and a literal. The literal is all that follows the space after the
rule, and may be empty. -/
def Filter.ofFields (search : Search) (body : List Char) : Reading Filter :=
  skipSpace body fun rest =>
    takeField isPropertyChar rest fun property rest =>
      skipSpace rest fun rest =>
        takeField Char.isAlpha rest fun word rest =>
          match Rule.ofWord? (String.ofList word) with
          | none => .malformed
          | some rule =>
              skipSpace rest fun literal =>
                .complete ⟨search, String.ofList property, rule,
                  .ofText (String.ofList (Literal.unescape literal))⟩

/-- Reads the property of a projection, after which nothing may follow. -/
def projectionOfFields (body : List Char) : Reading String :=
  skipSpace body fun rest =>
    takeField isPropertyChar rest fun property rest =>
      if rest.isEmpty then .complete (String.ofList property) else .malformed

/-! ## Groups -/

/-- The text up to the first closing parenthesis that is not protected, and what follows it. -/
def splitBody? (afterBackslash : Bool) : List Char → Option (List Char × List Char)
  | [] => none
  | c :: rest =>
      if c = ')' ∧ afterBackslash = false then some ([], rest)
      else (splitBody? (c == '\\' && !afterBackslash) rest).map fun (body, after) =>
        (c :: body, after)

/-- The keyword of a group, the text after it up to the end of the group, and what follows. The
keyword is followed by a space or by the end of the group. -/
def splitGroup? (text : List Char) : Option (String × List Char × List Char) :=
  match text with
  | '(' :: rest =>
      let word := rest.takeWhile Char.isAlpha
      let rest := rest.dropWhile Char.isAlpha
      if rest.head?.any fun c => isFieldSpace c || c == ')' then
        (splitBody? false rest).map fun (body, after) => (String.ofList word, body, after)
      else none
  | _ => none

/-- A group that has been recognised. -/
inductive Group (α : Type) where
  | complete (clause : α)
  /-- The keyword, and the text after it that breaks off. -/
  | incomplete (keyword : String) (body : List Char)

namespace Group

/-- What the group says, if it is complete. -/
def clause? {α : Type} : Group α → Option α
  | complete clause => some clause
  | incomplete _ _ => none

/-- The text of a group that is not complete. -/
def fragment? {α : Type} : Group α → Option String
  | complete _ => none
  | incomplete keyword body => some ("(" ++ keyword ++ String.ofList body ++ ")")

/-- A reading as a group under a keyword, unless it is malformed. -/
def ofReading? {α : Type} (keyword : String) (body : List Char) : Reading α → Option (Group α)
  | .complete clause => some (complete clause)
  | .incomplete => some (incomplete keyword body)
  | .malformed => none

/-- Reads a filter at the head of a text. -/
def filter? (text : List Char) : Option (Group Filter × List Char) :=
  (splitGroup? text).bind fun (word, body, after) =>
    (Search.ofWord? word).bind fun search =>
      (ofReading? search.word body (Filter.ofFields search body)).map fun group => (group, after)

/-- Reads a projection at the head of a text. -/
def projection? (text : List Char) : Option (Group String × List Char) :=
  (splitGroup? text).bind fun (word, body, after) =>
    if word.toLower = "map" then
      (ofReading? "map" body (projectionOfFields body)).map fun group => (group, after)
    else none

end Group

/-- The groups at one place of a text. -/
structure Tail where
  filter : Option (Group Filter)
  projection : Option (Group String)
  /-- The text after the groups. -/
  rest : List Char

namespace Tail

/-- Reads a filter if there is one, then a projection if there is one. -/
def read (text : List Char) : Tail :=
  let (filter, afterFilter) := match Group.filter? text with
    | some (group, after) => (some group, after)
    | none => (none, text)
  match Group.projection? afterFilter with
  | some (group, after) => ⟨filter, some group, after⟩
  | none => ⟨filter, none, afterFilter⟩

/-- There is a group, and nothing follows the groups. -/
def isWhole (tail : Tail) : Bool :=
  (tail.filter.isSome || tail.projection.isSome) && tail.rest.isEmpty

end Tail

end PathQuery
