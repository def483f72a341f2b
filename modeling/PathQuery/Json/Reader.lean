import PathQuery.Json.Token

/-!
# Reading JSON

The structure of a JSON text is read from its tokens, one after the other. `Reader.State` holds the
lists and objects that are still open, the innermost first, and what may come next. Lists and
objects may stand inside each other to a depth of 127. In an object a key that comes again keeps
its first place and takes the last value.
-/

set_option autoImplicit false

namespace PathQuery.Json

namespace Reader

/-- How many lists and objects may be open at once. -/
def greatestDepth : Nat := 127

/-- A list or object that is still open. -/
inductive Frame where
  /-- The items that are complete, in reverse. -/
  | list (items : List Json)
  /-- The entries that are complete, and the key of the value that is being read. -/
  | object (entries : List (String × Json)) (key : String)

/-- What may come next. -/
inductive Expected where
  /-- A value. -/
  | value
  /-- The first item of a list, or its end. -/
  | item
  /-- The first key of an object, or its end. -/
  | firstKey
  /-- A key after a comma. -/
  | key (entries : List (String × Json))
  /-- The colon after a key. -/
  | colon (entries : List (String × Json)) (key : String)
  /-- A comma or an end, since a value is complete. -/
  | delimiter (json : Json)

structure State where
  /-- The lists and objects that are open, the innermost first. -/
  frames : List Frame
  expected : Expected

/-- Reads the first token of a value. -/
def beginValue? (frames : List Frame) : Token → Option State
  | .openList =>
      if frames.length < greatestDepth then some ⟨.list [] :: frames, .item⟩ else none
  | .openObject => if frames.length < greatestDepth then some ⟨frames, .firstKey⟩ else none
  | .string s => some ⟨frames, .delimiter (.string s)⟩
  | .word cs => (Token.ofWord? cs).map fun json => ⟨frames, .delimiter json⟩
  | _ => none

/-- Reads the first token of an item, or the end of a list without items. -/
def beginItem? (frames : List Frame) (token : Token) : Option State :=
  match token, frames with
  | .closeList, .list items :: outer => some ⟨outer, .delimiter (.list items.reverse)⟩
  | _, _ => beginValue? frames token

/-- Reads what follows a complete value. -/
def afterValue? (json : Json) (frames : List Frame) (token : Token) : Option State :=
  match frames, token with
  | .list items :: outer, .comma => some ⟨.list (json :: items) :: outer, .value⟩
  | .list items :: outer, .closeList => some ⟨outer, .delimiter (.list (json :: items).reverse)⟩
  | .object entries key :: outer, .comma => some ⟨outer, .key (Entries.insert entries key json)⟩
  | .object entries key :: outer, .closeObject =>
      some ⟨outer, .delimiter (.object (Entries.insert entries key json))⟩
  | _, _ => none

/-- Reads one token. -/
def step? (state : State) (token : Token) : Option State :=
  let frames := state.frames
  match state.expected with
  | .value => beginValue? frames token
  | .item => beginItem? frames token
  | .firstKey =>
      match token with
      | .closeObject => some ⟨frames, .delimiter (.object [])⟩
      | .string key => some ⟨frames, .colon [] key⟩
      | _ => none
  | .key entries =>
      match token with
      | .string key => some ⟨frames, .colon entries key⟩
      | _ => none
  | .colon entries key =>
      match token with
      | .colon => some ⟨.object entries key :: frames, .value⟩
      | _ => none
  | .delimiter json => afterValue? json frames token

/-- The document, if the text may end here. -/
def finish? : State → Option Json
  | ⟨[], .delimiter json⟩ => some json
  | _ => none

/-- Reads tokens to the end of the text. -/
def run (state : State) : List Token → Option Json
  | [] => finish? state
  | token :: rest => (step? state token).bind (run · rest)

end Reader

/-- The document of a text, given as characters. -/
def ofChars? (cs : List Char) : Option Json :=
  (Token.scan .between cs).bind (Reader.run ⟨[], .value⟩)

/-- The document of a text. -/
def ofText? (s : String) : Option Json := ofChars? s.toList

end PathQuery.Json
