import PathQuery.Entries
import PathQuery.Text.Blank
import PathQuery.Text.Lowercase

/-!
# Command lines

A command line is a name, perhaps after a slash, then arguments `key=value`, then the unnamed
value, which is all the rest. An argument is a word without blanks, and its value may stand in
double quotes. The first word that is no argument begins the unnamed value.
-/

set_option autoImplicit false

namespace PathQuery

/-- A command line that has been read. -/
structure Invocation where
  name : String
  /-- The named arguments. A key occurs once. -/
  arguments : List (String × String)
  value : String
  deriving DecidableEq

namespace Invocation

/-- The first word of a text, and what follows it. -/
def splitWord (text : List Char) : List Char × List Char :=
  let text := Text.trimStart text
  (text.takeWhile fun c => !Text.isBlank c, text.dropWhile fun c => !Text.isBlank c)

/-- The text begins with a letter or an underscore, and goes on with letters, digits, underscores
and hyphens, all of them ASCII. -/
def isIdentifier (text : List Char) : Bool :=
  match text with
  | [] => false
  | c :: _ => (c.isAlpha || c == '_') && text.all fun d => d.isAlphanum || d == '_' || d == '-'

/-- The text without the double quotes around it, if it has both. -/
def unquote (text : List Char) : List Char :=
  match text with
  | '"' :: rest => if rest.getLast? = some '"' then rest.dropLast else text
  | _ => text

/-- The key and the value of a word that is an argument. -/
def argument? (word : List Char) : Option (String × String) :=
  let key := word.takeWhile (· != '=')
  match word.dropWhile (· != '=') with
  | _ :: value =>
      if isIdentifier key then some (String.ofList key, String.ofList (unquote value)) else none
  | [] => none

/-- What follows a word is shorter than the text the word was taken from. -/
theorem length_splitWord_lt {text : List Char} (h : (splitWord text).1 ≠ []) :
    (splitWord text).2.length < text.length := by
  have htrim : (Text.trimStart text).length ≤ text.length :=
    (List.dropWhile_sublist _).length_le
  have hsplit : (splitWord text).1.length + (splitWord text).2.length =
      (Text.trimStart text).length := by
    rw [← List.length_append]
    exact congrArg List.length List.takeWhile_append_dropWhile
  have hword := List.length_pos_iff.2 h
  omega

/-- Takes the arguments at the head of a text, and gives what follows them. -/
def takeArguments (arguments : List (String × String)) (text : List Char) :
    List (String × String) × List Char :=
  if hword : (splitWord text).1 = [] then (arguments, text)
  else
    have := length_splitWord_lt hword
    match argument? (splitWord text).1 with
    | some (key, value) => takeArguments (Entries.insert arguments key value) (splitWord text).2
    | none => (arguments, text)
termination_by text.length

/-- Reads a command line. A line without a name is none. -/
def ofText? (line : String) : Option Invocation :=
  let trimmed := Text.trim line.toList
  let text := match trimmed with
    | '/' :: rest => rest
    | _ => trimmed
  let (name, afterName) := splitWord text
  if name.isEmpty then none
  else
    let (arguments, rest) := takeArguments [] afterName
    some ⟨String.ofList name, arguments, String.ofList (Text.trim rest)⟩

/-- The value of a named argument. -/
def argument (invocation : Invocation) (key : String) : Option String :=
  invocation.arguments.lookup key

/-- A switch is on when its argument is `on`, `true` or `1`, in any case and with any blanks
around it. -/
def isOn (argument : Option String) : Bool :=
  match argument with
  | some text =>
      ["on", "true", "1"].contains
        (Text.lowercase (String.ofList (Text.trim text.toList)))
  | none => false

end Invocation

end PathQuery
