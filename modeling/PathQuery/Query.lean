import PathQuery.Path.Resolution

/-!
# Queries

A query resolves a path and writes the value it finds as JSON text. It may ask for a call, and then
the value has to be a callable, which is called once and whose answer is written instead. A call
that fails, or that is asked of something else, does not fail the query: it is notified, and what
is written is `undefined` or the value itself.

What callables answer is given as a function, `Answers`. A `Report` tells, besides the result, what
was notified and which callables were called.
-/

set_option autoImplicit false

namespace PathQuery

/-- What each callable answers when it is called. -/
abbrev Answers := Callable → Except CallError Value

/-- What a query or a command gives and does. -/
structure Report (ε : Type) where
  /-- The text that is given, or the error. -/
  result : Except ε String
  /-- The messages sent to the user, in order. -/
  notified : List String
  /-- The callables that were called, in order. -/
  called : List Callable

/-- The message for a call that is asked of a value that is not a callable. -/
def Value.notCallable (value : Value) : String := value.typeName ++ " is not callable"

/-- Calls a value and writes the answer. -/
def Value.invoke (value : Value) (answers : Answers) : Report QueryError :=
  match value with
  | callable c =>
      match answers c with
      | .ok answer => ⟨.ok answer.serialize, [], [c]⟩
      | .error error => ⟨.ok (undefined).serialize, [error.message], [c]⟩
  | other => ⟨.ok other.serialize, [other.notCallable], []⟩

/-- Evaluates a path from a root. -/
def Path.evaluate (path : Path) (root : Value) (invoke : Bool) (answers : Answers) :
    Report QueryError :=
  match path.resolve root with
  | .error error => ⟨.error error, [], []⟩
  | .ok value => if invoke then value.invoke answers else ⟨.ok value.serialize, [], []⟩

/-- Reads a path and evaluates it from a root. -/
def query (root : Value) (path : String) (invoke : Bool) (answers : Answers) :
    Report QueryError :=
  match Path.ofText path with
  | .error error => ⟨.error error, [], []⟩
  | .ok path => path.evaluate root invoke answers

end PathQuery
