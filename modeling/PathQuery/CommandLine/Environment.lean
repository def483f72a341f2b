import PathQuery.Double.Rounding
import PathQuery.Value.Basic

/-!
# The ambient object of a process

On the command line the ambient object describes the running process: its environment variables,
arguments, directory, number and platform, the version of the program, and two callables for the
time of day. What the decoder of JSON says against a text is given here as well, since the program
only passes it on.
-/

set_option autoImplicit false

namespace PathQuery.CommandLine

/-- The version of the program. -/
def programVersion : String := "0.1.0"

/-- What is known about the running process, and what the decoder tells it. -/
structure Environment where
  assignments : List (String × String)
  /-- The arguments of the process, the program itself being the first. -/
  arguments : List String
  directory : Option String
  processId : Nat
  architecture : String
  /-- The time of day as text. -/
  now : String
  /-- The seconds since the beginning of 1970. -/
  timestamp : Nat
  /-- What the decoder says against a text that is no JSON, nothing unless it is given. -/
  decoderMessage : String → String := fun _ => ""

namespace Environment

/-- The callable that tells the time of day as text. -/
def nowCallable : Callable := ⟨0, "now"⟩

/-- The callable that tells the seconds since the beginning of 1970. -/
def timestampCallable : Callable := ⟨1, "timestamp"⟩

/-- The ambient object. -/
def window (environment : Environment) : Value :=
  .map [("env", .map (Entries.ofPairs (environment.assignments.map fun (name, value) =>
      (name, .string value)))),
    ("args", .list (environment.arguments.map .string)),
    ("cwd", (environment.directory.map .string).getD .null),
    ("pid", .number (.ofNat environment.processId)),
    ("platform", .map [("os", .string "linux"), ("arch", .string environment.architecture),
      ("family", .string "unix")]),
    ("version", .string programVersion),
    ("now", .callable nowCallable),
    ("timestamp", .callable timestampCallable)]

/-- What the callables of the ambient object answer. -/
def answer (environment : Environment) (c : Callable) : Except CallError Value :=
  if c = nowCallable then .ok (.string environment.now)
  else if c = timestampCallable then .ok (.number (.ofNat environment.timestamp))
  else .ok .undefined

end Environment

end PathQuery.CommandLine
