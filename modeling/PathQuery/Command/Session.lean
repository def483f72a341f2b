import PathQuery.Command.Help
import PathQuery.Command.Invocation
import PathQuery.Command.Registry
import PathQuery.Query

/-!
# Running commands

A host supplies the two roots that commands query and the answers of its callables. A callable may
answer by how often it has been called before, so running a command needs the history of calls, and
a session hands it on from one step to the next. Nothing else is handed on.

A failed query is notified before it is reported as an error. Showing the help needs no path, the
other commands do.
-/

set_option autoImplicit false

namespace PathQuery

/-- What commands are run against. -/
structure Host where
  context : Value
  window : Value
  /-- What a callable answers after a number of calls. -/
  answer : Callable → Nat → Except CallError Value

/-- What goes wrong with a command. -/
inductive CommandError where
  | unknownCommand (name : String)
  /-- The command needs a path. -/
  | missingPath (name : String)
  | query (error : QueryError)
  deriving DecidableEq

/-- The text of the error. -/
def CommandError.message : CommandError → String
  | unknownCommand name => "Unknown command '" ++ name ++ "'"
  | missingPath name =>
      "Command '" ++ name ++ "' needs a path, e.g. `" ++ name ++ " key::subkey`"
  | query error => "Query failed: " ++ error.message

namespace Report

/-- The report of a command that fails before it queries anything. -/
def failed (error : CommandError) : Report CommandError := ⟨.error error, [], []⟩

/-- The report of a command that ran a query. A query that failed is notified. -/
def ofQuery (report : Report QueryError) : Report CommandError :=
  match report.result with
  | .ok text => ⟨.ok text, report.notified, report.called⟩
  | .error error => ⟨.error (.query error), report.notified ++ [error.message], report.called⟩

end Report

namespace Host

/-- What the callables answer after the calls of a history. -/
def answers (host : Host) (history : List Callable) : Answers :=
  fun c => host.answer c (history.countP (·.id == c.id))

/-- Queries a root for the value of an invocation, with a call if the argument `call` is on. -/
def evaluate (host : Host) (history : List Callable) (root : Value) (invocation : Invocation) :
    Report CommandError :=
  if invocation.value.isEmpty then .failed (.missingPath invocation.name)
  else .ofQuery (query root invocation.value (Invocation.isOn (invocation.argument "call"))
    (host.answers history))

/-- Runs a command after the calls of a history. -/
def run (host : Host) (history : List Callable) (invocation : Invocation) : Report CommandError :=
  match Registry.standard.get? invocation.name with
  | none => .failed (.unknownCommand invocation.name)
  | some .help => ⟨.ok helpText, [], []⟩
  | some .context => host.evaluate history host.context invocation
  | some .window => host.evaluate history host.window invocation

/-- Reads a command line and runs it. A line without a command is reported without the blanks
around it. -/
def runLine (host : Host) (history : List Callable) (line : String) : Report CommandError :=
  match Invocation.ofText? line with
  | some invocation => host.run history invocation
  | none => .failed (.unknownCommand (String.ofList (Text.trim line.toList)))

end Host

/-! ## Sessions -/

/-- One step of a session. -/
inductive Step where
  | line (text : String)
  | invocation (invocation : Invocation)

/-- Runs one step. -/
def Host.step (host : Host) (history : List Callable) : Step → Report CommandError
  | .line text => host.runLine history text
  | .invocation invocation => host.run history invocation

/-- Runs the steps of a session one after the other. -/
def Host.session (host : Host) (history : List Callable) : List Step → List (Report CommandError)
  | [] => []
  | step :: rest =>
      let report := host.step history step
      report :: host.session (history ++ report.called) rest

end PathQuery
