import PathQuery.Command.Session
import PathQuery.Log

/-!
# The log of a command

A command logs what its query logs, up to the notifications, which are shown to the user anyway.
Two kinds of records of the program are not kept here: the one of level debug that tells which
command is run on which path, and those of level info that tell where the context is loaded from.
Each level of the log is named by a word, and a level shows all records that matter at least as
much.
-/

set_option autoImplicit false

namespace PathQuery

namespace Level

/-- The word for a level. -/
def word : Level → String
  | error => "error"
  | warn => "warn"
  | info => "info"
  | debug => "debug"
  | trace => "trace"

/-- The place of a level, what matters most coming first. -/
def rank : Level → Nat
  | error => 0
  | warn => 1
  | info => 2
  | debug => 3
  | trace => 4

/-- The level that a word names, in any case. -/
def ofWord? (s : String) : Option Level :=
  [error, warn, info, debug, trace].find? fun level => s.toLower == level.word

/-- The level shows a record. -/
def shows (level : Level) (record : Record) : Bool := record.level.rank ≤ level.rank

end Level

/-- The records of the query that a command runs, without its notifications. The record that the
command is run is not among them. -/
def Host.log (host : Host) (history : List Callable) (invocation : Invocation) : List Record :=
  let root? := match Registry.standard.get? invocation.name with
    | some .context => some host.context
    | some .window => some host.window
    | _ => none
  match root? with
  | none => []
  | some root =>
      if invocation.value.isEmpty then []
      else (queryLog root invocation.value (Invocation.isOn (invocation.argument "call"))
        (host.answers history)).filter (·.level != .error)

end PathQuery
