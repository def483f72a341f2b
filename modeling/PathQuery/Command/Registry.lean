import PathQuery.Entries
import PathQuery.Text.Lowercase

/-!
# Commands and their names

There are three commands. A registry gives them names, which are the same in any case; a name that
is registered again moves to the new command.
-/

set_option autoImplicit false

namespace PathQuery

/-- What a command line can ask for. -/
inductive Command where
  /-- Query the application context. -/
  | context
  /-- Query the ambient object. -/
  | window
  /-- Show the help. -/
  | help
  deriving DecidableEq

/-- The names of commands, in lower case. -/
structure Registry where
  names : List (String × Command)

namespace Registry

/-- The registry without any name. -/
def empty : Registry := ⟨[]⟩

/-- Gives a command a name. -/
def register (registry : Registry) (name : String) (command : Command) : Registry :=
  ⟨Entries.insert registry.names (Text.lowercase name) command⟩

/-- The command with a name. -/
def get? (registry : Registry) (name : String) : Option Command :=
  registry.names.lookup (Text.lowercase name)

/-- The usual names. -/
def standard : Registry :=
  empty.register "context" .context
    |>.register "context-window" .window
    |>.register "context-help" .help
    |>.register "context?" .help

/-- A registered name is found under every name that is the same in lower case, and all other
names are found as before. -/
theorem get?_register (registry : Registry) (name other : String) (command : Command) :
    (registry.register name command).get? other =
      if Text.lowercase other = Text.lowercase name then some command
      else registry.get? other :=
  Entries.lookup_insert _ _ _ _

end Registry

end PathQuery
