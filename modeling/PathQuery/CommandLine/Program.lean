import PathQuery.Command.Session
import PathQuery.CommandLine.Environment
import PathQuery.CommandLine.Options

/-!
# The command-line program

The words of the command line are joined by blanks and run as one command. Only the command that
queries the context reads the context, so the others never wait for input. What is notified and
what fails goes to standard error, a line each; a failed query is notified already and is not told
twice. The program succeeds exactly when the command does.
-/

set_option autoImplicit false

namespace PathQuery.CommandLine

/-- What goes wrong in a run of the program. -/
inductive ProgramError where
  | command (error : CommandError)
  /-- The context could not be read. -/
  | source (detail : String)
  /-- The text of the context is no JSON. -/
  | notJson (detail : String)

/-- The text of the error. -/
def ProgramError.message : ProgramError → String
  | command error => error.message
  | source detail => "I/O error: " ++ detail
  | notJson detail => "Context is not valid JSON: " ++ detail

/-- What the program shows and how it ends. -/
structure Outcome where
  status : Nat
  /-- The text on standard output. -/
  output : String
  /-- What is notified and what fails, on standard error, a line each. The records of the log go
  there too and are not among these lines. -/
  errors : List String

/-- A message on standard error. -/
def errorLine (message : String) : String := "Error: " ++ message

namespace Options

/-- The words as one line. -/
def line (options : Options) : String := " ".intercalate options.words

/-- The command of the line, with a call if the options ask for one. -/
def invocation? (options : Options) : Option Invocation :=
  (Invocation.ofText? options.line).map fun invocation =>
    if options.call then
      { invocation with arguments := Entries.insert invocation.arguments "call" "true" }
    else invocation

/-- The command of the line queries the context. -/
def readsContext (options : Options) : Bool :=
  options.invocation?.any fun invocation =>
    Registry.standard.get? invocation.name == some .context

/-- The value of the context. The source is the text of the context, or why there is none, and is
looked at only if the context is queried. -/
def context (options : Options) (environment : Environment) (source : Except String String) :
    Except ProgramError Value :=
  if options.readsContext then
    match source with
    | .error detail => .error (.source detail)
    | .ok text =>
        match Value.ofJsonText? text with
        | some value => .ok value
        | none => .error (.notJson (environment.decoderMessage text))
  else .ok .undefined

/-- What the commands of the program are run against. -/
def host (context : Value) (environment : Environment) : Host :=
  ⟨context, environment.window, fun c _ => environment.answer c⟩

/-- Runs the command of the line. -/
def report (options : Options) (environment : Environment) (source : Except String String) :
    Report ProgramError :=
  match options.invocation? with
  | none => ⟨.error (.command (.unknownCommand options.line)), [], []⟩
  | some invocation =>
      match options.context environment source with
      | .error error => ⟨.error error, [], []⟩
      | .ok context =>
          let report := (host context environment).run [] invocation
          ⟨report.result.mapError .command, report.notified, report.called⟩

end Options

/-- What the program shows for a report. -/
def Outcome.ofReport (report : Report ProgramError) : Outcome :=
  let notified := report.notified.map errorLine
  match report.result with
  | .ok text => ⟨0, text ++ "\n", notified⟩
  | .error (.command (.query _)) => ⟨1, "", notified⟩
  | .error error => ⟨1, "", notified ++ [errorLine error.message]⟩

/-- How the program is used, line by line. -/
def usage : List String :=
  ["Query a JSON context, or the process environment, with ctxpath expressions",
   "",
   "Usage: ctxpath [OPTIONS] <COMMAND>...",
   "",
   "Arguments:",
   "  <COMMAND>...  The command line, e.g. `context characters(find name eq Alice)::avatar`",
   "",
   "Options:",
   "  -c, --context <CONTEXT>      " ++
     "JSON file holding the application context; read from stdin when omitted",
   "      --call                   " ++
     "Call the resolved value and print its result (same as `call=true`)",
   "      --log-level <LOG_LEVEL>  " ++
     "Log level used when RUST_LOG is not set [default: warn]",
   "  -h, --help                   Print help",
   "  -V, --version                Print version"]

/-- What the program does for a request. -/
def Request.perform (request : Request) (environment : Environment)
    (source : Except String String) : Outcome :=
  match request with
  | .run options => .ofReport (options.report environment source)
  | .help => ⟨0, String.join (usage.map (· ++ "\n")), []⟩
  | .version => ⟨0, "ctxpath " ++ programVersion ++ "\n", []⟩
  | .misuse => ⟨2, "", "error: these arguments cannot be understood" :: usage⟩

end PathQuery.CommandLine
