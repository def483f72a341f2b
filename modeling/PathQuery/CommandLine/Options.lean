/-!
# Options and words

The arguments of the program are options and then the words of a command line. The first argument
that is no option begins the words, and everything after it is a word, whatever it looks like. An
argument that looks like an option but is not known counts as no option, so that a command may
begin with a hyphen; the same argument can be the value of an option that waits for one. A row of
short options is known only if all its letters are.

An option that is given twice, that lacks its value or has one it cannot take is a misuse, and so
is a command line without words.
-/

set_option autoImplicit false

namespace PathQuery.CommandLine

/-- The settings of a run. -/
structure Options where
  /-- The file that holds the context. Without one it is read from standard input. -/
  contextPath : Option String
  /-- The resolved value is to be called. -/
  call : Bool
  /-- The word for how much is logged. -/
  logLevel : Option String
  /-- The words of the command line. -/
  words : List String
  deriving DecidableEq

/-- What the arguments ask for. -/
inductive Request where
  | run (options : Options)
  | help
  | version
  | misuse
  deriving DecidableEq

/-- The options with long names. -/
inductive LongOption where
  | context
  | call
  | logLevel
  | help
  | version
  deriving DecidableEq

/-- An option that waits for its value. -/
inductive Pending where
  | contextPath
  | logLevel
  deriving DecidableEq

/-- What an argument before the words looks like. -/
inductive Shape where
  /-- Two hyphens, which end the options. -/
  | separator
  | long (option : LongOption) (value : Option String)
  /-- A row of short options, of which only the first acts: it ends the program or takes the other
  letters as its value. -/
  | short (letter : Char) (value : Option String)
  /-- Anything else. -/
  | plain
  deriving DecidableEq

def LongOption.ofName? (name : List Char) : Option LongOption :=
  if name = "context".toList then some .context
  else if name = "call".toList then some .call
  else if name = "log-level".toList then some .logLevel
  else if name = "help".toList then some .help
  else if name = "version".toList then some .version
  else none

/-- The letters of short options: context, help and version. -/
def isShortOption (c : Char) : Bool := c == 'c' || c == 'h' || c == 'V'

def Shape.ofArgument (argument : String) : Shape :=
  match argument.toList with
  | ['-', '-'] => .separator
  | '-' :: '-' :: text =>
      match LongOption.ofName? (text.takeWhile (· != '=')) with
      | some option =>
          .long option (match text.dropWhile (· != '=') with
            | _ :: value => some (String.ofList value)
            | [] => none)
      | none => .plain
  | '-' :: letter :: letters =>
      if (letter :: letters).all isShortOption then
        .short letter (if letters.isEmpty then none else some (String.ofList letters))
      else .plain
  | _ => .plain

/-- Sets the file of the context, once. Its name may not be empty. -/
def Options.setContextPath? (options : Options) (path : String) : Option Options :=
  if options.contextPath.isSome || path.isEmpty then none
  else some { options with contextPath := some path }

/-- Sets the log level, once. -/
def Options.setLogLevel? (options : Options) (word : String) : Option Options :=
  if options.logLevel.isSome then none else some { options with logLevel := some word }

/-- Gives a waiting option its value. -/
def Options.setPending? (options : Options) : Pending → String → Option Options
  | .contextPath, value => options.setContextPath? value
  | .logLevel, value => options.setLogLevel? value

/-- The request to run with the given words, of which there has to be one. -/
def Request.ofWords (options : Options) (words : List String) : Request :=
  if words.isEmpty then .misuse else .run { options with words }

/-- What an argument means where no option waits for a value: a request that is settled, or options
to go on with. -/
inductive Effect where
  | settled (request : Request)
  | continued (options : Options) (pending : Option Pending)

/-- The options with a value set, unless that is a misuse. -/
def Effect.ofOptions? : Option Options → Effect
  | some options => .continued options none
  | none => .settled .misuse

/-- The effect of a long option. -/
def LongOption.effect (option : LongOption) (value : Option String) (options : Options) :
    Effect :=
  match option, value with
  | .context, some path => .ofOptions? (options.setContextPath? path)
  | .context, none => .continued options (some .contextPath)
  | .logLevel, some word => .ofOptions? (options.setLogLevel? word)
  | .logLevel, none => .continued options (some .logLevel)
  | .call, none =>
      if options.call then .settled .misuse else .continued { options with call := true } none
  | .help, none => .settled .help
  | .version, none => .settled .version
  | _, some _ => .settled .misuse

/-- The effect of a row of short options. -/
def shortEffect (letter : Char) (value : Option String) (options : Options) : Effect :=
  if letter = 'h' then .settled .help
  else if letter = 'V' then .settled .version
  else LongOption.context.effect value options

/-- Reads arguments. -/
def Request.read (options : Options) (pending : Option Pending) : List String → Request
  | [] => .misuse
  | argument :: rest =>
      match Shape.ofArgument argument, pending with
      | .plain, some option =>
          match options.setPending? option argument with
          | some options => read options none rest
          | none => .misuse
      | .plain, none => .ofWords options (argument :: rest)
      | _, some _ => .misuse
      | .separator, none => .ofWords options rest
      | .long option value, none =>
          match option.effect value options with
          | .settled request => request
          | .continued options pending => read options pending rest
      | .short letter value, none =>
          match shortEffect letter value options with
          | .settled request => request
          | .continued options pending => read options pending rest

/-- What the arguments of the program ask for. -/
def Request.ofArguments (arguments : List String) : Request :=
  read ⟨none, false, none, []⟩ none arguments

end PathQuery.CommandLine
