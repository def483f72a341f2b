import PathQuery.Command.Log
import PathQuery.CommandLine.Clock
import PathQuery.CommandLine.Program

/-!
# Running the program

The outer layer of the command-line program: it looks up what the process is like, reads the
context when it is wanted, and shows the outcome. What is shown is decided elsewhere.
-/

set_option autoImplicit false

namespace PathQuery.CommandLine

/-- The text of a file of the operating system, empty if it cannot be read. -/
def systemText (path : String) : IO String := do
  try IO.FS.readFile path catch _ => pure ""

/-- The parts of a text that zero characters end. -/
def zeroTerminated (text : String) : List String := (text.splitOn "\x00").dropLast

/-- The name and the value of an environment variable. -/
def assignment? (text : String) : Option (String × String) :=
  match text.toList.dropWhile (· != '=') with
  | _ :: value => some (String.ofList (text.toList.takeWhile (· != '=')), String.ofList value)
  | [] => none

/-- The seconds since the beginning of 1970 and the hundredths of the second: the time at which the
system was started and the time that has passed since. -/
def currentTime : IO (Nat × Nat) := do
  let started := ((← systemText "/proc/stat").splitOn "\n").findSome? fun line =>
    match line.splitOn " " with
    | ["btime", seconds] => seconds.toNat?
    | _ => none
  let passed := ((← systemText "/proc/uptime").splitOn " ").headD ""
  match passed.splitOn "." with
  | [seconds, hundredths] =>
      pure (started.getD 0 + seconds.toNat?.getD 0, hundredths.toNat?.getD 0)
  | _ => pure (started.getD 0, 0)

/-- What the process is like. -/
def currentEnvironment : IO Environment := do
  let (seconds, hundredths) ← currentTime
  let status := (← systemText "/proc/self/stat").splitOn " "
  let machine := (← systemText "/proc/sys/kernel/arch").trimAscii.toString
  let directory ← try pure (some (← IO.currentDir).toString) catch _ => pure none
  pure {
    assignments := (zeroTerminated (← systemText "/proc/self/environ")).filterMap assignment?
    arguments := zeroTerminated (← systemText "/proc/self/cmdline")
    directory
    processId := ((status.headD "").toNat?).getD 0
    architecture := if machine.isEmpty then "x86_64" else machine
    now := timeText seconds (hundredths * 10000000)
    timestamp := seconds }

/-- Everything on standard input. -/
partial def standardInput : IO String := do
  let stdin ← IO.getStdin
  let rec loop (lines : String) : IO String := do
    let line ← stdin.getLine
    if line.isEmpty then pure lines else loop (lines ++ line)
  loop ""

/-- The text of the context, or why there is none. -/
def readSource (options : Options) : IO (Except String String) := do
  try
    match options.contextPath with
    | some path => pure (.ok (← IO.FS.readFile path))
    | none => pure (.ok (← standardInput))
  catch error => pure (.error (toString error))

/-- Shows the log of the query of a run at the level that was asked for. -/
def showLog (options : Options) (environment : Environment) (source : Except String String) :
    IO Unit := do
  let word := options.logLevel.getD "warn"
  match options.invocation?, options.context environment source with
  | some invocation, .ok context =>
      if word.toLower != "off" then
        for record in (Options.host context environment).log [] invocation do
          if ((Level.ofWord? word).getD .error).shows record then
            IO.eprintln ("[" ++ record.level.word.toUpper ++ "] " ++ record.message)
  | _, _ => pure ()

end PathQuery.CommandLine

open PathQuery.CommandLine in
/-- Runs the program. -/
def main (arguments : List String) : IO UInt32 := do
  let request := Request.ofArguments arguments
  let environment ← currentEnvironment
  let source ← match request with
    | .run options =>
        if options.readsContext then do
          let source ← readSource options
          showLog options environment source
          pure source
        else do
          showLog options environment (.error "")
          pure (.error "")
    | _ => pure (.error "")
  let outcome := request.perform environment source
  for line in outcome.errors do IO.eprintln line
  IO.print outcome.output
  pure outcome.status.toUInt32
