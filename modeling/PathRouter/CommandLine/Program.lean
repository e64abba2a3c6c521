import PathRouter.CommandLine.Execution

/-!
# The program

What a run of the program leaves behind: an exit code, the text of its output, and the lines of its
error output, some of which are events of the log.
-/

namespace PathRouter.CommandLine

open Log (Event)

/-- A line of the error output. -/
inductive ErrorLine where
  | text (s : String)
  | event (e : Event)
deriving DecidableEq, Repr

/-- What a run leaves behind. -/
structure Run where
  code : Nat
  output : String
  errors : List ErrorLine
deriving DecidableEq, Repr

/-- The exit code of an outcome. -/
def Outcome.code : Outcome → Nat
  | success => 0
  | noMatch => 1

/-- The exit code of a failure. -/
def failureCode : Nat := 2

/-- The exit code where the arguments cannot be obeyed. To have asked for help is no failure. -/
def UsageFault.code : UsageFault → Nat
  | helpWanted => 0
  | _ => failureCode

/-- What is said about arguments that cannot be obeyed. -/
def UsageFault.message : UsageFault → String
  | helpWanted | nothingGiven =>
    "usage: --routes <file> [--base-path <path>] check | list | match <path> " ++
      "[--method <method>] | generate <name> [--param <key=value>]..."
  | missingValue => "error: a value is required"
  | badValue value => s!"error: expected key=value, got \x60{value}\x60"
  | needlessValue => "error: unexpected value"
  | repeatedOption => "error: an argument cannot be used multiple times"
  | unknownArgument => "error: unexpected argument"
  | missingArgument => "error: a required argument was not provided"
  | unknownCommand => "error: unrecognized subcommand"
  | missingCommand => "error: a subcommand is required"

/-- The lines that warn of texts that are no directives of a filter. -/
def filterWarnings (s : Log.Settings) : List ErrorLine :=
  s.badTargets.map fun text => .text s!"Warning: Invalid log filter directive: {text}"

def Failure.line (f : Failure) : ErrorLine := .text ("error: " ++ ": ".intercalate f.messages)

def run (env : Environment) (files : Storage.Files) (args : List String) : Run :=
  let settings := Log.Settings.ofEnvironment env
  let warnings := filterWarnings settings
  match Invocation.ofArguments env args with
  | .error f => ⟨f.code, "", warnings ++ [.text f.message]⟩
  | .ok i =>
    let report := i.execute files
    let events := (report.events.filter (Event.isWanted (settings.filter env))).map .event
    match report.result with
    | .ok outcome => ⟨outcome.code, report.written, warnings ++ events⟩
    | .error f => ⟨failureCode, report.written, warnings ++ events ++ [f.line]⟩

end PathRouter.CommandLine
