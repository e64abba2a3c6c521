import PathRouter.CommandLine.Program

/-!
# The command line

Gives the program its arguments, its environment and its file, and writes what it leaves behind.
-/

namespace PathRouter.CommandLine

/-- The variables that the program looks at. -/
def variableNames : List String :=
  ["BRKT_ROUTES", "BRKT_BASE_PATH", "BRKT_LOG_LEVEL", "BRKT_LOG_FORMAT", "BRKT_LOG_TARGET_FILTER",
    "BRKT_LOG_ASYNC", "BRKT_LOG_INCLUDE_LOCATION", "RUST_LOG"]

/-- The variables that are set. -/
def readEnvironment : IO Environment := do
  let pairs ← variableNames.filterMapM fun name => do
    return (← IO.getEnv name).map fun value => (name, value)
  return .ofList pairs

/-- The number of a fault of the system, whichever sign it is reported with. -/
def faultNumber (code : UInt32) : UInt32 := min code (-code)

/-- Why a file could not be read, if it is one of the faults that the program knows. -/
def readFault? : IO.Error → Option Storage.ReadFault
  | .noFileOrDirectory .. => some .notFound
  | .inappropriateType _ code _ =>
    if faultNumber code = 20 then some .notDirectory
    else if faultNumber code = 21 then some .isDirectory
    else none
  | _ => none

/-- The content of the file at a path. Other faults than those the program knows are thrown. -/
def readFile (path : String) : IO (Except Storage.ReadFault (List UInt8)) := do
  try
    return .ok (← IO.FS.readBinFile path).toList
  catch e =>
    match readFault? e with
    | some fault => return .error fault
    | none => throw (.userError s!"failed to read route table {path}: {e}")

/-- The file that arguments ask for. -/
def readFiles (env : Environment) (args : List String) : IO Storage.Files := do
  match Invocation.ofArguments env args with
  | .error _ => return fun _ => .error .notFound
  | .ok i =>
    let content ← readFile i.table
    return fun _ => content

/-- Runs the program on the file that its arguments ask for. What the system says of a file that it
refuses for another reason is reported in its own words. -/
def runOnFiles (env : Environment) (args : List String) : IO Run := do
  try
    return run env (← readFiles env args) args
  catch e =>
    let warnings := filterWarnings (.ofEnvironment env)
    return ⟨failureCode, "", warnings ++ [.text s!"error: {e}"]⟩

/-- A line of the error output. -/
def ErrorLine.render (settings : Log.Settings) : ErrorLine → String
  | .text s => s
  | .event e =>
    match settings.format with
    | .json => (e.value settings.located).line
    | .pretty => s!"{e.level.title} {e.origin.target}: {e.message}"

end PathRouter.CommandLine

open PathRouter

def main (args : List String) : IO UInt32 := do
  let env ← CommandLine.readEnvironment
  let settings := Log.Settings.ofEnvironment env
  let run ← CommandLine.runOnFiles env args
  for line in run.errors do
    IO.eprintln (line.render settings)
  IO.print run.output
  return run.code.toUInt32
