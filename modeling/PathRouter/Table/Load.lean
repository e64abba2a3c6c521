import PathRouter.Table.Json
import PathRouter.Table.Yaml
import PathRouter.Storage.Path

/-!
# Route tables in files

A file with the extension `json` holds a table in JSON, any other file one in YAML.
-/

namespace PathRouter

/-- Why a file gives no table. -/
inductive LoadFault where
  | read (f : Storage.ReadFault)
  | json (e : Json.Error)
  | yaml (e : Yaml.Error)
deriving DecidableEq, Repr

/-- What is said about the file at a path. -/
def LoadFault.context (path : String) : LoadFault → String
  | read _ => s!"failed to read route table {path}"
  | json _ | yaml _ => s!"failed to parse route table {path}"

/-- What is said about a text that is no route table in JSON. -/
def Json.Error.message (e : Json.Error) : String :=
  e.message?.getD (if e = .fault .ended then "EOF while parsing a value" else "expected value")

/-- What is said about a text that is no route table in YAML. -/
def Yaml.Error.message : Yaml.Error → String
  | .malformed => "invalid document"
  | .field f => f.message
  | .invalidType => "invalid type"

/-- What is said about a file that gives no table. -/
def LoadFault.message : LoadFault → String
  | read f => f.message
  | json e => e.message
  | yaml e => e.message

namespace RouteTable

/-- The table in a text, written as the extension of a path says. -/
def ofText (path text : String) : Except LoadFault RouteTable :=
  if Storage.hasExtension path "json" then (ofJson text).mapError .json
  else (ofYaml text).mapError .yaml

def readText (files : Storage.Files) (path : String) : Except Storage.ReadFault String := do
  match Text.Utf8.decode? (← files path) with
  | some text => pure (String.ofList text)
  | none => throw .invalidText

/-- The table in a file. -/
def load (files : Storage.Files) (path : String) : Except LoadFault RouteTable := do
  ofText path (← (readText files path).mapError .read)

end RouteTable

end PathRouter
