import PathRouter.Json.Value
import PathRouter.Log.Settings
import PathRouter.Router.Basic
import PathRouter.Text.Quoted

/-!
# Events

What happens to tables and routers that is worth a line in a log. An event has a level, a target and
fields, one of which is its message.
-/

namespace PathRouter.Log

/-- Where events come from. -/
inductive Origin where
  | config | core | compiler | url
deriving DecidableEq, Repr

namespace Origin

def target : Origin → String
  | config => "bracket_router::config"
  | core => "bracket_router::router::core"
  | compiler => "bracket_router::pattern::compiler"
  | url => "bracket_router::router::url"

/-- The place that events name as theirs. -/
def place : Origin → String
  | config => "src/config.rs"
  | core => "src/router/core.rs"
  | compiler => "src/pattern/compiler.rs"
  | url => "src/router/url.rs"

end Origin

/-- Something that happened. -/
inductive Event where
  /-- A table was read from a file. -/
  | tableLoaded (path : String) (routes types : Nat) (basePath : Option String)
  | basePathSet (path : String)
  | typesUpdated (count : Nat)
  /-- A route took its place in a router. -/
  | routeRegistered (d : RouteDef) (kind : String) (place : Nat)
  /-- A route was refused, since another one has its name. -/
  | duplicateRefused (name pattern : String) (existing : Option String)
  /-- A request in normal form was looked up. -/
  | matchAttempted (method path : String) (routes : Nat)
  | emptyRouter (method path : String)
  /-- A route is not for the method of a request. -/
  | methodRefused (place : Nat) (method : String)
  /-- A path does not begin as a pattern does. -/
  | headRefused (path head : String)
  | pathMade (name path : String)
deriving DecidableEq, Repr

namespace Event

/-- How much an event matters. -/
def level : Event → Level
  | tableLoaded .. => .info
  | duplicateRefused .. | emptyRouter .. => .warn
  | methodRefused .. | headRefused .. => .trace
  | basePathSet .. | typesUpdated .. | routeRegistered .. | matchAttempted .. | pathMade .. =>
    .debug

def origin : Event → Origin
  | tableLoaded .. => .config
  | headRefused .. => .compiler
  | pathMade .. => .url
  | basePathSet .. | typesUpdated .. | routeRegistered .. | duplicateRefused ..
  | matchAttempted .. | emptyRouter .. | methodRefused .. => .core

/-- The line that an event names as its place. -/
def line : Event → Nat
  | tableLoaded .. => 95
  | duplicateRefused .. => 190
  | routeRegistered .. => 206
  | basePathSet .. => 248
  | typesUpdated .. => 288
  | matchAttempted .. => 308
  | emptyRouter .. => 316
  | methodRefused .. => 324
  | headRefused .. => 88
  | pathMade .. => 59

def message : Event → String
  | tableLoaded .. => "Route table loaded"
  | basePathSet .. => "Base path set"
  | typesUpdated .. => "Match types updated"
  | routeRegistered .. => "Route registered"
  | duplicateRefused .. => "Rejected duplicate route name"
  | matchAttempted .. => "Route match attempt"
  | emptyRouter .. => "Match attempted against an empty route table"
  | methodRefused .. => "Method rejected"
  | headRefused .. => "Prefilter rejected path"
  | pathMade .. => "URL generated"

/-- An optional text as it stands in a field. -/
def optionText : Option String → String
  | none => "None"
  | some s => s!"Some({Text.Quoted.encode s})"

/-- What an event is about. -/
def details : Event → List (String × Json.Value)
  | tableLoaded path routes types basePath =>
    [("path", .string path), ("routes_count", .number routes), ("match_types", .number types),
      ("base_path", .string (optionText basePath))]
  | basePathSet path => [("base_path", .string path)]
  | typesUpdated count => [("type_count", .number count)]
  | routeRegistered d kind place =>
    [("method", .string d.method), ("pattern", .string d.pattern),
      ("route_name", .string (optionText d.name)), ("matcher", .string kind),
      ("priority", .number place)]
  | duplicateRefused name pattern existing =>
    [("route_name", .string name), ("pattern", .string pattern),
      ("existing_pattern", .string (optionText existing))]
  | matchAttempted method path routes =>
    [("method", .string method), ("path", .string path), ("routes_count", .number routes)]
  | emptyRouter method path => [("method", .string method), ("path", .string path)]
  | methodRefused place method => [("priority", .number place), ("method_spec", .string method)]
  | headRefused path head => [("path", .string path), ("head", .string head)]
  | pathMade name path => [("route_name", .string name), ("url", .string path)]

/-- The fields of an event. -/
def fields (e : Event) : List (String × Json.Value) :=
  ("message", .string e.message) :: e.details

def isWanted (f : Filter) (e : Event) : Bool :=
  f.admits e.origin.target (e.fields.map (·.1)) e.level

/-- The value that is logged for an event, with its place if that is asked for. -/
def value (located : Bool) (e : Event) : Json.Value :=
  .object <|
    [("level", .string e.level.title), ("fields", .object e.fields),
      ("target", .string e.origin.target)] ++
    if located then [("filename", .string e.origin.place), ("line_number", .number e.line)] else []

end Event

end PathRouter.Log
