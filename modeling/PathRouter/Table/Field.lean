import PathRouter.Table.Basic

/-!
# Fields of route tables

The fields of a table and of its routes by their names, and tables and routes that are not complete
yet. Every field may be given once and no other field may be given; a route must have a pattern and
a handler.
-/

namespace PathRouter

/-- What can be wrong with the fields of a table or a route. -/
inductive FieldFault where
  | missing (name : String)
  | unknown (name : String) (expected : List String)
  | duplicate (name : String)
deriving DecidableEq, Repr

/-- What is said about a wrong field. -/
def FieldFault.message : FieldFault → String
  | .missing name => s!"missing field \x60{name}\x60"
  | .unknown name expected =>
    let names := ", ".intercalate (expected.map fun e => s!"\x60{e}\x60")
    s!"unknown field \x60{name}\x60, expected one of {names}"
  | .duplicate name => s!"duplicate field \x60{name}\x60"

inductive TableField where
  | basePath | matchTypes | routes
deriving DecidableEq, Repr

namespace TableField

/-- All fields in their order. -/
def all : List TableField := [.basePath, .matchTypes, .routes]

def name : TableField → String
  | basePath => "base_path"
  | matchTypes => "match_types"
  | routes => "routes"

def find? (name : String) : Option TableField := all.find? fun f => f.name == name

end TableField

/-- A table whose fields may be missing. -/
structure TableDraft where
  basePath : Option (Option String)
  matchTypes : Option (Dictionary String)
  routes : Option (List RouteDef)

namespace TableDraft

def empty : TableDraft := ⟨none, none, none⟩

/-- Whether a field is given. -/
def has (d : TableDraft) : TableField → Bool
  | .basePath => d.basePath.isSome
  | .matchTypes => d.matchTypes.isSome
  | .routes => d.routes.isSome

/-- The field with a name, if it may be given next. -/
def nextField (d : TableDraft) (name : String) : Except FieldFault TableField :=
  match TableField.find? name with
  | none => .error (.unknown name (TableField.all.map TableField.name))
  | some f => if d.has f then .error (.duplicate name) else .ok f

/-- The table, in which every field may be missing. -/
def finish (d : TableDraft) : RouteTable :=
  ⟨d.basePath.getD none, d.matchTypes.getD .empty, d.routes.getD []⟩

end TableDraft

inductive RouteField where
  | method | pattern | handler | name
deriving DecidableEq, Repr

namespace RouteField

/-- All fields in their order. -/
def all : List RouteField := [.method, .pattern, .handler, .name]

def title : RouteField → String
  | method => "method"
  | pattern => "pattern"
  | handler => "handler"
  | name => "name"

def find? (name : String) : Option RouteField := all.find? fun f => f.title == name

end RouteField

/-- A route whose fields may be missing. -/
structure RouteDraft where
  method : Option String
  pattern : Option String
  handler : Option String
  name : Option (Option String)

namespace RouteDraft

def empty : RouteDraft := ⟨none, none, none, none⟩

/-- Whether a field is given. -/
def has (d : RouteDraft) : RouteField → Bool
  | .method => d.method.isSome
  | .pattern => d.pattern.isSome
  | .handler => d.handler.isSome
  | .name => d.name.isSome

/-- The field with a name, if it may be given next. -/
def nextField (d : RouteDraft) (name : String) : Except FieldFault RouteField :=
  match RouteField.find? name with
  | none => .error (.unknown name (RouteField.all.map RouteField.title))
  | some f => if d.has f then .error (.duplicate name) else .ok f

/-- The route, if the pattern and the handler are given. -/
def finish (d : RouteDraft) : Except FieldFault RouteDef :=
  match d.pattern, d.handler with
  | none, _ => .error (.missing RouteField.pattern.title)
  | _, none => .error (.missing RouteField.handler.title)
  | some pattern, some handler =>
    .ok ⟨d.method.getD Request.defaultMethod, pattern, handler, d.name.getD none⟩

end RouteDraft

end PathRouter
