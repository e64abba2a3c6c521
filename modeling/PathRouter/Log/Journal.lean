import PathRouter.Log.Event
import PathRouter.Router.Edit
import PathRouter.Router.Match
import PathRouter.Router.Generate
import PathRouter.Table.Basic

/-!
# Journals

The events of what is done with tables and routers, in the order in which they happen.
-/

namespace PathRouter

open Log (Event)

namespace Router

/-- The events of adding a route. -/
def registerEvents (r : Router) (d : RouteDef) : List Event :=
  match r.register d with
  | .ok s => (s.routes.drop r.size).map fun route => .routeRegistered d route.matcher.kind r.size
  | .error (.duplicateName name) => [.duplicateRefused name d.pattern (r.namedPattern? name)]
  | .error _ => []

/-- The events of adding routes up to the first one that is refused. -/
def addRoutesEvents (r : Router) : List RouteDef → List Event
  | [] => []
  | d :: ds =>
    r.registerEvents d ++
      match r.register d with
      | .ok r => addRoutesEvents r ds
      | .error _ => []

def editEvents (r : Router) (e : Edit) : List Event :=
  match e, r.apply e with
  | .register d, _ => r.registerEvents d
  | .addRoutes ds, _ => r.addRoutesEvents ds
  | .setBasePath _, (s, _) => [.basePathSet s.basePath]
  | .addMatchTypes _, (s, none) => [.typesUpdated s.types.size]
  | .addMatchTypes _, (_, some _) => []

/-- The events of changes up to the first one that is refused. -/
def editsEvents (r : Router) : List Edit → List Event
  | [] => []
  | e :: es =>
    r.editEvents e ++
      match r.apply e with
      | (s, none) => editsEvents s es
      | (_, some _) => []

/-- The events of trying routes on a request in normal form, the first of them at a place, up to the
one that accepts it. -/
def tryEvents (method path : String) : Nat → List Route → List Event
  | _, [] => []
  | place, route :: rest =>
    if route.acceptsMethod method then
      match route.matcher, route.match? method path with
      | _, some _ => []
      | .placeholders e, none =>
        (if e.head.toList.isPrefixOf path.toList then [] else [.headRefused path e.head]) ++
          tryEvents method path (place + 1) rest
      | _, none => tryEvents method path (place + 1) rest
    else .methodRefused place route.method :: tryEvents method path (place + 1) rest

/-- The events of looking up a request. -/
def matchEvents (r : Router) (method path : String) : List Event :=
  let method := Request.normalizeMethod method
  let path := Request.normalizePath path r.basePath
  .matchAttempted method path r.size ::
    if r.isEmpty then [.emptyRouter method path] else tryEvents method path 0 r.routes

/-- The events of making a path. -/
def generateEvents (r : Router) (name : String) (params : List (String × String)) : List Event :=
  match r.generate name params with
  | .ok path => [.pathMade name path]
  | .error _ => []

end Router

namespace RouteTable

/-- The changes that turn an empty router into that of a table. -/
def edits (t : RouteTable) : List Edit :=
  (t.basePath.toList.map .setBasePath) ++ [.addMatchTypes t.matchTypes.entries, .addRoutes t.routes]

/-- The events of making the router of a table. -/
def buildEvents (t : RouteTable) : List Event := Router.empty.editsEvents t.edits

/-- The event of reading a table from a file. -/
def loadEvent (t : RouteTable) (path : String) : Event :=
  .tableLoaded path t.routes.length t.matchTypes.size t.basePath

end RouteTable

end PathRouter
