import PathRouter.Router.Error
import PathRouter.Request.Path

/-!
# Routers

A router holds routes in the order in which they were registered, an index of the named ones, a base
path and the types of placeholders. A change that is refused leaves the router as it was; of several
routes added at once, those before the first one at fault are kept.
-/

namespace PathRouter

open Pattern (Matcher TypeRegistry)

/-- What a route says: which requests it is for, and what handles them. -/
structure RouteDef where
  /-- An expression for methods, such as methods with bars between them. -/
  method : String
  pattern : String
  handler : String
  name : Option String
deriving DecidableEq, Repr

/-- A registered route. -/
structure Route extends RouteDef where
  /-- The compiled method. -/
  methods : Regex
  /-- The compiled pattern. -/
  matcher : Matcher
deriving DecidableEq

/-- Whether a route is for a method in normal form. -/
def Route.acceptsMethod (r : Route) (method : String) : Bool := r.methods.isMatch method

/-- The expression for whole methods, where case makes no difference. -/
def methodSource (method : String) : String :=
  String.ofList ("(?i)^(?:".toList ++ method.toList ++ ")$".toList)

/-- Compiles the method of a route. -/
def compileMethods (method : String) : Except RouteError Regex :=
  (Regex.compile (methodSource method)).mapError (.invalidMethod method)

/-- Compiles the pattern of a route. -/
def compilePattern (types : TypeRegistry) (pattern : String) : Except RouteError Matcher :=
  (Pattern.compile types pattern).mapError (.invalidPattern pattern)

/-- Routes with all that is needed to match requests and to make paths. -/
structure Router where
  /-- The routes; the first one that accepts a request handles it. -/
  routes : List Route
  /-- The patterns of the named routes. -/
  named : Dictionary String
  basePath : String
  types : TypeRegistry
deriving DecidableEq

namespace Router

def empty : Router := ⟨[], .empty, "", .builtIn⟩

instance : Inhabited Router := ⟨empty⟩

def size (r : Router) : Nat := r.routes.length

def isEmpty (r : Router) : Bool := r.routes.isEmpty

/-- Adds a route behind the others. Its name must be new, and its method and pattern must
compile. -/
def register (r : Router) (d : RouteDef) : Except RouteError Router :=
  match d.name.filter r.named.contains with
  | some name => .error (.duplicateName name)
  | none => do
    let methods ← compileMethods d.method
    let matcher ← compilePattern r.types d.pattern
    pure { r with
      routes := r.routes ++ [⟨d, methods, matcher⟩]
      named := match d.name with
        | some name => r.named.insert name d.pattern
        | none => r.named }

/-- Adds routes one after the other, up to the first one that is refused. -/
def addRoutes (r : Router) : List RouteDef → Router × Option RouteError
  | [] => (r, none)
  | d :: ds =>
    match r.register d with
    | .ok r => addRoutes r ds
    | .error e => (r, some e)

/-- Sets what is taken away from the paths of requests and put before the paths that are made. -/
def setBasePath (r : Router) (path : String) : Router :=
  { r with basePath := Request.normalizeBasePath path }

/-- Adds types of placeholders. All patterns are compiled anew. -/
def addMatchTypes (r : Router) (types : List (String × String)) : Except RouteError Router := do
  let merged := r.types.extend types
  let matchers ← r.routes.mapM fun route => compilePattern merged route.pattern
  pure { r with
    routes := r.routes.zipWith (fun route matcher => { route with matcher := matcher }) matchers
    types := merged }

/-- The pattern of a named route. -/
def namedPattern? (r : Router) (name : String) : Option String := r.named.get? name

def namedRoute? (r : Router) (name : String) : Option Route :=
  r.routes.find? fun route => route.name == some name

end Router

end PathRouter
