import PathRouter.Router.Basic
import PathRouter.Request.Method

/-!
# Matching requests

A request is answered by the first route that accepts its method and its path, both in normal form.
-/

namespace PathRouter

open Pattern (Params)

/-- The answer to a request. -/
structure RouteMatch where
  handler : String
  /-- The values of parameters, in the order of the placeholders. -/
  params : Params
  name : Option String
  /-- The pattern of the route. -/
  pattern : String
deriving DecidableEq, Repr

namespace RouteMatch

/-- The last value of a parameter. -/
def param? (m : RouteMatch) (name : String) : Option String :=
  (m.params.reverse.find? fun p => p.1 == name).map (·.2)

/-- The last values of all parameters. -/
def paramsMap (m : RouteMatch) : Dictionary String := .ofList m.params

end RouteMatch

/-- The answer of a route to a request in normal form. -/
def Route.match? (route : Route) (method path : String) : Option RouteMatch :=
  if route.acceptsMethod method then
    (route.matcher.params? path).map fun params =>
      ⟨route.handler, params, route.name, route.pattern⟩
  else none

/-- The answer to a request. -/
def Router.match? (r : Router) (method path : String) : Option RouteMatch :=
  let method := Request.normalizeMethod method
  let path := Request.normalizePath path r.basePath
  r.routes.findSome? fun route => route.match? method path

end PathRouter
