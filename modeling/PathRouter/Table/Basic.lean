import PathRouter.Router.Basic
import PathRouter.Request.Method

/-!
# Route tables

A route table says what a router is made of: a base path, types of placeholders and routes. It is
turned into a router in this order; the first route at fault is reported.
-/

namespace PathRouter

/-- What a router is made of. -/
structure RouteTable where
  basePath : Option String
  /-- Types of placeholders beside the built-in ones. -/
  matchTypes : Dictionary String
  routes : List RouteDef
deriving DecidableEq

namespace RouteTable

/-- The router of a table. -/
def build (t : RouteTable) : Except RouteError Router := do
  let r := match t.basePath with
    | some path => Router.empty.setBasePath path
    | none => .empty
  let r ← r.addMatchTypes t.matchTypes.entries
  match r.addRoutes t.routes with
  | (r, none) => pure r
  | (_, some e) => throw e

end RouteTable

end PathRouter
