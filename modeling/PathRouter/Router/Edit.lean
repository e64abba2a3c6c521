import PathRouter.Router.Basic

/-!
# Changes

The changes a router can undergo, as values, so that its history is a list.
-/

namespace PathRouter

/-- A change of a router. -/
inductive Edit where
  | register (d : RouteDef)
  | addRoutes (ds : List RouteDef)
  | setBasePath (path : String)
  | addMatchTypes (types : List (String × String))
deriving DecidableEq, Repr

namespace Router

/-- What becomes of a change that is carried out completely or not at all. -/
def settle (r : Router) : Except RouteError Router → Router × Option RouteError
  | .ok r => (r, none)
  | .error e => (r, some e)

/-- The router after a change, and why the change was refused, if it was. -/
def apply (r : Router) : Edit → Router × Option RouteError
  | .register d => r.settle (r.register d)
  | .addRoutes ds => r.addRoutes ds
  | .setBasePath path => (r.setBasePath path, none)
  | .addMatchTypes types => r.settle (r.addMatchTypes types)

/-- The router after some changes, whether they were refused or not. -/
def applyAll (r : Router) (edits : List Edit) : Router :=
  edits.foldl (fun r e => (r.apply e).1) r

end Router

end PathRouter
