import PathRouter.Router.Basic

/-!
# Listing routes

The routes of a router as lines of text, in the order in which they are tried.
-/

namespace PathRouter

def Route.line (basePath : String) (r : Route) : String :=
  let name := match r.name with
    | some name => s!" ({name})"
    | none => ""
  s!"[route] {r.method} {basePath}{r.pattern} -> {r.handler}{name}\n"

/-- The lines of a router. -/
def Router.listing (r : Router) : String :=
  r.routes.foldl (fun text route => text ++ route.line r.basePath)
    s!"[routes] base_path={r.basePath} count={r.size}\n"

end PathRouter
