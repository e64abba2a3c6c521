import PathRouter.Router.Basic

/-!
# Making paths

The path of a named route for given values: the base path, and the pattern with the values in place
of the placeholders. An optional placeholder without a value disappears together with its lead; from
one that is not optional the lead is left.
-/

namespace PathRouter

open Pattern (Segment Placeholder)

/-- The value of a placeholder, which must have a name. -/
def Pattern.Placeholder.value? (values : Dictionary String) (p : Placeholder) : Option String :=
  if p.isAnonymous then none else values.get? p.name

/-- What a segment becomes. -/
def Pattern.Segment.expand (values : Dictionary String) : Segment → List Char
  | .literal text => text
  | .placeholder p =>
    match p.value? values with
    | some value => p.lead.text ++ value.toList
    | none => if p.optional then [] else p.lead.text

/-- A text, or else the root path. -/
def orRoot (path : List Char) : String :=
  if path.isEmpty then "/" else String.ofList path

/-- The path of a pattern for given values. -/
def expand (basePath pattern : String) (values : Dictionary String) :
    Except Pattern.BracketError String := do
  let segments ← Segment.scan pattern
  pure (orRoot (basePath.toList ++ segments.flatMap (Segment.expand values)))

/-- The path of a named route for given values; of several values for one name the last counts. -/
def Router.generate (r : Router) (name : String) (params : List (String × String)) :
    Except RouteError String :=
  match r.namedRoute? name with
  | none => .error (.unknownName name)
  | some route =>
    if route.matcher.isReversible then
      (expand r.basePath route.pattern (.ofList params)).mapError fun cause =>
        .invalidPattern route.pattern (.brackets cause)
    else .error (.notReversible name)

end PathRouter
