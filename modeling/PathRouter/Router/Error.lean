import PathRouter.Pattern.Matcher

/-!
# Faults of routes

Why a route is not accepted and why no path can be made from one, with the texts that say so.
-/

namespace PathRouter

/-- What is said about an expression that is at fault. -/
def Regex.Error.message : Regex.Error → String
  | .malformed => "regex parse error"
  | .tooLarge => s!"Compiled regex exceeds size limit of {maxRoom} bytes."

/-- What is said about a pattern that is at fault. -/
def Pattern.Error.message : Pattern.Error → String
  | .brackets cause => cause.message
  | .expression cause => s!"invalid matching expression: {cause.message}"

/-- Why a change or a question is refused. -/
inductive RouteError where
  /-- Another route has the name. -/
  | duplicateName (name : String)
  /-- No route has the name. -/
  | unknownName (name : String)
  /-- No path can be made from the pattern of the route. -/
  | notReversible (name : String)
  /-- The method is no expression. -/
  | invalidMethod (method : String) (cause : Regex.Error)
  /-- The pattern cannot be compiled. -/
  | invalidPattern (pattern : String) (cause : Pattern.Error)
deriving DecidableEq, Repr

/-- What is said about a refusal. -/
def RouteError.message : RouteError → String
  | .duplicateName name => s!"route name \x60{name}\x60 is already registered"
  | .unknownName name => s!"no route named \x60{name}\x60"
  | .notReversible name => s!"route \x60{name}\x60 has no generatable pattern"
  | .invalidMethod method cause => s!"invalid method spec \x60{method}\x60: {cause.message}"
  | .invalidPattern pattern cause => s!"invalid route pattern \x60{pattern}\x60: {cause.message}"

end PathRouter
