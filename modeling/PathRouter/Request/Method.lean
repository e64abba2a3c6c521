import PathRouter.Text.Blank

/-!
# Request methods

The normal form of a request method, and the methods that are well-formed in a request line.
-/

namespace PathRouter.Request

/-- The method of a request that names none. -/
def defaultMethod : String := "GET"

/-- Blank characters are removed from both ends, ASCII letters become capitals, and an empty method
is the default one. -/
def normalizeMethod (method : String) : String :=
  match Text.trim Text.isBlank method.toList with
  | [] => defaultMethod
  | c :: cs => String.ofList ((c :: cs).map Char.toUpper)

/-- The characters a method token is made of. -/
def isTokenChar (c : Char) : Bool :=
  c.isAlphanum || "!#$%&'*+-.^_\x60|~".toList.contains c

/-- Whether a method may stand in a request line: one or more token characters. -/
def isMethodToken (method : String) : Bool :=
  !method.isEmpty && method.toList.all isTokenChar

end PathRouter.Request
