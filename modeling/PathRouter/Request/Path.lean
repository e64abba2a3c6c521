import PathRouter.Text.Blank
import PathRouter.Request.Percent

/-!
# Request paths

A request path is put into one form before it is compared with a route: the query and the fragment
are cut off, percent escapes are replaced, the base path is taken away where it ends at a segment
boundary, and exactly one slash stands in front.
-/

namespace PathRouter.Request

/-- What stands before the query and the fragment. -/
def beforeQuery (cs : List Char) : List Char :=
  cs.takeWhile fun c => c != '?' && c != '#'

/-- What follows `base`, if `cs` is `base` or continues it with a slash; otherwise `cs`. -/
def stripBase (base cs : List Char) : List Char :=
  if base.isPrefixOf cs then
    match cs.drop base.length with
    | [] => []
    | '/' :: rest => '/' :: rest
    | _ => cs
  else cs

@[simp] theorem stripBase_self (base : List Char) : stripBase base base = [] := by
  simp [stripBase]

/-- Exactly one slash in front. -/
def rooted (cs : List Char) : List Char :=
  '/' :: cs.dropWhile (· == '/')

/-- The normal form of a request path under a base path. -/
def normalizePathChars (raw base : List Char) : List Char :=
  let path := Percent.decodeText (beforeQuery raw)
  rooted (if base.isEmpty then path else stripBase base path)

/-- The normal form of a request path under a base path. -/
def normalizePath (raw base : String) : String :=
  String.ofList (normalizePathChars raw.toList base.toList)

/-- The normal form of a base path: nothing, or a slash and a text with no slash at either end.
Blank characters are removed from both ends first, slashes second. -/
def normalizeBasePath (path : String) : String :=
  match Text.trim (· == '/') (Text.trim Text.isBlank path.toList) with
  | [] => ""
  | c :: cs => String.ofList ('/' :: c :: cs)

end PathRouter.Request
