import PathRouter.Pattern.Segment
import PathRouter.Pattern.TypeRegistry
import PathRouter.Regex.Basic

/-!
# Matchers

A pattern is compiled into a matcher, which says of a path whether it matches and which parameters
it has. There are four kinds of patterns: the star for every path, an expression behind an at sign,
a text without brackets for that path alone, and text with placeholders.

A pattern with placeholders becomes one expression, in which every placeholder is a group. The
groups have numbers for names, so that a parameter may have any name; the slots of the expression
lead from the groups back to the parameters.
-/

namespace PathRouter.Pattern

/-- Why a pattern cannot be compiled. -/
inductive Error where
  /-- The brackets are at fault. -/
  | brackets (cause : BracketError)
  /-- The expression is at fault. -/
  | expression (cause : Regex.Error)
deriving DecidableEq, Repr

/-- The values of parameters, in the order of the placeholders. -/
abbrev Params := List (String × String)

/-- An expression with the parameters that its groups stand for. -/
structure Expression where
  regex : Regex
  /-- Parameters and the indices of their groups. -/
  slots : List (String × Nat)
  /-- The text before the first placeholder. -/
  head : String
deriving DecidableEq

namespace Expression

def paramNames (e : Expression) : List String := e.slots.map (·.1)

/-- The parameters of a path. A group that took no part in the match gives none. -/
def params? (e : Expression) (path : String) : Option Params :=
  (e.regex.captures? path).map fun captures =>
    e.slots.filterMap fun (name, index) =>
      (captures.span? index).map fun span => (name, Regex.spanText path span)

end Expression

/-- How paths are compared with a pattern. -/
inductive Matcher where
  /-- Every path matches. -/
  | catchAll
  /-- One path matches. -/
  | exact (path : String)
  /-- An expression given as such. -/
  | raw (e : Expression)
  /-- The expression of a pattern with placeholders. -/
  | placeholders (e : Expression)
deriving DecidableEq

namespace Matcher

/-- The parameters of a path, if it matches. With placeholders the path must begin with the text
before the first one, and the root path is also tried as the empty path, so that a pattern of
optional placeholders matches it. -/
def params? (m : Matcher) (path : String) : Option Params :=
  match m with
  | .catchAll => some []
  | .exact text => if text = path then some [] else none
  | .raw e => e.params? path
  | .placeholders e =>
    if e.head.toList.isPrefixOf path.toList then
      e.params? path <|> if path = "/" then e.params? "" else none
    else none

/-- The name of the kind of pattern. -/
def kind : Matcher → String
  | .catchAll => "catch_all"
  | .exact _ => "exact"
  | .raw _ => "raw"
  | .placeholders _ => "placeholders"

/-- Whether a path can be made from the pattern. -/
def isReversible : Matcher → Bool
  | .exact _ | .placeholders _ => true
  | .catchAll | .raw _ => false

/-- The expression, if there is one. -/
def expression? : Matcher → Option Expression
  | .raw e | .placeholders e => some e
  | .catchAll | .exact _ => none

end Matcher

/-! ## Expressions of patterns -/

/-- What the names of groups for placeholders begin with. -/
def groupStem : List Char := "__bkt".toList

/-- The opening parenthesis of the group for the value of a placeholder, which is the `ordinal`th
one with a name. -/
def valueGroup (anonymous : Bool) (ordinal : Nat) : List Char :=
  if anonymous then "(?:".toList
  else "(?P<".toList ++ groupStem ++ (Nat.repr ordinal).toList ++ ['>']

/-- The expression of a placeholder. -/
def Placeholder.source (types : TypeRegistry) (ordinal : Nat) (p : Placeholder) : List Char :=
  "(?:".toList ++ Regex.escapeChars p.lead.text ++ valueGroup p.isAnonymous ordinal ++
    (types.resolve p.tag).fragment.toList ++ "))".toList ++ (if p.optional then ['?'] else [])

/-- The expression of segments, the first placeholder with a name being the `ordinal`th one. -/
def segmentsSource (types : TypeRegistry) (ordinal : Nat) : List Segment → List Char
  | [] => []
  | .literal text :: rest => Regex.escapeChars text ++ segmentsSource types ordinal rest
  | .placeholder p :: rest =>
    p.source types ordinal ++
      segmentsSource types (if p.isAnonymous then ordinal else ordinal + 1) rest

/-- The expression of a pattern, for whole paths. -/
def expressionSource (types : TypeRegistry) (segments : List Segment) : String :=
  String.ofList ('^' :: segmentsSource types 0 segments ++ ['$'])

/-- The names of the parameters of a pattern. -/
def parameterNames (segments : List Segment) : List String :=
  segments.filterMap fun
    | .literal _ => none
    | .placeholder p => if p.isAnonymous then none else some p.name

/-- The number in the name of a group for a placeholder. A plus sign may stand before the digits. -/
def groupOrdinal? (name : List Char) : Option Nat :=
  if groupStem.isPrefixOf name then Text.signedNumber? (name.drop groupStem.length) else none

/-- The parameters that the groups of an expression stand for. -/
def placeholderSlots (names : List String) (groups : List (Nat × String)) : List (String × Nat) :=
  groups.filterMap fun (index, group) => do
    let ordinal ← groupOrdinal? group.toList
    let name ← names[ordinal]?
    some (name, index)

/-- The literal text before the first placeholder. -/
def headText : List Segment → String
  | .literal text :: _ => String.ofList text
  | _ => ""

/-- The expression behind an at sign, for whole paths. -/
def rawSource (body : List Char) : String :=
  String.ofList ("^(?:".toList ++ body ++ ")$".toList)

def compileExpression (source : String) : Except Error Regex :=
  (Regex.compile source).mapError .expression

/-- The matcher of a pattern. -/
def compile (types : TypeRegistry) (pattern : String) : Except Error Matcher :=
  match pattern.toList with
  | ['*'] => .ok .catchAll
  | '@' :: body => do
    let regex ← compileExpression (rawSource body)
    pure (.raw ⟨regex, regex.namedGroups.map fun (index, name) => (name, index), ""⟩)
  | _ =>
    if hasPlaceholders pattern then do
      let segments ← (Segment.scan pattern).mapError .brackets
      let regex ← compileExpression (expressionSource types segments)
      pure (.placeholders ⟨regex, placeholderSlots (parameterNames segments) regex.namedGroups,
        headText segments⟩)
    else .ok (.exact pattern)

end PathRouter.Pattern
