import PathRouter.Regex.Parser
import PathRouter.Regex.Meaning
import PathRouter.Regex.Size
import PathRouter.Regex.Search

/-!
# Regular expressions

An expression is compiled from its text and then matched against texts. A match may begin anywhere;
among the matches that begin first, the one preferred by the expression is taken. A group that took
part in the match captures what it matched last.
-/

namespace PathRouter

/-- A compiled regular expression. -/
structure Regex where
  source : String
  term : Regex.Term
deriving DecidableEq

namespace Regex

/-- The term of an expression given as text. -/
def termOf (source : String) : Except Error Term := do
  let e ← parse source
  let (t, _) ← e.term .default
  pure (t.number 0).1

/-- Compiles the text of an expression. -/
def compile (source : String) : Except Error Regex := do
  let t ← termOf source
  if t.isTooLarge then throw .tooLarge else pure ⟨source, t⟩

/-- Whether an expression matches anywhere in a text. -/
def isMatch (r : Regex) (text : String) : Bool := (r.term.search text.toList).isSome

/-- Where the groups of the match in a text begin and end. -/
def captures? (r : Regex) (text : String) : Option Captures := r.term.search text.toList

/-- The named groups of an expression in the order of their indices. -/
def namedGroups (r : Regex) : List (Nat × String) :=
  r.term.groups.filterMap fun (index, name) => name.map (index, ·)

/-- The characters that have a meaning of their own in an expression. -/
def metaChars : List Char :=
  ['\\', '.', '+', '*', '?', '(', ')', '|', '[', ']', '\x7b', '\x7d', '^', '$', '#', '&', '-', '~']

/-- The text of an expression that matches a text literally. -/
def escapeChars (text : List Char) : List Char :=
  text.flatMap fun c => if c ∈ metaChars then ['\\', c] else [c]

/-- What a span of a text holds. -/
def spanText (text : String) (span : Nat × Nat) : String :=
  String.ofList ((text.toList.drop span.1).take (span.2 - span.1))

end Regex

end PathRouter
