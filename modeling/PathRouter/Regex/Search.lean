import PathRouter.Regex.Term
import PathRouter.Unicode.Property

/-!
# Searching

A term is searched for in a text by following all ways to match at once, in the order of preference.
Between two characters a way is a list of goals: what remains to be matched. Reading a character
leaves those ways whose next goal reads it; of several ways with the same goals only the first is
kept, so their number does not grow with the text.

What can be done before the next character is read is found by recursion on the term. The branching
goals passed on the way are noted, and a way that comes back to one of them is given up: it has read
nothing in between.
-/

namespace PathRouter.Regex

open Unicode (CharSet)

/-- A place between two characters of a text. -/
structure Place where
  /-- The character before. -/
  before : Option Char
  /-- How many characters stand before. -/
  index : Nat
  /-- The character behind. -/
  after : Option Char

/-- Whether a character belongs to a word. -/
def isWordChar (unicode : Bool) (c : Char) : Bool :=
  if unicode && 0x80 ≤ c.toNat then Unicode.wordChars.contains c else c.isAlphanum || c == '_'

/-- Whether there is a character and it belongs to a word. -/
def isWordNeighbour (unicode : Bool) (c : Option Char) : Bool := c.any (isWordChar unicode)

/-- Whether a condition holds at a place. -/
def Look.holds (p : Place) : Look → Bool
  | .textStart => p.before.isNone
  | .textEnd => p.after.isNone
  | .lineStart => p.before.isNone || p.before == some '\n'
  | .lineEnd => p.after.isNone || p.after == some '\n'
  | .crlfStart => p.before.isNone || p.before == some '\n' ||
      (p.before == some '\r' && p.after != some '\n')
  | .crlfEnd => p.after.isNone || p.after == some '\r' ||
      (p.after == some '\n' && p.before != some '\r')
  | .boundary u => isWordNeighbour u p.before != isWordNeighbour u p.after
  | .notBoundary u => isWordNeighbour u p.before == isWordNeighbour u p.after
  | .wordStart u => !isWordNeighbour u p.before && isWordNeighbour u p.after
  | .wordEnd u => isWordNeighbour u p.before && !isWordNeighbour u p.after
  | .wordStartHalf u => !isWordNeighbour u p.before
  | .wordEndHalf u => !isWordNeighbour u p.after

/-- Where groups begin (`false`) and end (`true`), what was noted last in front. -/
abbrev Captures := List ((Nat × Bool) × Nat)

namespace Captures

/-- Notes where a group begins or ends. -/
def note (c : Captures) (group : Nat) (stop : Bool) (index : Nat) : Captures :=
  ((group, stop), index) :: c

/-- Where a group began and ended the last time. -/
def span? (c : Captures) (group : Nat) : Option (Nat × Nat) := do
  let start ← c.lookup (group, false)
  let stop ← c.lookup (group, true)
  some (start, stop)

end Captures

/-- Something that remains to be done. -/
inductive Goal where
  | term (t : Term)
  /-- Notes that a group ends. -/
  | close (index : Nat)
  /-- Repeats a body without a bound, after it has been matched. -/
  | again (number : Nat) (greedy : Bool) (body : Term)
deriving DecidableEq

/-- What remains to be done, in order. -/
abbrev Goals := List Goal

/-- What a way comes to before the next character is read. -/
inductive Step where
  /-- All is done that was asked for. The branching goals passed are handed on. -/
  | done (passed : List Goals) (captures : Captures)
  /-- A character out of a set has to come next. -/
  | read (set : CharSet) (goals : Goals) (captures : Captures)

namespace Step

/-- Goes on where all is done. -/
def andThen (steps : List Step) (next : List Goals → Captures → List Step) : List Step :=
  steps.flatMap fun
    | .done passed captures => next passed captures
    | .read set goals captures => [.read set goals captures]

/-- Drops the steps that are done. -/
def reads (steps : List Step) : List Step :=
  steps.filter fun
    | .done _ _ => false
    | .read _ _ _ => true

/-- Drops the steps that are done, the first one apart: all of them have the same goals ahead. -/
def firstDone : List Step → List Step
  | [] => []
  | .done passed captures :: steps => .done passed captures :: reads steps
  | step :: steps => step :: firstDone steps

/-- One way or the other, the second one first unless `greedy`. -/
def either (greedy : Bool) (a b : List Step) : List Step :=
  firstDone (if greedy then a ++ b else b ++ a)

end Step

/-- A way to do something, with the goals behind it, the branching goals passed and what was
noted. -/
abbrev Visit := Goals → List Goals → Captures → List Step

/-- Further rounds of a repetition without a bound whose body is visited by `visit`. They must not
be empty. -/
def visitAgain (visit : Visit) (number : Nat) (greedy : Bool) (body : Term) : Visit :=
  fun goals passed captures =>
    let here := .again number greedy body :: goals
    if here ∈ passed then []
    else Step.either greedy (Step.reads (visit here (here :: passed) captures))
      [.done (here :: passed) captures]

/-- A repetition without a bound. If the body can match without reading, the first round may be
empty, though not those behind it. -/
def visitAnyNumber (visit : Visit) (number : Nat) (greedy : Bool) (body : Term) : Visit :=
  fun goals passed captures =>
    let here := .term (.rep number 0 none greedy body) :: goals
    let again := .again number greedy body :: goals
    if body.alwaysReads then visitAgain visit number greedy body goals passed captures
    else if here ∈ passed then []
    else
      Step.either greedy
        (Step.andThen (visit again (here :: passed) captures) fun passed captures =>
          if again ∈ passed then [] else [.done (again :: passed) captures])
        [.done (here :: passed) captures]

/-- A repetition without a bound that has one round at least. -/
def visitOnceOrMore (visit : Visit) (number : Nat) (greedy : Bool) (body : Term) : Visit :=
  fun goals passed captures =>
    let again := .again number greedy body :: goals
    Step.andThen (visit again passed captures) fun passed captures =>
      if again ∈ passed then [] else [.done (again :: passed) captures]

/-- Up to `more` rounds. -/
def visitUpTo (visit : Visit) (number : Nat) (greedy : Bool) (body : Term) : Nat → Visit
  | 0, _, passed, captures => [.done passed captures]
  | more + 1, goals, passed, captures =>
    let here := .term (.rep number 0 (some (more + 1)) greedy body) :: goals
    if here ∈ passed then []
    else
      Step.either greedy
        (Step.andThen
          (visit (.term (.rep number 0 (some more) greedy body) :: goals) (here :: passed) captures)
          (visitUpTo visit number greedy body more goals))
        [.done (here :: passed) captures]

def visitRounds (visit : Visit) (number : Nat) (greedy : Bool) (body : Term) :
    Nat → Option Nat → Visit
  | 0, none => visitAnyNumber visit number greedy body
  | 0, some more => visitUpTo visit number greedy body more
  | 1, none => visitOnceOrMore visit number greedy body
  | min + 1, more => fun goals passed captures =>
    Step.andThen (visit (.term (.rep number min more greedy body) :: goals) passed captures)
      (visitRounds visit number greedy body min more goals)

/-- What can be done about a term at a place before the next character is read. -/
def Term.visit (p : Place) : Term → Visit
  | .empty, _, passed, captures => [.done passed captures]
  | .read set, goals, _, captures => [.read set goals captures]
  | .look l, _, passed, captures => if l.holds p then [.done passed captures] else []
  | .seq a b, goals, passed, captures =>
    Step.andThen (a.visit p (.term b :: goals) passed captures) (b.visit p goals)
  | .alt number a b, goals, passed, captures =>
    let here := .term (.alt number a b) :: goals
    if here ∈ passed then []
    else Step.either true (a.visit p goals (here :: passed) captures)
      (b.visit p goals (here :: passed) captures)
  | .rep number min more greedy body, goals, passed, captures =>
    visitRounds (body.visit p) number greedy body min more goals passed captures
  | .group index _ body, goals, passed, captures =>
    Step.andThen (body.visit p (.close index :: goals) passed (captures.note index false p.index))
      fun passed captures => [.done passed (captures.note index true p.index)]

/-- What can be done about a goal. -/
def Goal.visit (p : Place) : Goal → Visit
  | .term t, goals, passed, captures => t.visit p goals passed captures
  | .close index, _, passed, captures => [.done passed (captures.note index true p.index)]
  | .again number greedy body, goals, passed, captures =>
    visitAgain (body.visit p) number greedy body goals passed captures

/-- What can be done about goals. -/
def Goals.visit (p : Place) : Goals → List Goals → Captures → List Step
  | [], passed, captures => [.done passed captures]
  | goal :: goals, passed, captures =>
    Step.andThen (goal.visit p goals passed captures) (Goals.visit p goals)

/-- A way that waits for a character. -/
structure Thread where
  goals : Goals
  set : CharSet
  captures : Captures

/-- The ways preferred to the first complete one, and what was noted on that. -/
def settle : List Step → List Thread × Option Captures
  | [] => ([], none)
  | .done _ captures :: _ => ([], some captures)
  | .read set goals captures :: steps =>
    let (threads, hit) := settle steps
    (⟨goals, set, captures⟩ :: threads, hit)

/-- Of several ways with the same goals ahead, the first. -/
def distinct (seen : List (Goals × CharSet)) : List Thread → List Thread
  | [] => []
  | t :: ts =>
    if (t.goals, t.set) ∈ seen then distinct seen ts
    else t :: distinct ((t.goals, t.set) :: seen) ts

/-- Reads a text with the ways that have been followed so far. As long as no way is complete, a
match may also begin at every further place. -/
def run (start : Place → List Step) (searching : Bool) (index : Nat) (steps : List Step) :
    List Char → Option Captures
  | [] => (settle steps).2
  | c :: rest =>
    let (threads, hit) := settle steps
    let searching := searching && hit.isNone
    let place := ⟨some c, index + 1, rest.head?⟩
    let moved := (distinct [] threads).flatMap fun t =>
      if t.set.contains c then Goals.visit place t.goals [] t.captures else []
    let begun := if searching then start place else []
    run start searching (index + 1) (moved ++ begun) rest <|> hit

/-- What is noted on the first preferred way to match a term in a text. The span of the match is
noted as group 0. -/
def Term.search (t : Term) (text : List Char) : Option Captures :=
  let start := fun place => Term.visit place (.group 0 none t) [] [] []
  run start true 0 (start ⟨none, 0, text.head?⟩) text

end PathRouter.Regex
