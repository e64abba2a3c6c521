import PathRouter.Unicode.CharSet

/-!
# Matching terms

What an expression asks of a text, with all flags resolved: characters out of sets, conditions on
places, and their combinations. Terms are built with the functions of this module, which keep them
in a flat form: sequences and alternatives lean to the right, and nothing empty stands in a
sequence.

Alternatives that begin alike are brought together behind their common beginning. That fixes the
order in which the ways to match are tried: a way through the beginning comes first, and the
alternatives are tried for each of them.
-/

namespace PathRouter.Regex

open Unicode (CharSet)

/-- A condition on a place in a text. -/
inductive Look where
  | textStart | textEnd
  /-- At the beginning or behind a line feed. -/
  | lineStart
  /-- At the end or before a line feed. -/
  | lineEnd
  /-- Like `lineStart`, where a carriage return with or without a line feed ends a line, too. -/
  | crlfStart
  /-- Like `lineEnd`, where a carriage return with or without a line feed ends a line, too. -/
  | crlfEnd
  /-- Exactly one of the two neighbours is a word character. -/
  | boundary (unicode : Bool)
  | notBoundary (unicode : Bool)
  | wordStart (unicode : Bool)
  | wordEnd (unicode : Bool)
  | wordStartHalf (unicode : Bool)
  | wordEndHalf (unicode : Bool)
deriving DecidableEq, Repr

/-- What is asked of a text. -/
inductive Term where
  | empty
  /-- One character out of a set. -/
  | read (set : CharSet)
  | look (l : Look)
  /-- One after the other. -/
  | seq (first second : Term)
  /-- The first one, or else the second. The number tells branchings apart that look alike. -/
  | alt (number : Nat) (first second : Term)
  /-- The body `min` times and then up to `more` times again, or without a bound. -/
  | rep (number min : Nat) (more : Option Nat) (greedy : Bool) (body : Term)
  /-- Notes where the body begins and ends. -/
  | group (index : Nat) (name : Option String) (body : Term)
deriving DecidableEq, Repr

namespace Term

def fail : Term := .read .empty

def items : Term → List Term
  | .empty => []
  | .seq a b => a :: b.items
  | t => [t]

def branches : Term → List Term
  | .alt _ a b => a :: b.branches
  | t => [t]

/-- One term after another. -/
def append : Term → Term → Term
  | .empty, t => t
  | .seq a b, t => .seq a (append b t)
  | s, .empty => s
  | s, t => .seq s t

/-- Terms one after the other. -/
def concat (ts : List Term) : Term := ts.foldr append .empty

/-- The first branch that matches, each branch being no alternative itself. -/
def ofBranches : List Term → Term
  | [] => fail
  | [t] => t
  | t :: ts => .alt 0 t (ofBranches ts)

/-- The set of characters that any one of the terms reads, if each reads one character. -/
def readUnion? : List Term → Option CharSet
  | [] => some .empty
  | .read s :: ts => (readUnion? ts).map s.union
  | _ :: _ => none

/-- Alternatives, where single characters make one set. -/
def choice (ts : List Term) : Term :=
  let bs := ts.flatMap branches
  match bs with
  | [] => fail
  | [t] => t
  | bs =>
    match readUnion? bs with
    | some set => .read set
    | none => ofBranches bs

/-- The items with which two lists begin. -/
def commonPrefix : List Term → List Term → List Term
  | a :: as, b :: bs => if a = b then a :: commonPrefix as bs else []
  | _, _ => []

/-- Whether a term is a sequence. -/
def isSeq : Term → Bool
  | .seq _ _ => true
  | _ => false

/-- The items with which all branches begin, if all are sequences. -/
def sharedItems : List Term → List Term
  | [] => []
  | t :: ts =>
    if (t :: ts).all isSeq then ts.foldl (fun p u => commonPrefix p u.items) t.items else []

/-- Alternatives behind their common beginning. -/
def alternatives (ts : List Term) : Term :=
  let bs := ts.flatMap branches
  match bs with
  | [] => fail
  | [t] => t
  | bs =>
    let shared := sharedItems bs
    concat (shared ++ [choice (bs.map fun t => concat (t.items.drop shared.length))])

/-- Whether a term matches without reading a character, and only so. -/
def readsNothing : Term → Bool
  | .empty => true
  | .look _ => true
  | .read _ => false
  | .seq a b => a.readsNothing && b.readsNothing
  | .alt _ a b => a.readsNothing && b.readsNothing
  | .rep _ _ _ _ body => body.readsNothing
  | .group _ _ body => body.readsNothing

/-- The least number of characters that a match reads, if the term can match at all. Alternatives
can match if all branches can. -/
def minLength : Term → Option Nat
  | .empty | .look _ => some 0
  | .read set => if set.isEmpty then none else some 1
  | .seq a b => do pure ((← a.minLength) + (← b.minLength))
  | .alt _ a b => do pure (min (← a.minLength) (← b.minLength))
  | .rep _ min _ _ body => body.minLength.map (min * ·)
  | .group _ _ body => body.minLength

/-- Whether every match reads a character. -/
def alwaysReads (t : Term) : Bool := t.minLength.any (0 < ·)

/-- A repetition. A body that reads nothing is tried once at most. -/
def repetition (min : Nat) (max : Option Nat) (greedy : Bool) (body : Term) : Term :=
  let (min, max) :=
    if body.readsNothing then (Nat.min min 1, some (Nat.min (max.getD 1) 1)) else (min, max)
  match min, max with
  | _, some 0 => .empty
  | 1, some 1 => body
  | min, max => .rep 0 min (max.map (· - min)) greedy body

/-- The groups of a term with their names. -/
def groups : Term → List (Nat × Option String)
  | .empty | .read _ | .look _ => []
  | .seq a b | .alt _ a b => a.groups ++ b.groups
  | .rep _ _ _ _ body => body.groups
  | .group index name body => (index, name) :: body.groups

/-- The term with its branchings numbered from `n` on, and the next number. -/
def number (n : Nat) : Term → Term × Nat
  | .empty => (.empty, n)
  | .read set => (.read set, n)
  | .look l => (.look l, n)
  | .seq a b =>
    let (a, n) := a.number n
    let (b, n) := b.number n
    (.seq a b, n)
  | .alt _ a b =>
    let (a, m) := a.number (n + 1)
    let (b, m) := b.number m
    (.alt n a b, m)
  | .rep _ min more greedy body =>
    let (body, m) := body.number (n + 1)
    (.rep n min more greedy body, m)
  | .group index name body =>
    let (body, n) := body.number n
    (.group index name body, n)

end Term

end PathRouter.Regex
