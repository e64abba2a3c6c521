import PathRouter.Text.Utf8

/-!
# Pattern segments

A route pattern is a list of literal texts and bracketed placeholders. The segments of a pattern are
found in one pass from left to right; putting the texts of the segments together again gives the
pattern.
-/

namespace PathRouter.Pattern

/-- The literal character a placeholder takes along: it disappears together with an absent optional
value. -/
inductive Lead where
  | none
  | slash
  | dot
deriving DecidableEq, Repr

def Lead.text : Lead → List Char
  | .none => []
  | .slash => ['/']
  | .dot => ['.']

/-- A placeholder as written in a pattern. -/
structure Placeholder where
  lead : Lead
  /-- What stands between the brackets. -/
  inner : List Char
  optional : Bool
  /-- Octets before the placeholder, its lead not counted among them. -/
  offset : Nat
deriving DecidableEq, Repr

namespace Placeholder

/-- The text at the first colon: what stands before it, if there is one, and what follows. -/
def splitColon (cs : List Char) : List Char × List Char :=
  match cs.dropWhile (· != ':') with
  | [] => ([], cs)
  | _ :: name => (cs.takeWhile (· != ':'), name)

/-- The type tag, empty unless a colon ends it. -/
def tag (p : Placeholder) : String := String.ofList (splitColon p.inner).1

def name (p : Placeholder) : String := String.ofList (splitColon p.inner).2

/-- A placeholder with an empty name reports no parameter. -/
def isAnonymous (p : Placeholder) : Bool := (splitColon p.inner).2.isEmpty

/-- The placeholder as it stands in the pattern. -/
def full (p : Placeholder) : List Char :=
  p.lead.text ++ '[' :: p.inner ++ ']' :: (if p.optional then ['?'] else [])

/-- Octets before the opening bracket. -/
def bracketOffset (p : Placeholder) : Nat :=
  p.offset + Text.Utf8.size p.lead.text

end Placeholder

/-- One piece of a pattern. -/
inductive Segment where
  /-- Text that stands for itself. -/
  | literal (text : List Char)
  | placeholder (p : Placeholder)
deriving DecidableEq, Repr

/-- The segment as it stands in the pattern. -/
def Segment.text : Segment → List Char
  | .literal text => text
  | .placeholder p => p.full

/-- A fault in the brackets of a pattern. The position counts the octets before the opening bracket
at fault. -/
inductive BracketError where
  /-- No bracket follows. -/
  | unclosed (position : Nat)
  /-- The closing bracket follows at once. -/
  | empty (position : Nat)
  /-- An opening bracket follows before a closing one. -/
  | nested (position : Nat)
deriving DecidableEq, Repr

namespace BracketError

/-- Octets before the opening bracket at fault. -/
def position : BracketError → Nat
  | .unclosed position | .empty position | .nested position => position

/-- What is said about a fault. -/
def message : BracketError → String
  | .unclosed position => s!"unterminated placeholder starting at byte {position}"
  | .empty position => s!"empty placeholder at byte {position}"
  | .nested position => s!"nested \x60[\x60 inside placeholder starting at byte {position}"

end BracketError

/-- Splits a text that stands before an opening bracket into the literal part and the lead of the
placeholder. -/
def takeLead (text : List Char) : List Char × Lead :=
  match text.getLast? with
  | some '/' => (text.dropLast, .slash)
  | some '.' => (text.dropLast, .dot)
  | _ => (text, .none)

/-- A literal segment, unless there is no text. -/
def Segment.ofText : List Char → List Segment
  | [] => []
  | c :: cs => [.literal (c :: cs)]

namespace Segment

/-- The segments a text and a placeholder behind it make; `start` is the offset of the text. -/
def beforeBracket (start : Nat) (text inner : List Char) (optional : Bool) : List Segment :=
  let (kept, lead) := takeLead text
  ofText kept ++ [.placeholder ⟨lead, inner, optional, start + Text.Utf8.size kept⟩]

mutual

/-- Segments outside brackets: `text` is what has been read since the offset `start`. -/
def scanText (start : Nat) (text : List Char) : List Char → Except BracketError (List Segment)
  | [] => .ok (ofText text)
  | c :: rest =>
    if c = '[' then scanInner start text [] rest
    else scanText start (text ++ [c]) rest

/-- Segments from within a bracket: `text` stands before the bracket and `inner` behind it. -/
def scanInner (start : Nat) (text inner : List Char) :
    List Char → Except BracketError (List Segment)
  | [] => .error (.unclosed (start + Text.Utf8.size text))
  | c :: rest =>
    if c = '[' then .error (.nested (start + Text.Utf8.size text))
    else if c = ']' then
      if inner.isEmpty then .error (.empty (start + Text.Utf8.size text))
      else
        let stop := start + Text.Utf8.size text + Text.Utf8.size inner + 2
        match rest with
        | '?' :: rest => do
          let later ← scanText (stop + 1) [] rest
          pure (beforeBracket start text inner true ++ later)
        | rest => do
          let later ← scanText stop [] rest
          pure (beforeBracket start text inner false ++ later)
    else scanInner start text (inner ++ [c]) rest

end

/-- The segments of a pattern. -/
def scan (pattern : String) : Except BracketError (List Segment) :=
  scanText 0 [] pattern.toList

end Segment

/-- Whether a pattern has an opening bracket. -/
def hasPlaceholders (pattern : String) : Bool :=
  pattern.toList.contains '['

end PathRouter.Pattern
