/-!
# YAML texts

The characters a YAML text is made of. All ways of ending a line that mean the same are read as one
character, so a line break is always a single character.
-/

namespace PathRouter.Yaml

/-- The mark that may stand at the beginning of a text. -/
def byteOrderMark : Char := '\uFEFF'

/-- The characters that may occur in a text. -/
def isAllowed (c : Char) : Bool :=
  let n := c.toNat
  n == 0x09 || n == 0x0A || n == 0x0D || (0x20 ≤ n && n ≤ 0x7E) || n == 0x85 ||
    (0xA0 ≤ n && n ≤ 0xFFFD) || 0x10000 ≤ n

/-- Spaces and tabs. -/
def isBlank (c : Char) : Bool := c == ' ' || c == '\t'

/-- The line breaks. -/
def isBreak (c : Char) : Bool := c == '\n' || c == '\u2028' || c == '\u2029'

/-- Whether a word ends before a text: nothing is left, or a blank or a line break comes next. -/
def endsWord : List Char → Bool
  | [] => true
  | c :: _ => isBlank c || isBreak c

/-- Writes each line ending as one character. -/
def unifyBreaks : List Char → List Char
  | [] => []
  | '\r' :: '\n' :: cs => '\n' :: unifyBreaks cs
  | c :: cs => (if c = '\r' ∨ c = '\x85' then '\n' else c) :: unifyBreaks cs

/-- The characters of a text, if all of them may occur in one. -/
def source? (text : String) : Option (List Char) :=
  let cs := match text.toList with
    | [] => []
    | c :: cs => if c = byteOrderMark then cs else c :: cs
  if cs.all isAllowed then some (unifyBreaks cs) else none

/-- The letters of names: of anchors, of directives and of tag handles. -/
def isNameChar (c : Char) : Bool := c.isAlphanum || c == '-' || c == '_'

/-- Whether a text, which begins a line, begins with the mark of a document's start or end. -/
def isBoundary : List Char → Bool
  | '-' :: '-' :: '-' :: cs => endsWord cs
  | '.' :: '.' :: '.' :: cs => endsWord cs
  | _ => false

/-- What follows the line that a text begins with. Only blanks and a comment may stand on it. -/
def afterLine? (cs : List Char) : Option (List Char) :=
  let cs := match cs.dropWhile isBlank with
    | '#' :: cs => cs.dropWhile fun c => !isBreak c
    | cs => cs
  match cs with
  | [] => some []
  | c :: cs => if isBreak c then some cs else none

/-! ## Places -/

/-- A place in a text. -/
structure Mark where
  line : Nat
  column : Nat
deriving DecidableEq, Repr

namespace Mark

/-- The place behind a character. -/
def next (m : Mark) (c : Char) : Mark :=
  if isBreak c then ⟨m.line + 1, 0⟩ else ⟨m.line, m.column + 1⟩

/-- The place behind some characters. -/
def after (m : Mark) (cs : List Char) : Mark := cs.foldl next m

/-- The beginning of a text. -/
def origin : Mark := ⟨0, 0⟩

end Mark

end PathRouter.Yaml
