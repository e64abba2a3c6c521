import PathRouter.Yaml.Source
import PathRouter.Text.Digit

/-!
# Scalars

The three ways of writing a text: plain, between quotation marks, and as a block of lines. Line
breaks inside a text are folded: a single one turns into a space, and of several the first one
disappears.
-/

namespace PathRouter.Yaml

/-- What stands between two stretches of a text. -/
inductive Gap where
  /-- Blanks on one line. -/
  | blanks (cs : List Char)
  /-- Line breaks, the first one of which may be folded, and how far the last line is indented. -/
  | breaks (first : Option Char) (more : List Char) (column : Nat)

namespace Gap

def none : Gap := .blanks []

/-- Whether a line ends in a gap. -/
def crossesLine : Gap → Bool
  | blanks _ => false
  | breaks .. => true

/-- How far the line is indented that begins in a gap. -/
def column? : Gap → Option Nat
  | blanks _ => .none
  | breaks _ _ column => some column

/-- Adds a blank or a line break to a gap. -/
def add (g : Gap) (c : Char) : Gap :=
  match g with
  | blanks cs => if isBreak c then .breaks (some c) [] 0 else .blanks (cs ++ [c])
  | breaks first more column =>
    if isBreak c then .breaks first (more ++ [c]) 0 else .breaks first more (column + 1)

def text : Gap → List Char
  | blanks cs => cs
  | breaks .none more _ => more
  | breaks (some first) more _ =>
    if first = '\n' then (if more.isEmpty then [' '] else more) else first :: more

end Gap

/-! ## Plain scalars -/

structure Plain where
  text : List Char
  /-- Whether a line ends between the text and what follows. -/
  crossesLine : Bool
  /-- What follows. -/
  rest : List Char

/-- A character that ends a plain scalar or a key inside brackets. -/
def isFlowIndicator (c : Char) : Bool :=
  c == ',' || c == '[' || c == ']' || c == '\x7b' || c == '\x7d'

/-- Whether a plain scalar ends before a text: at a colon that is followed by a blank, and inside
brackets at an indicator. -/
def endsPlain (inFlow : Bool) : List Char → Bool
  | [] => true
  | c :: cs => (c == ':' && endsWord cs) || (inFlow && isFlowIndicator c)

/-- Whether a text begins with a colon and an indicator that may not follow it. -/
def isStrayColon : List Char → Bool
  | ':' :: c :: _ => c == '?' || isFlowIndicator c
  | _ => false

/-- Whether a plain scalar ends after a gap: at a line that is not indented enough or that begins
with the mark of a document, and at a comment. -/
def endsAtGap (inFlow : Bool) (indent : Nat) (g : Gap) (cs : List Char) : Bool :=
  (match g.column? with
    | some column => (!inFlow && column < indent) || (column == 0 && isBoundary cs)
    | none => false) || cs.head? == some '#'

/-- Reads a plain scalar from behind a gap. Outside brackets its lines are indented by at least
`indent`. -/
def readPlain (inFlow : Bool) (indent : Nat) : Gap → List Char → Option Plain
  | g, [] => some ⟨[], g.crossesLine, []⟩
  | g, c :: cs =>
    if isBlank c || isBreak c then
      if c == '\t' && g.column?.any (· < indent) then none
      else readPlain inFlow indent (g.add c) cs
    else
      let stops := match g with
        | .blanks [] => false
        | g => endsAtGap inFlow indent g (c :: cs)
      if stops then some ⟨[], g.crossesLine, c :: cs⟩
      else if inFlow && isStrayColon (c :: cs) then none
      else if endsPlain inFlow (c :: cs) then some ⟨[], g.crossesLine, c :: cs⟩
      else (readPlain inFlow indent .none cs).map fun p => { p with text := g.text ++ c :: p.text }

/-! ## Quoted scalars -/

/-- The character whose code is written in `n` hexadecimal digits. -/
def codeChar? (n : Nat) (cs : List Char) : Option Char := do
  let code ← Text.hexNumber? (cs.take n)
  if n ≤ cs.length ∧ code.isValidChar then some (Char.ofNat code) else none

/-- The character of an escape behind its backslash, and how many characters the escape takes. -/
def escape? : List Char → Option (Char × Nat)
  | [] => none
  | c :: cs =>
    match c with
    | '0' => some ('\x00', 1)
    | 'a' => some ('\x07', 1)
    | 'b' => some ('\x08', 1)
    | 't' | '\t' => some ('\t', 1)
    | 'n' => some ('\n', 1)
    | 'v' => some ('\x0B', 1)
    | 'f' => some ('\x0C', 1)
    | 'r' => some ('\r', 1)
    | 'e' => some ('\x1B', 1)
    | ' ' => some (' ', 1)
    | '"' => some ('"', 1)
    | '/' => some ('/', 1)
    | '\\' => some ('\\', 1)
    | 'N' => some ('\x85', 1)
    | '_' => some ('\u00A0', 1)
    | 'L' => some ('\u2028', 1)
    | 'P' => some ('\u2029', 1)
    | 'x' => (codeChar? 2 cs).map (·, 3)
    | 'u' => (codeChar? 4 cs).map (·, 5)
    | 'U' => (codeChar? 8 cs).map (·, 9)
    | _ => none

/-- How a text is quoted. -/
inductive Quote where
  | single | double
deriving DecidableEq, Repr

def Quote.mark : Quote → Char
  | single => '\''
  | double => '"'

/-- What stands at the next place of a quoted text. -/
inductive QuotedPart where
  /-- The closing quotation mark. -/
  | close
  /-- A character of the text, which takes `used` characters beside its first one. -/
  | char (c : Char) (used : Nat)
  /-- A line break that is no part of the text. -/
  | joint
  /-- An escape that does not exist. -/
  | bad

/-- What a character of a quoted text that is no blank stands for together with what follows it. -/
def quotedPart (q : Quote) (c : Char) (cs : List Char) : QuotedPart :=
  match q with
  | .single =>
    if c = '\'' then (if cs.head? = some '\'' then .char c 1 else .close) else .char c 0
  | .double =>
    if c = '"' then .close
    else if c = '\\' then
      if cs.head?.any isBreak then .joint
      else match escape? cs with
        | some (d, used) => .char d used
        | none => .bad
    else .char c 0

/-- Reads a quoted text from behind a gap up to its closing quotation mark, behind `skip` characters
that are used up. The result is the text and what follows it. -/
def readQuoted (q : Quote) : Nat → Gap → List Char → Option (List Char × List Char)
  | _, _, [] => none
  | skip + 1, g, _ :: cs => readQuoted q skip g cs
  | 0, g, c :: cs =>
    if isBlank c || isBreak c then readQuoted q 0 (g.add c) cs
    else if g.column? == some 0 && isBoundary (c :: cs) then none
    else
      match quotedPart q c cs with
      | .close => some (g.text, cs)
      | .char d used => (readQuoted q used .none cs).map fun (ds, rest) => (g.text ++ d :: ds, rest)
      | .joint =>
        (readQuoted q 1 (.breaks none [] 0) cs).map fun (ds, rest) => (g.text ++ ds, rest)
      | .bad => none

/-! ## Block scalars -/

/-- What becomes of the line breaks at the end of a block. -/
inductive Chomping where
  | strip | clip | keep
deriving DecidableEq, Repr

namespace Chomping

/-- The manner that a character stands for. -/
def ofChar? : Char → Option Chomping
  | '-' => some strip
  | '+' => some keep
  | _ => none

/-- What is left of the last line's ending and of the breaks of blank lines behind it. -/
def tail : Chomping → List Char → List Char → List Char
  | strip, _, _ => []
  | clip, ending, _ => ending
  | keep, ending, more => ending ++ more

end Chomping

/-- The head of a block: what becomes of its end, and how far it is indented, if that is said. -/
structure BlockHead where
  chomping : Chomping
  indent : Option Nat

/-- The manner of chomping, if one stands at the beginning of a text. -/
def readChomping : List Char → Option Chomping × List Char
  | [] => (none, [])
  | c :: cs =>
    match Chomping.ofChar? c with
    | some m => (some m, cs)
    | none => (none, c :: cs)

/-- The depth of indentation, if one stands at the beginning of a text; zero is none. -/
def readDepth : List Char → Option (Option Nat × List Char)
  | [] => some (none, [])
  | c :: cs =>
    if c = '0' then none
    else if c.isDigit then some (some (Text.digit c), cs)
    else some (none, c :: cs)

/-- The head of a block, and the lines below it. -/
def readBlockHead (cs : List Char) : Option (BlockHead × List Char) := do
  let (before, cs) := readChomping cs
  let (indent, cs) ← readDepth cs
  let (behind, cs) := if before.isNone && indent.isSome then readChomping cs else (none, cs)
  let cs ← afterLine? cs
  pure (⟨(before.or behind).getD .clip, indent⟩, cs)

/-- A line with the break that ends it, if there is one. -/
structure Line where
  text : List Char
  ending : List Char

namespace Line

/-- The lines of a text. -/
def all : List Char → List Line
  | [] => []
  | c :: cs =>
    if isBreak c then ⟨[], [c]⟩ :: all cs
    else match all cs with
      | [] => [⟨[c], []⟩]
      | l :: ls => { l with text := c :: l.text } :: ls

def size (l : Line) : Nat := l.text.length + l.ending.length

/-- The number of spaces at the beginning. -/
def indent (l : Line) : Nat := (l.text.takeWhile (· == ' ')).length

end Line

/-- How far a block is indented: as far as its first line that is not blank, but not less than a
blank line before it. A tab may not stand there. -/
def blockIndent (widest : Nat) : List Line → Option Nat
  | [] => some widest
  | l :: ls =>
    let widest := max widest l.indent
    match l.text.drop l.indent with
    | [] => if l.ending.isEmpty then some widest else blockIndent widest ls
    | c :: _ => if c = '\t' then none else some widest

/-- What joins two lines of a block: the ending of the first, the breaks of blank lines between
them, and whether one of the two begins with a blank. -/
def joinLines (folded : Bool) (ending more : List Char) (apart : Bool) : List Char :=
  if folded && ending == ['\n'] && !apart then (if more.isEmpty then [' '] else more)
  else ending ++ more

/-- The text of a block behind a line, of which the ending is given and whether it begins with a
blank, and behind blank lines; and the number of characters in the lines of the block. -/
def blockText (folded : Bool) (chomping : Chomping) (indent : Nat) :
    List Char → List Char → Bool → List Line → Option (List Char × Nat)
  | ending, more, _, [] => some (chomping.tail ending more, 0)
  | ending, more, blank, l :: ls =>
    match l.text.drop (min l.indent indent) with
    | [] =>
      if l.ending.isEmpty then some (chomping.tail ending more, 0)
      else
        (blockText folded chomping indent ending (more ++ l.ending) blank ls).map
          fun (text, used) => (text, l.size + used)
    | c :: cs =>
      if l.indent < indent then
        if c = '\t' then none else some (chomping.tail ending more, 0)
      else
        (blockText folded chomping indent l.ending [] (isBlank c) ls).map fun (text, used) =>
          (joinLines folded ending more (blank || isBlank c) ++ c :: cs ++ text, l.size + used)

/-- Reads a block scalar from behind its indicator, below lines that are indented by less than
`level`. The result is the text and the number of characters it takes. -/
def readBlock (folded : Bool) (level : Nat) (cs : List Char) : Option (List Char × Nat) := do
  let (head, below) ← readBlockHead cs
  let lines := Line.all below
  let indent ← match head.indent with
    | some depth => some (level - 1 + depth)
    | none => (blockIndent 0 lines).map fun widest => max (max widest level) 1
  let (text, used) ← blockText folded head.chomping indent [] [] false lines
  pure (text, cs.length - below.length + used)

end PathRouter.Yaml
