import PathRouter.Regex.Syntax
import PathRouter.Regex.Term
import PathRouter.Unicode.CaseOrbit
import PathRouter.Unicode.Property

/-!
# Meaning of expressions

The term of a syntax tree. Flags hold from where they are set to the end of the group, alternatives
that follow included. Without the flag for Unicode only ASCII characters can be asked for, and a set
that would reach beyond them is refused.
-/

namespace PathRouter.Regex

open Unicode (CharSet)

/-- The flags in force. -/
structure Flags where
  ignoreCase : Bool
  multiLine : Bool
  dotAll : Bool
  swapGreed : Bool
  unicode : Bool
  crlf : Bool

namespace Flags

/-- The flags at the beginning of an expression. -/
def default : Flags := ⟨false, false, false, false, true, false⟩

/-- Turns one flag on or off. -/
def set (f : Flags) : Flag × Bool → Flags
  | (.ignoreCase, v) => { f with ignoreCase := v }
  | (.multiLine, v) => { f with multiLine := v }
  | (.dotAll, v) => { f with dotAll := v }
  | (.swapGreed, v) => { f with swapGreed := v }
  | (.unicode, v) => { f with unicode := v }
  | (.crlf, v) => { f with crlf := v }
  | (.blanks, _) => f

/-- Turns flags on or off. -/
def change (f : Flags) (c : FlagChange) : Flags := c.foldl set f

end Flags

/-! ## Sets of characters -/

/-- The characters that equal one of a set up to case, where only ASCII letters have case. -/
def foldAsciiCase (s : CharSet) : CharSet :=
  let lower := s.inter (.ofRanges [(0x61, 0x7A)])
  let upper := s.inter (.ofRanges [(0x41, 0x5A)])
  s.union (.ofRanges (lower.ranges.map (fun r => (r.1 - 0x20, r.2 - 0x20)) ++
    upper.ranges.map (fun r => (r.1 + 0x20, r.2 + 0x20))))

namespace Flags

/-- The characters that equal one of a set, as far as case counts. -/
def fold (f : Flags) (s : CharSet) : CharSet :=
  if f.ignoreCase then if f.unicode then s.foldCase else foldAsciiCase s else s

/-- The complement, which needs Unicode. -/
def complement (f : Flags) (negated : Bool) (s : CharSet) : Except Error CharSet :=
  if !negated then .ok s
  else if f.unicode then .ok s.complement
  else .error .malformed

/-- The set that a single character makes. -/
def single (f : Flags) (c : Char) : CharSet :=
  if !f.ignoreCase then .singleton c
  else if f.unicode then .ofRanges ((Unicode.caseOrbit c).map fun d => (d.toNat, d.toNat))
  else foldAsciiCase (.singleton c)

end Flags

/-- The digits, blanks or word characters among ASCII. -/
def asciiNamed : NamedClass → Option CharSet
  | .digit => some (.ofRanges [(0x30, 0x39)])
  | .space => some (.ofRanges [(0x09, 0x0D), (0x20, 0x20)])
  | .word => some (.ofRanges [(0x30, 0x39), (0x41, 0x5A), (0x5F, 0x5F), (0x61, 0x7A)])
  | _ => none

/-- The characters of a named class. Case counts for the classes of digits, blanks and word
characters. -/
def NamedClass.chars (f : Flags) (negated : Bool) (c : NamedClass) : Except Error CharSet :=
  if f.unicode then
    match c with
    | .digit => f.complement negated Unicode.decimalDigits
    | .space => f.complement negated Unicode.whiteSpace
    | .word => f.complement negated Unicode.wordChars
    | .property name =>
      match Unicode.propertyNamed? name with
      | some s => f.complement negated (f.fold s)
      | none => .error .malformed
    | .value key v =>
      match Unicode.propertyValue? key v with
      | some s => f.complement negated (f.fold s)
      | none => .error .malformed
  else
    match asciiNamed c with
    | some s => f.complement negated s
    | none => .error .malformed

/-- The code point of a literal in a class. -/
def Literal.classChar (f : Flags) (l : Literal) : Except Error Nat :=
  if f.unicode || l.char.toNat < 0x80 then .ok l.char.toNat else .error .malformed

/-- The set an operation makes of two sets. -/
def ClassOp.apply : ClassOp → CharSet → CharSet → CharSet
  | .intersection, s, t => s.inter t
  | .difference, s, t => s.difference t
  | .symmetricDifference, s, t => s.symmetricDifference t

mutual

def ClassExpr.chars (f : Flags) : ClassExpr → Except Error CharSet
  | .literal l => do
    let n ← l.classChar f
    pure (.ofRanges [(n, n)])
  | .range first last => do
    let a ← first.classChar f
    let b ← last.classChar f
    pure (.ofRanges [(a, b)])
  | .ascii negated set => f.complement negated (f.fold set)
  | .named negated c => c.chars f negated
  | .union items => unionChars f items
  | .bracket negated body => do
    let s ← body.chars f
    f.complement negated (f.fold s)
  | .op kind left right => do
    let s ← left.chars f
    let t ← right.chars f
    pure (kind.apply (f.fold s) (f.fold t))

/-- The characters of any one of some classes. -/
def ClassExpr.unionChars (f : Flags) : List ClassExpr → Except Error CharSet
  | [] => .ok .empty
  | c :: cs => do
    let s ← c.chars f
    let t ← unionChars f cs
    pure (s.union t)

end

/-! ## Terms -/

/-- The condition that an anchor stands for. -/
def Anchor.look (f : Flags) : Anchor → Look
  | .lineStart => if f.multiLine then if f.crlf then .crlfStart else .lineStart else .textStart
  | .lineEnd => if f.multiLine then if f.crlf then .crlfEnd else .lineEnd else .textEnd
  | .textStart => .textStart
  | .textEnd => .textEnd
  | .wordBoundary => .boundary f.unicode
  | .notWordBoundary => .notBoundary f.unicode
  | .wordStart => .wordStart f.unicode
  | .wordEnd => .wordEnd f.unicode
  | .wordStartHalf => .wordStartHalf f.unicode
  | .wordEndHalf => .wordEndHalf f.unicode

/-- The characters that end a line. -/
def lineEnds (f : Flags) : CharSet :=
  if f.crlf then .ofRanges [(0x0A, 0x0A), (0x0D, 0x0D)] else .ofRanges [(0x0A, 0x0A)]

def Flags.dot (f : Flags) : Except Error Term :=
  if !f.unicode then .error .malformed
  else if f.dotAll then .ok (.read .all)
  else .ok (.read (lineEnds f).complement)

/-- What a character matches that stands for itself. -/
def Literal.term (f : Flags) (l : Literal) : Except Error Term :=
  if !f.unicode && l.octet && 0x80 ≤ l.char.toNat then .error .malformed
  else .ok (.read (f.single l.char))

def GroupKind.flags (f : Flags) : GroupKind → Flags
  | .capture _ _ => f
  | .plain change => f.change change

/-- What a group makes of its body. -/
def GroupKind.term (body : Term) : GroupKind → Term
  | .capture index name => .group index name body
  | .plain _ => body

mutual

/-- What an expression matches, and the flags in force behind it. -/
def Expr.term (f : Flags) : Expr → Except Error (Term × Flags)
  | .empty => .ok (.empty, f)
  | .flags change => .ok (.empty, f.change change)
  | .literal l => do pure (← l.term f, f)
  | .dot => do pure (← f.dot, f)
  | .anchor a => .ok (.look (a.look f), f)
  | .named negated c => do pure (.read (← c.chars f negated), f)
  | .chars c => do pure (.read (← c.chars f), f)
  | .repetition min max lazy body => do
    let (t, f) ← body.term f
    pure (.repetition min max (lazy == f.swapGreed) t, f)
  | .group kind body => do
    let (t, _) ← body.term (kind.flags f)
    pure (kind.term t, f)
  | .concat items => do
    let (ts, f) ← terms f items
    pure (.concat ts, f)
  | .alternatives branches => do
    let (ts, f) ← terms f branches
    pure (.alternatives ts, f)

/-- What some expressions match, each with the flags in force behind the one before it. -/
def Expr.terms (f : Flags) : List Expr → Except Error (List Term × Flags)
  | [] => .ok ([], f)
  | e :: es => do
    let (t, f) ← e.term f
    let (ts, f) ← terms f es
    pure (t :: ts, f)

end

end PathRouter.Regex
