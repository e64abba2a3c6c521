import PathRouter.Unicode.CharSet

/-!
# Syntax of regular expressions

The syntax tree of an expression. A tree says what was written and not yet what it matches: that
depends on the flags in force, and flags may change inside a group.

The depth of a tree counts what nests: groups, repetitions, lists of items, alternatives and
classes.
-/

namespace PathRouter.Regex

open Unicode (CharSet)

/-- Why a text is no usable expression. -/
inductive Error where
  /-- The text is not well-formed, or asks for what the flags do not allow. -/
  | malformed
  /-- The compiled expression would need too much room. -/
  | tooLarge
deriving DecidableEq, Repr

/-- A mode that can be turned on and off inside an expression. -/
inductive Flag where
  | ignoreCase | multiLine | dotAll | swapGreed | unicode | crlf | blanks
deriving DecidableEq, Repr

/-- Flags to be turned on (`true`) or off, in the order written. -/
abbrev FlagChange := List (Flag × Bool)

/-- A condition on a place in a text, as written. -/
inductive Anchor where
  | lineStart | lineEnd | textStart | textEnd
  | wordBoundary | notWordBoundary | wordStart | wordEnd | wordStartHalf | wordEndHalf
deriving DecidableEq, Repr

/-- A character that stands for itself. -/
structure Literal where
  char : Char
  /-- Whether it was written as an octet, with two hexadecimal digits. -/
  octet : Bool
deriving DecidableEq, Repr

/-- A set of characters with a name. -/
inductive NamedClass where
  | digit | space | word
  /-- A property, a category or a script. -/
  | property (name : List Char)
  /-- A value of a property. -/
  | value (property value : List Char)
deriving DecidableEq, Repr

/-- An operation on two classes. -/
inductive ClassOp where
  | intersection | difference | symmetricDifference
deriving DecidableEq, Repr

/-- What may stand between the brackets of a class. -/
inductive ClassExpr where
  | literal (l : Literal)
  | range (first last : Literal)
  | ascii (negated : Bool) (set : CharSet)
  | named (negated : Bool) (c : NamedClass)
  | union (items : List ClassExpr)
  | bracket (negated : Bool) (body : ClassExpr)
  | op (kind : ClassOp) (left right : ClassExpr)

/-- What a pair of parentheses does beside grouping. -/
inductive GroupKind where
  /-- Captures what it matches, under an index and maybe a name. -/
  | capture (index : Nat) (name : Option String)
  /-- Changes the flags inside. -/
  | plain (change : FlagChange)
deriving DecidableEq, Repr

/-- A regular expression as written. -/
inductive Expr where
  | empty
  | flags (change : FlagChange)
  | literal (l : Literal)
  | dot
  | anchor (a : Anchor)
  | named (negated : Bool) (c : NamedClass)
  | chars (c : ClassExpr)
  /-- Repeats an expression at least `min` times and, if there is a `max`, at most that often. -/
  | repetition (min : Nat) (max : Option Nat) (lazy : Bool) (body : Expr)
  | group (kind : GroupKind) (body : Expr)
  | concat (items : List Expr)
  | alternatives (branches : List Expr)

/-- One after the other; one item alone is that item. -/
def Expr.ofItems : List Expr → Expr
  | [] => .empty
  | [e] => e
  | es => .concat es

/-- One of several; one branch alone is that branch. -/
def Expr.ofBranches : List Expr → Expr
  | [] => .empty
  | [e] => e
  | es => .alternatives es

/-- One class that holds all items; one item alone is that item. -/
def ClassExpr.ofItems : List ClassExpr → ClassExpr
  | [c] => c
  | cs => .union cs

mutual

def ClassExpr.depth : ClassExpr → Nat
  | .union [] => 0
  | .union items => depths items + 1
  | .bracket _ body => body.depth + 1
  | .op _ left right => max left.depth right.depth + 1
  | _ => 0

/-- How deep the deepest of some classes nests. -/
def ClassExpr.depths : List ClassExpr → Nat
  | [] => 0
  | c :: cs => max c.depth (depths cs)

end

mutual

def Expr.depth : Expr → Nat
  | .chars c => c.depth
  | .repetition _ _ _ body => body.depth + 1
  | .group _ body => body.depth + 1
  | .concat items => depths items + 1
  | .alternatives branches => depths branches + 1
  | _ => 0

/-- How deep the deepest of some expressions nests. -/
def Expr.depths : List Expr → Nat
  | [] => 0
  | e :: es => max e.depth (depths es)

end

/-- The greatest depth an expression may have. -/
def maxDepth : Nat := 250

end PathRouter.Regex
