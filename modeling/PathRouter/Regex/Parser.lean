import PathRouter.Regex.Syntax
import PathRouter.Text.Consume
import PathRouter.Text.Blank
import PathRouter.Unicode.Property

/-!
# Reading regular expressions

The text of an expression is read from left to right. The state holds the groups that are open, the
classes that are open, and what has been read of the innermost one. Where the flag for blanks is on,
blanks and comments are passed over between the parts of an expression.
-/

namespace PathRouter.Regex.Parser

open Text (isBlank usedUp)
open Unicode (CharSet)

/-! ## Blanks and comments -/

mutual

/-- What follows blanks and comments. -/
def afterBlanks : List Char → List Char
  | [] => []
  | c :: cs => if isBlank c then afterBlanks cs else if c = '#' then afterComment cs else c :: cs

/-- What follows the rest of a comment, and blanks and comments behind it. -/
def afterComment : List Char → List Char
  | [] => []
  | c :: cs => if c = '\n' then afterBlanks cs else afterComment cs

end

/-- Passes over blanks and comments, if they are to be passed over. -/
def skipBlanks (blanks : Bool) (cs : List Char) : List Char :=
  if blanks then afterBlanks cs else cs

/-- The leading characters that satisfy `keep`, and what follows. Blanks and comments between and
behind them are passed over, if `blanks` is set. -/
def takeChars (blanks : Bool) (keep : Char → Bool) (comment : Bool) :
    List Char → List Char × List Char
  | [] => ([], [])
  | c :: cs =>
    if comment then takeChars blanks keep (c != '\n') cs
    else if blanks && isBlank c then takeChars blanks keep false cs
    else if blanks && c == '#' then takeChars blanks keep true cs
    else if keep c then
      let (taken, rest) := takeChars blanks keep false cs
      (c :: taken, rest)
    else ([], c :: cs)

/-! ## Numbers -/

/-- The value of a decimal numeral that fits into 32 bits. -/
def decimal? (digits : List Char) : Option Nat :=
  if digits.isEmpty then none
  else
    let n := Text.number digits
    if n < Nat.pow 2 32 then some n else none

/-- Reads a decimal numeral with blanks around it. -/
def readDecimal (blanks : Bool) (cs : List Char) : Option Nat × List Char :=
  let (digits, rest) := takeChars blanks Char.isDigit false (cs.dropWhile isBlank)
  (decimal? digits, rest.dropWhile isBlank)

/-- The character with a hexadecimal code point. -/
def hexChar? (digits : List Char) : Option Char := do
  let n ← Text.hexNumber? digits
  if digits.isEmpty then none
  else if h : n.isValidChar then some (Char.ofNatAux n h)
  else none

/-- Exactly `n` hexadecimal digits, and what follows. -/
def takeHex (blanks : Bool) : Nat → List Char → Option (List Char × List Char)
  | 0, cs => some ([], cs)
  | n + 1, cs =>
    match skipBlanks blanks cs with
    | [] => none
    | c :: rest =>
      if (Text.hexDigit? c).isSome then do
        let (digits, rest) ← takeHex blanks n rest
        some (c :: digits, rest)
      else none

/-! ## Escapes -/

/-- What an escape or a plain character stands for. -/
inductive Primitive where
  | literal (l : Literal)
  | named (negated : Bool) (c : NamedClass)
  | anchor (a : Anchor)
  | dot

def Primitive.expr : Primitive → Expr
  | .literal l => .literal l
  | .named negated c => .named negated c
  | .anchor a => .anchor a
  | .dot => .dot

/-- A character that was not written as an octet. -/
def plain (c : Char) : Primitive := .literal ⟨c, false⟩

/-- The ASCII characters, letters, digits and angle brackets apart, stand for themselves behind a
backslash. -/
def standsForItself (c : Char) : Bool :=
  c.toNat < 0x80 && !c.isAlphanum && c != '<' && c != '>'

/-- Reads the number of a character escape: `count` digits, or any number of them in braces. -/
def readHex (blanks : Bool) (count : Nat) (cs : List Char) :
    Except Error (Primitive × List Char) :=
  match skipBlanks blanks cs with
  | '{' :: cs =>
    match takeChars blanks (· != '}') false cs with
    | (digits, '}' :: rest) =>
      match hexChar? digits with
      | some c => .ok (plain c, skipBlanks blanks rest)
      | none => .error .malformed
    | _ => .error .malformed
  | cs =>
    match takeHex blanks count cs with
    | some (digits, rest) =>
      match hexChar? digits with
      | some c => .ok (.literal ⟨c, count == 2⟩, skipBlanks blanks rest)
      | none => .error .malformed
    | none => .error .malformed

/-- The named class written in braces, and whether an exclamation mark negates it. -/
def braceClass (cs : List Char) : Bool × NamedClass :=
  match splitNotEqual cs with
  | some (property, value) => (true, .value property value)
  | none =>
    match splitAt? ':' cs <|> splitAt? '=' cs with
    | some (property, value) => (false, .value property value)
    | none => (false, .property cs)
where
  /-- What stands before and behind the first `!=`. -/
  splitNotEqual : List Char → Option (List Char × List Char)
    | [] => none
    | '!' :: '=' :: cs => some ([], cs)
    | c :: cs => (splitNotEqual cs).map fun (a, b) => (c :: a, b)
  /-- What stands before and behind the first `sep`. -/
  splitAt? (sep : Char) : List Char → Option (List Char × List Char)
    | [] => none
    | c :: cs => if c = sep then some ([], cs) else (splitAt? sep cs).map fun (a, b) => (c :: a, b)

def readProperty (blanks negated : Bool) (cs : List Char) :
    Except Error (Primitive × List Char) :=
  match skipBlanks blanks cs with
  | [] => .error .malformed
  | '{' :: cs =>
    match takeChars blanks (· != '}') false cs with
    | (text, '}' :: rest) =>
      let (unequal, c) := braceClass text
      .ok (.named (negated != unequal) c, rest)
    | _ => .error .malformed
  | c :: cs =>
    if c = '\\' then .error .malformed
    else .ok (.named negated (.property [c]), skipBlanks blanks cs)

/-- The word boundary with a name. -/
def boundaryNamed? (name : List Char) : Option Anchor :=
  match String.ofList name with
  | "start" => some .wordStart
  | "end" => some .wordEnd
  | "start-half" => some .wordStartHalf
  | "end-half" => some .wordEndHalf
  | _ => none

/-- Whether a character may stand in the name of a word boundary. -/
def isBoundaryChar (c : Char) : Bool := c.isAlpha || c == '-'

/-- Reads what follows a word boundary: a name in braces, unless the braces hold a count. -/
def readBoundary (blanks : Bool) (cs : List Char) : Except Error (Primitive × List Char) :=
  match cs with
  | '{' :: inner =>
    match skipBlanks blanks inner with
    | [] => .error .malformed
    | c :: rest =>
      if isBoundaryChar c then
        match takeChars blanks isBoundaryChar false (c :: rest) with
        | (name, '}' :: rest) =>
          match boundaryNamed? name with
          | some a => .ok (.anchor a, rest)
          | none => .error .malformed
        | _ => .error .malformed
      else .ok (.anchor .wordBoundary, cs)
  | cs => .ok (.anchor .wordBoundary, cs)

/-- Reads what follows a backslash. -/
def readEscape (blanks : Bool) : List Char → Except Error (Primitive × List Char)
  | [] => .error .malformed
  | c :: cs =>
    if standsForItself c then .ok (plain c, cs)
    else
      match c with
      | 'x' => readHex blanks 2 cs
      | 'u' => readHex blanks 4 cs
      | 'U' => readHex blanks 8 cs
      | 'p' => readProperty blanks false cs
      | 'P' => readProperty blanks true cs
      | 'd' => .ok (.named false .digit, cs)
      | 'D' => .ok (.named true .digit, cs)
      | 's' => .ok (.named false .space, cs)
      | 'S' => .ok (.named true .space, cs)
      | 'w' => .ok (.named false .word, cs)
      | 'W' => .ok (.named true .word, cs)
      | 'a' => .ok (plain '\x07', cs)
      | 'f' => .ok (plain '\x0C', cs)
      | 't' => .ok (plain '\t', cs)
      | 'n' => .ok (plain '\n', cs)
      | 'r' => .ok (plain '\r', cs)
      | 'v' => .ok (plain '\x0B', cs)
      | 'A' => .ok (.anchor .textStart, cs)
      | 'z' => .ok (.anchor .textEnd, cs)
      | 'b' => readBoundary blanks cs
      | 'B' => .ok (.anchor .notWordBoundary, cs)
      | '<' => .ok (.anchor .wordStart, cs)
      | '>' => .ok (.anchor .wordEnd, cs)
      | _ => .error .malformed

/-! ## Groups -/

def flag? : Char → Option Flag
  | 'i' => some .ignoreCase
  | 'm' => some .multiLine
  | 's' => some .dotAll
  | 'U' => some .swapGreed
  | 'u' => some .unicode
  | 'R' => some .crlf
  | 'x' => some .blanks
  | _ => none

/-- The flags that letters turn on, and behind a hyphen off. No letter may be given twice, and a
letter must follow a hyphen. -/
def flagChange? (turnOn : Bool) (seen : FlagChange) : List Char → Option FlagChange
  | [] => some seen
  | ['-'] => none
  | '-' :: cs => if turnOn then flagChange? false seen cs else none
  | c :: cs => do
    let f ← flag? c
    if seen.any (·.1 == f) then none else flagChange? turnOn (seen ++ [(f, turnOn)]) cs

/-- Whether a flag is turned on (`some true`), turned off or left alone. -/
def FlagChange.find? (change : FlagChange) (f : Flag) : Option Bool :=
  (List.find? (·.1 == f) change).map (·.2)

/-- Whether a character may be the first of a group name. The tables are looked up only for what is
no ASCII letter. -/
def beginsName (c : Char) : Bool := c == '_' || c.isAlpha || Unicode.alphabetic.contains c

/-- Whether a character may stand in a group name behind the first. -/
def continuesName (c : Char) : Bool :=
  c == '_' || c == '.' || c == '[' || c == ']' || c.isAlphanum || Unicode.alphanumeric.contains c

/-- Whether a text may be the name of a group. -/
def isGroupName : List Char → Bool
  | [] => false
  | c :: cs => beginsName c && cs.all continuesName

/-- What an opening parenthesis begins. -/
inductive Opening where
  | group (kind : GroupKind)
  | flags (change : FlagChange)

/-- Reads a group name and the angle bracket behind it. -/
def readName (index : Nat) (taken : List String) (cs : List Char) :
    Except Error (Opening × List Char) :=
  let name := cs.takeWhile (· != '>')
  let text := String.ofList name
  if isGroupName name && !taken.contains text then
    match cs.drop name.length with
    | _ :: rest => .ok (.group (.capture index (some text)), rest)
    | [] => .error .malformed
  else .error .malformed

/-- Reads flags and the colon or parenthesis behind them. -/
def readFlags (cs : List Char) : Except Error (Opening × List Char) :=
  let letters := cs.takeWhile fun c => c != ':' && c != ')'
  match flagChange? true [] letters, cs.drop letters.length with
  | some change, ':' :: rest => .ok (.group (.plain change), rest)
  | some [], _ => .error .malformed
  | some change, ')' :: rest => .ok (.flags change, rest)
  | _, _ => .error .malformed

/-- Reads what follows an opening parenthesis. -/
def readOpening (index : Nat) (taken : List String) :
    List Char → Except Error (Opening × List Char)
  | '?' :: '=' :: _ => .error .malformed
  | '?' :: '!' :: _ => .error .malformed
  | '?' :: '<' :: '=' :: _ => .error .malformed
  | '?' :: '<' :: '!' :: _ => .error .malformed
  | '?' :: 'P' :: '<' :: cs => readName index taken cs
  | '?' :: '<' :: cs => readName index taken cs
  | '?' :: cs => readFlags cs
  | cs => .ok (.group (.capture index none), cs)

/-! ## The state of a reader -/

/-- A group that is not closed yet, or the whole expression. -/
structure Level where
  kind : GroupKind
  /-- The alternatives that are complete, the last one first. -/
  branches : List Expr
  /-- The items of the alternative that is not complete, the last one first. -/
  items : List Expr
  /-- Whether blanks are passed over behind the group. -/
  blanksBehind : Bool

/-- A class that is not closed yet. -/
structure ClassLevel where
  negated : Bool
  /-- The operation whose right side is being read, and its left side. -/
  pending : Option (ClassOp × ClassExpr)
  /-- The items read, the last one first. -/
  items : List ClassExpr

/-- What has been read. -/
structure State where
  /-- The innermost open group. -/
  level : Level
  /-- The groups around it, the innermost one first. -/
  outer : List Level
  /-- The open classes, the innermost one first. -/
  classes : List ClassLevel
  /-- Whether blanks are passed over. -/
  blanks : Bool
  /-- How many capturing groups have been opened. -/
  groups : Nat
  names : List String

def State.initial : State := ⟨⟨.plain [], [], [], false⟩, [], [], false, 0, []⟩

/-- Adds an item to the alternative being read. -/
def State.push (s : State) (e : Expr) : State :=
  { s with level := { s.level with items := e :: s.level.items } }

/-- The expression of a level that is closed. -/
def Level.expr (l : Level) : Expr :=
  .ofBranches (l.branches.reverse ++ [.ofItems l.items.reverse])

/-- The class of a level whose items are complete: the pending operation is done. -/
def ClassLevel.body (l : ClassLevel) : ClassExpr :=
  let right := ClassExpr.ofItems l.items.reverse
  match l.pending with
  | none => right
  | some (op, left) => .op op left right

/-! ## One turn -/

/-- The last item gives way to its repetition. -/
def State.repeatLast (s : State) (min : Nat) (max : Option Nat) (lazy : Bool) :
    Except Error State :=
  match s.level.items with
  | [] => .error .malformed
  | .flags _ :: _ => .error .malformed
  | e :: items =>
    .ok { s with level := { s.level with items := .repetition min max lazy e :: items } }

/-- Whether a repetition is lazy, as the next character says, and how many characters say so. -/
def laziness : List Char → Bool × Nat
  | '?' :: _ => (true, 1)
  | _ => (false, 0)

/-- A repetition written with one character. -/
def readRepetition (s : State) (min : Nat) (max : Option Nat) (rest : List Char) :
    Except Error (State × Nat) :=
  let (lazy, used) := laziness rest
  match s.repeatLast min max lazy with
  | .ok s => .ok (s, used)
  | .error e => .error e

/-- A repetition written with a count in braces. -/
def readCount (s : State) (rest : List Char) : Except Error (State × Nat) := do
  let (low, after) := readDecimal s.blanks (skipBlanks s.blanks rest)
  let (min, max, after) ←
    match low, after with
    | some n, '}' :: after => pure (n, some n, after)
    | some n, ',' :: after =>
      match skipBlanks s.blanks after with
      | '}' :: after => pure (n, none, after)
      | after =>
        match readDecimal s.blanks after with
        | (some m, '}' :: after) =>
          if n ≤ m then pure (n, some m, after) else throw .malformed
        | _ => throw .malformed
    | _, _ => throw .malformed
  let after := skipBlanks s.blanks after
  let (lazy, used) := laziness after
  let s ← s.repeatLast min max lazy
  pure (s, usedUp rest after + used)

def openGroup (s : State) (rest : List Char) : Except Error (State × Nat) := do
  let (opening, after) ← readOpening (s.groups + 1) s.names (skipBlanks s.blanks rest)
  let used := usedUp rest after
  match opening with
  | .flags change =>
    pure ({ s.push (.flags change) with blanks := (FlagChange.find? change .blanks).getD s.blanks },
      used)
  | .group kind =>
    let inside := { s with level := ⟨kind, [], [], s.blanks⟩, outer := s.level :: s.outer }
    match kind with
    | .plain change =>
      pure ({ inside with blanks := (FlagChange.find? change .blanks).getD s.blanks }, used)
    | .capture index name =>
      pure ({ inside with groups := index, names := name.toList ++ s.names }, used)

def closeGroup (s : State) : Except Error State :=
  match s.outer with
  | [] => .error .malformed
  | level :: outer =>
    .ok ({ s with level := level, outer := outer, blanks := s.level.blanksBehind }.push
      (.group s.level.kind s.level.expr))

/-- A bar: the alternative is complete. -/
def State.nextBranch (s : State) : State :=
  { s with level := { s.level with branches := .ofItems s.level.items.reverse :: s.level.branches,
                                   items := [] } }

/-! ## Classes -/

/-- An opening bracket: the class has begun, and its first items may be hyphens or a bracket. -/
def openClass (s : State) (rest : List Char) : State × Nat :=
  let after := skipBlanks s.blanks rest
  let (negated, after) :=
    match after with
    | '^' :: after => (true, skipBlanks s.blanks after)
    | after => (false, after)
  let (hyphens, after) := takeChars s.blanks (· == '-') false after
  let items := hyphens.map fun c => ClassExpr.literal ⟨c, false⟩
  let (items, after) :=
    match items, after with
    | [], ']' :: after => ([ClassExpr.literal ⟨']', false⟩], skipBlanks s.blanks after)
    | items, after => (items, after)
  ({ s with classes := ⟨negated, none, items⟩ :: s.classes }, usedUp rest after)

/-- The ranges of ASCII characters with a name. -/
def asciiClass? (name : List Char) : Option CharSet :=
  match String.ofList name with
  | "alnum" => some (.ofRanges [(0x30, 0x39), (0x41, 0x5A), (0x61, 0x7A)])
  | "alpha" => some (.ofRanges [(0x41, 0x5A), (0x61, 0x7A)])
  | "ascii" => some (.ofRanges [(0, 0x7F)])
  | "blank" => some (.ofRanges [(0x09, 0x09), (0x20, 0x20)])
  | "cntrl" => some (.ofRanges [(0, 0x1F), (0x7F, 0x7F)])
  | "digit" => some (.ofRanges [(0x30, 0x39)])
  | "graph" => some (.ofRanges [(0x21, 0x7E)])
  | "lower" => some (.ofRanges [(0x61, 0x7A)])
  | "print" => some (.ofRanges [(0x20, 0x7E)])
  | "punct" => some (.ofRanges [(0x21, 0x2F), (0x3A, 0x40), (0x5B, 0x60), (0x7B, 0x7E)])
  | "space" => some (.ofRanges [(0x09, 0x0D), (0x20, 0x20)])
  | "upper" => some (.ofRanges [(0x41, 0x5A)])
  | "word" => some (.ofRanges [(0x30, 0x39), (0x41, 0x5A), (0x5F, 0x5F), (0x61, 0x7A)])
  | "xdigit" => some (.ofRanges [(0x30, 0x39), (0x41, 0x46), (0x61, 0x66)])
  | _ => none

/-- An ASCII class behind its opening bracket, if there is one, and how many characters it takes. -/
def asciiClassAt? (rest : List Char) : Option (ClassExpr × Nat) :=
  match rest with
  | ':' :: '^' :: cs => named true 2 cs
  | ':' :: cs => named false 1 cs
  | _ => none
where
  /-- The class whose name comes next, behind `before` characters. -/
  named (negated : Bool) (before : Nat) (cs : List Char) : Option (ClassExpr × Nat) :=
    let name := cs.takeWhile (· != ':')
    match cs.drop name.length with
    | ':' :: ']' :: _ => do
      let set ← asciiClass? name
      some (.ascii negated set, before + name.length + 2)
    | _ => none

/-- Adds an item to the class being read. -/
def State.pushClass (s : State) (c : ClassExpr) : State :=
  match s.classes with
  | [] => s.push (.chars c)
  | level :: outer => { s with classes := { level with items := c :: level.items } :: outer }

/-- A closing bracket. -/
def closeClass (s : State) : State :=
  match s.classes with
  | [] => s
  | level :: outer => { s with classes := outer }.pushClass (.bracket level.negated level.body)

/-- An operation: what has been read of the class is its left side. -/
def State.operation (s : State) (op : ClassOp) : State :=
  match s.classes with
  | [] => s
  | level :: outer => { s with classes := ⟨level.negated, some (op, level.body), []⟩ :: outer }

/-- Reads an item of a class or an end of a range. -/
def readItem (blanks : Bool) (c : Char) (rest : List Char) :
    Except Error (Primitive × List Char) :=
  if c = '\\' then readEscape blanks rest else .ok (plain c, rest)

/-- The item that a primitive is by itself. -/
def Primitive.classItem : Primitive → Except Error ClassExpr
  | .literal l => .ok (.literal l)
  | .named negated c => .ok (.named negated c)
  | .anchor _ => .error .malformed
  | .dot => .error .malformed

/-- The character behind a hyphen that decides whether the hyphen makes a range. -/
def peekRange (blanks : Bool) (cs : List Char) : Option Char :=
  if blanks then go false cs <|> cs.head? else cs.head?
where
  /-- The first character that is no blank; one number sign is passed over. -/
  go (sign : Bool) : List Char → Option Char
    | [] => none
    | c :: cs =>
      if isBlank c then go sign cs else if !sign && c == '#' then go true cs else some c

/-- Reads an item of a class, or a range. -/
def readClassItem (s : State) (c : Char) (rest : List Char) : Except Error (State × Nat) := do
  let (first, after) ← readItem s.blanks c rest
  let after := skipBlanks s.blanks after
  match after with
  | '-' :: behind =>
    let next := peekRange s.blanks behind
    if next == some ']' || next == some '-' then
      pure (s.pushClass (← first.classItem), usedUp rest after)
    else
      match skipBlanks s.blanks behind with
      | [] => throw .malformed
      | d :: behind =>
        let (last, behind) ← readItem s.blanks d behind
        match first, last with
        | .literal a, .literal b =>
          if a.char ≤ b.char then pure (s.pushClass (.range a b), usedUp rest behind)
          else throw .malformed
        | _, _ => throw .malformed
  | after => pure (s.pushClass (← first.classItem), usedUp rest after)

/-- One turn inside a class. -/
def classStep (s : State) (c : Char) (rest : List Char) : Except Error (State × Nat) :=
  match c, rest with
  | '[', rest =>
    match asciiClassAt? rest with
    | some (item, used) => .ok (s.pushClass item, used)
    | none => .ok (openClass s rest)
  | ']', _ => .ok (closeClass s, 0)
  | '&', '&' :: _ => .ok (s.operation .intersection, 1)
  | '-', '-' :: _ => .ok (s.operation .difference, 1)
  | '~', '~' :: _ => .ok (s.operation .symmetricDifference, 1)
  | c, rest => readClassItem s c rest

/-- One turn outside classes. -/
def itemStep (s : State) (c : Char) (rest : List Char) : Except Error (State × Nat) :=
  match c with
  | '(' => openGroup s rest
  | ')' => (closeGroup s).map (·, 0)
  | '|' => .ok (s.nextBranch, 0)
  | '[' => .ok (openClass s rest)
  | '?' => readRepetition s 0 (some 1) rest
  | '*' => readRepetition s 0 none rest
  | '+' => readRepetition s 1 none rest
  | '{' => readCount s rest
  | '\\' => do
    let (p, after) ← readEscape s.blanks rest
    pure (s.push p.expr, usedUp rest after)
  | '.' => .ok (s.push .dot, 0)
  | '^' => .ok (s.push (.anchor .lineStart), 0)
  | '$' => .ok (s.push (.anchor .lineEnd), 0)
  | c => .ok (s.push (.literal ⟨c, false⟩), 0)

/-- One turn. -/
def step (s : State) (c : Char) (rest : List Char) : Except Error (State × Nat) :=
  if s.blanks && isBlank c then .ok (s, 0)
  else if s.blanks && c == '#' then .ok (s, usedUp rest (afterComment rest))
  else if s.classes.isEmpty then itemStep s c rest
  else classStep s c rest

/-- The expression that has been read, if every group and class is closed. -/
def State.finish (s : State) : Except Error Expr :=
  if s.classes.isEmpty && s.outer.isEmpty then .ok s.level.expr else .error .malformed

end PathRouter.Regex.Parser

namespace PathRouter.Regex

/-- The syntax tree of the text of an expression. -/
def parse (source : String) : Except Error Expr := do
  let s ← Text.consume Parser.step 0 Parser.State.initial source.toList
  let e ← s.finish
  if e.depth ≤ maxDepth then pure e else throw .malformed

end PathRouter.Regex
