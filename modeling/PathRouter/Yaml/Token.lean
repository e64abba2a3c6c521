import PathRouter.Yaml.Scalar
import PathRouter.Yaml.Tag
import PathRouter.Text.Consume

/-!
# Tokens of YAML texts

The text is cut into tokens, and the indentation of its lines is made visible by tokens for the
beginning and the end of blocks. Whether a scalar is a key is known only at the colon behind it;
until then it is held back together with all that follows it.
-/

namespace PathRouter.Yaml

inductive Token where
  | directive (d : Directive)
  | documentStart
  | documentEnd
  | sequenceStart
  | mappingStart
  | blockEnd
  /-- A dash before an item. -/
  | entry
  | key
  | value
  | bracketOpen
  | bracketClose
  | braceOpen
  | braceClose
  | comma
  | anchor (name : String)
  | alias (name : String)
  | tag (t : Tag)
  /-- A text; a plain one is written without quotation marks and not as a block. -/
  | scalar (text : String) (plain : Bool)
  | textEnd
deriving DecidableEq, Repr

/-- A token that may turn out to be the beginning of a key. -/
structure Candidate where
  number : Nat
  /-- Whether nothing else than a key can stand here. -/
  required : Bool
  mark : Mark
deriving DecidableEq, Repr

namespace Candidate

/-- The greatest length of a key. -/
def reach : Nat := 1024

/-- Whether a key can no longer begin there: keys are short and stand on one line. -/
def isStale (k : Candidate) (m : Mark) : Bool :=
  k.mark.line < m.line || k.mark.column + reach < m.column

end Candidate

/-- What is known in the middle of a text. -/
structure Scanner where
  /-- The tokens that are certain, last one first. -/
  released : List Token
  /-- The tokens behind them, to which tokens may still be added. -/
  pending : List Token
  mark : Mark
  /-- One more than the indentation of the innermost block, zero outside of blocks. -/
  level : Nat
  /-- The levels of the blocks around it. -/
  outerLevels : List Nat
  /-- Whether a key may begin here. -/
  keyAllowed : Bool
  /-- The candidate inside the innermost brackets. -/
  candidate : Option Candidate
  /-- The candidates outside of the innermost brackets. -/
  outerCandidates : List (Option Candidate)

namespace Scanner

def start : Scanner := ⟨[], [], .origin, 0, [], true, none, []⟩

/-- Whether a place is inside brackets. -/
def inFlow (s : Scanner) : Bool := !s.outerCandidates.isEmpty

def count (s : Scanner) : Nat := s.released.length + s.pending.length

def push (s : Scanner) (t : Token) : Scanner := { s with pending := s.pending ++ [t] }

/-- Adds a token before the one with a number. -/
def pushBefore (s : Scanner) (number : Nat) (t : Token) : Scanner :=
  { s with pending := s.pending.insertIdx (number - s.released.length) t }

/-! ## Candidates -/

/-- Gives a candidate up if it is stale, which must not happen to a required one. -/
def refresh (m : Mark) : Option Candidate → Option (Option Candidate)
  | none => some none
  | some k => if k.isStale m then (if k.required then none else some none) else some (some k)

/-- Gives up the stale candidates. -/
def dropStale (s : Scanner) : Option Scanner := do
  let candidate ← refresh s.mark s.candidate
  let outerCandidates ← s.outerCandidates.mapM (refresh s.mark)
  pure { s with candidate, outerCandidates }

/-- Gives up the candidate inside the innermost brackets, which must not be required. -/
def dropCandidate (s : Scanner) : Option Scanner :=
  if s.candidate.any (·.required) then none else some { s with candidate := none }

/-- Makes the next token a candidate, if a key may begin here. -/
def addCandidate (s : Scanner) : Option Scanner := do
  if s.keyAllowed then
    let k : Candidate := ⟨s.count, !s.inFlow && s.level == s.mark.column + 1, s.mark⟩
    let s ← s.dropCandidate
    pure { s with candidate := some k }
  else pure s

/-- Releases the tokens before the first candidate. -/
def release (s : Scanner) : Scanner :=
  let numbers := (s.candidate :: s.outerCandidates).filterMap fun k => k.map (·.number)
  let free := match numbers.min? with
    | none => s.pending.length
    | some number => number - s.released.length
  { s with
    released := (s.pending.take free).reverse ++ s.released
    pending := s.pending.drop free }

/-! ## Blocks -/

/-- Opens a block at a column, if that is further in than the innermost block. -/
def openBlock (s : Scanner) (column : Nat) (add : Scanner → Scanner) : Scanner :=
  if s.inFlow || column + 1 ≤ s.level then s
  else add { s with level := column + 1, outerLevels := s.level :: s.outerLevels }

/-- The number of blocks further in than a level, and the levels of the other ones. -/
def closing (level : Nat) : Nat → List Nat → Nat × Nat × List Nat
  | inner, [] => (0, inner, [])
  | inner, outer :: levels =>
    if level < inner then
      let (n, inner, levels) := closing level outer levels
      (n + 1, inner, levels)
    else (0, inner, outer :: levels)

/-- Closes the blocks further in than a level. -/
def closeBlocks (s : Scanner) (level : Nat) : Scanner :=
  if s.inFlow then s
  else
    let (n, inner, outer) := closing level s.level s.outerLevels
    { s with
      pending := s.pending ++ List.replicate n .blockEnd
      level := inner
      outerLevels := outer }

/-! ## Tokens

Each of these functions adds the tokens of one kind and says how many characters they take behind
the first one. -/

/-- What has to be done before a token that ends all blocks. -/
def leaveBlocks (s : Scanner) : Option Scanner := do
  let s ← (s.closeBlocks 0).dropCandidate
  pure { s with keyAllowed := false }

def directive (s : Scanner) (cs : List Char) : Option (Scanner × Nat) := do
  let s ← s.leaveBlocks
  let (d, rest) ← readDirective cs
  pure (s.push (.directive d), Text.usedUp cs rest)

/-- The mark of a document's start or end. -/
def boundary (s : Scanner) (t : Token) : Option (Scanner × Nat) := do
  pure ((← s.leaveBlocks).push t, 2)

/-- An opening bracket or brace. -/
def openFlow (s : Scanner) (t : Token) : Option (Scanner × Nat) := do
  let s ← s.addCandidate
  let s := { s with
    candidate := none
    outerCandidates := s.candidate :: s.outerCandidates
    keyAllowed := true }
  pure (s.push t, 0)

/-- A closing bracket or brace. -/
def closeFlow (s : Scanner) (t : Token) : Option (Scanner × Nat) := do
  let s ← s.dropCandidate
  let s := match s.outerCandidates with
    | [] => s
    | k :: ks => { s with candidate := k, outerCandidates := ks }
  pure ({ s with keyAllowed := false }.push t, 0)

def comma (s : Scanner) : Option (Scanner × Nat) := do
  pure ({ ← s.dropCandidate with keyAllowed := true }.push .comma, 0)

/-- A dash before an item. -/
def entry (s : Scanner) : Option (Scanner × Nat) := do
  if !s.inFlow && !s.keyAllowed then none
  let s ← (s.openBlock s.mark.column (push · .sequenceStart)).dropCandidate
  pure ({ s with keyAllowed := true }.push .entry, 0)

/-- A question mark before a key. -/
def key (s : Scanner) : Option (Scanner × Nat) := do
  if !s.inFlow && !s.keyAllowed then none
  let s ← (s.openBlock s.mark.column (push · .mappingStart)).dropCandidate
  pure ({ s with keyAllowed := !s.inFlow }.push .key, 0)

/-- A colon before a value. If there is a candidate, it begins the key. -/
def value (s : Scanner) : Option (Scanner × Nat) :=
  match s.candidate with
  | some k =>
    let s := s.pushBefore k.number .key
    let s := s.openBlock k.mark.column (pushBefore · k.number .mappingStart)
    some ({ s with candidate := none, keyAllowed := false }.push .value, 0)
  | none =>
    if !s.inFlow && !s.keyAllowed then none
    else
      let s := s.openBlock s.mark.column (push · .mappingStart)
      some ({ s with keyAllowed := !s.inFlow }.push .value, 0)

/-- The characters that may follow the name of an anchor beside blanks. -/
def endsAnchor (cs : List Char) : Bool :=
  endsWord cs || cs.head?.any "?:,]\x7d%@\x60".toList.contains

/-- An anchor or an alias. -/
def named (s : Scanner) (t : String → Token) (cs : List Char) : Option (Scanner × Nat) := do
  let s ← s.addCandidate
  let name := cs.takeWhile isNameChar
  if name.isEmpty || !endsAnchor (cs.dropWhile isNameChar) then none
  pure ({ s with keyAllowed := false }.push (t (String.ofList name)), name.length)

def tag (s : Scanner) (cs : List Char) : Option (Scanner × Nat) := do
  let s ← s.addCandidate
  let (t, rest) ← readTag s.inFlow cs
  pure ({ s with keyAllowed := false }.push (.tag t), Text.usedUp cs rest)

def block (s : Scanner) (folded : Bool) (cs : List Char) : Option (Scanner × Nat) := do
  let s ← s.dropCandidate
  let (text, used) ← readBlock folded s.level cs
  pure ({ s with keyAllowed := true }.push (.scalar (String.ofList text) false), used)

def quoted (s : Scanner) (q : Quote) (cs : List Char) : Option (Scanner × Nat) := do
  let s ← s.addCandidate
  let (text, rest) ← readQuoted q 0 .none cs
  pure ({ s with keyAllowed := false }.push (.scalar (String.ofList text) false),
    Text.usedUp cs rest)

def plain (s : Scanner) (c : Char) (cs : List Char) : Option (Scanner × Nat) := do
  let s ← s.addCandidate
  let p ← readPlain s.inFlow s.level .none (c :: cs)
  pure ({ s with keyAllowed := p.crossesLine }.push (.scalar (String.ofList p.text) true),
    Text.usedUp cs p.rest)

/-- The token that begins with a character. -/
def dispatch (s : Scanner) (c : Char) (cs : List Char) : Option (Scanner × Nat) :=
  if s.mark.column = 0 ∧ c = '%' then s.directive cs
  else if s.mark.column = 0 ∧ isBoundary (c :: cs) then
    s.boundary (if c = '-' then .documentStart else .documentEnd)
  else
    match c with
    | '[' => s.openFlow .bracketOpen
    | ']' => s.closeFlow .bracketClose
    | '\x7b' => s.openFlow .braceOpen
    | '\x7d' => s.closeFlow .braceClose
    | ',' => s.comma
    | '-' => if endsWord cs then s.entry else s.plain c cs
    | '?' => if s.inFlow || endsWord cs then s.key else s.plain c cs
    | ':' => if s.inFlow || endsWord cs then s.value else s.plain c cs
    | '*' => s.named .alias cs
    | '&' => s.named .anchor cs
    | '!' => s.tag cs
    | '|' => if s.inFlow then none else s.block false cs
    | '>' => if s.inFlow then none else s.block true cs
    | '\'' => s.quoted .single cs
    | '"' => s.quoted .double cs
    | '\t' | '%' | '@' | '\x60' => none
    | c => s.plain c cs

/-- Moves behind some characters. -/
def moveBehind (s : Scanner) (cs : List Char) : Scanner := { s with mark := s.mark.after cs }

/-- Takes the token that begins with a character. -/
def token (s : Scanner) (c : Char) (cs : List Char) : Option (Scanner × Nat) := do
  let s ← s.dropStale
  let (s, used) ← (s.closeBlocks (s.mark.column + 1)).dispatch c cs
  let s ← (s.moveBehind (c :: cs.take used)).dropStale
  pure (s.release, used)

/-- The characters of a comment behind its number sign. -/
def comment (cs : List Char) : List Char := cs.takeWhile fun c => !isBreak c

/-- The characters from a place on that stand between tokens, if there are any. -/
def filler (s : Scanner) (c : Char) (cs : List Char) : List Char :=
  if s.mark = .origin ∧ c = byteOrderMark then [c]
  else if c = ' ' then [c]
  else if c = '\t' ∧ (s.inFlow ∨ !s.keyAllowed) then [c]
  else if c = '#' then c :: comment cs
  else if isBreak c then [c]
  else []

/-- Takes what stands at a place: a token or something between tokens. A line break lets a key
begin. A fault leaves the tokens released so far. -/
def step (s : Scanner) (c : Char) (cs : List Char) : Except (List Token) (Scanner × Nat) :=
  match s.filler c cs with
  | [] =>
    match s.token c cs with
    | some next => .ok next
    | none => .error s.released
  | between =>
    .ok ({ s.moveBehind between with
      keyAllowed := s.keyAllowed || (isBreak c && !s.inFlow) }, between.length - 1)

/-- Takes the end of the text, as if it began a line. -/
def finish (s : Scanner) : Option Scanner := do
  let s ← s.dropStale
  let s ← { s with mark := ⟨s.mark.line + 1, 0⟩ }.leaveBlocks
  let s ← (s.push .textEnd).dropStale
  pure s.release

end Scanner

/-- The tokens of a text. After a fault the last one is missing, `textEnd`, and perhaps others. -/
def tokens (cs : List Char) : List Token :=
  (match Text.consume Scanner.step 0 .start cs with
    | .ok s => (s.finish.getD s).released
    | .error released => released).reverse

end PathRouter.Yaml
