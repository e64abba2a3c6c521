import PathRouter.Regex.Term

/-!
# Size of compiled expressions

The room that a term takes when it is compiled into an automaton on octets, forwards to find where a
match ends and backwards to find where it begins. A counted repetition takes as much room as its
body as many times as the count says; a set of characters takes as much as the automaton that reads
the UTF-8 forms of its characters. An expression is too large if either automaton is.
-/

namespace PathRouter.Regex

open Unicode (CharSet)

namespace Size

/-- Ranges of octets, one for each octet of a form. -/
abbrev Form := List (Nat × Nat)

/-- The forms, in octets behind the first one, of the numbers from `low` to `high`, in `n + 1`
digits to the base 64. -/
def digits : Nat → Nat → Nat → List Form
  | 0, low, high => [[(low, high)]]
  | n + 1, low, high =>
    let unit := Nat.pow 64 (n + 1)
    let first := low / unit
    let last := high / unit
    if first = last then (digits n (low % unit) (high % unit)).map ((first, first) :: ·)
    else
      let head := if low % unit = 0 then []
        else (digits n (low % unit) (unit - 1)).map ((first, first) :: ·)
      let tail := if high % unit = unit - 1 then []
        else (digits n 0 (high % unit)).map ((last, last) :: ·)
      let start := if low % unit = 0 then first else first + 1
      let stop := if high % unit = unit - 1 then last + 1 else last
      let middle :=
        if start < stop then [(start, stop - 1) :: List.replicate (n + 1) (0, 63)] else []
      head ++ middle ++ tail

/-- The octets of digits: the first one announces how many follow. -/
def octets (lead : Nat) : Form → Form
  | [] => []
  | (a, b) :: rest => (lead + a, lead + b) :: rest.map fun (a, b) => (0x80 + a, 0x80 + b)

/-- The code points with forms of one length: the first and the last one, what the first octet adds,
and how many octets follow. -/
def lengths : List (Nat × Nat × Nat × Nat) :=
  [(0, 0x7F, 0, 0), (0x80, 0x7FF, 0xC0, 1), (0x800, 0xFFFF, 0xE0, 2), (0x10000, 0x10FFFF, 0xF0, 3)]

/-- The forms of the characters of a range. -/
def formsOfRange (r : Nat × Nat) : List Form :=
  lengths.flatMap fun (first, last, lead, followers) =>
    if max first r.1 ≤ min last r.2 then
      (digits followers (max first r.1) (min last r.2)).map (octets lead)
    else []

/-- The forms of the characters of a set. -/
def forms (s : CharSet) : List Form := s.ranges.flatMap formsOfRange

/-- What follows each first range, for forms in order. -/
def successors : List Form → List (List Form)
  | [] => []
  | f :: fs =>
    match successors fs, fs with
    | group :: groups, g :: _ =>
      if f.head? = g.head? then (f.drop 1 :: group) :: groups else [f.drop 1] :: group :: groups
    | groups, _ => [f.drop 1] :: groups

/-- What is left of forms after each number of octets up to `n`, at every place of the tree of
forms. -/
def places : Nat → List (List Form) → List (List Form)
  | 0, layer => layer
  | n + 1, layer => layer ++ places n (layer.flatMap successors)

/-- The places of the tree of forms where an octet follows. -/
def inner (fs : List Form) : List (List Form) :=
  (places 3 [fs]).filter fun place => place.any fun f => !f.isEmpty

/-- The room of a set, forwards. Places with the same continuations are shared. -/
def forwardSet (s : CharSet) : Nat :=
  (inner (forms s)).eraseDups.foldl (fun room place => room + 32 + 8 * (successors place).length) 32

/-- The room of a set, backwards. Places with the same beginning are shared. -/
def backwardSet (s : CharSet) : Nat :=
  let fs := forms s
  (inner fs).foldl (fun room place => room + 32 * (successors place).length) (64 + 4 * fs.length)

/-- The room of a set of characters. -/
def ofSet (forward : Bool) (s : CharSet) : Nat :=
  match s.single? with
  | some c => 32 * c.utf8Size
  | none =>
    if s.isAscii then 64 + 8 * s.ranges.length
    else if forward then forwardSet s
    else backwardSet s

/-- The room of a branching with two ways to go. -/
def fork : Nat := 40

/-- The room of a state that does nothing. -/
def pass : Nat := 32

end Size

open Size in
/-- The room of a term, forwards or backwards. Only forwards are the places of groups noted. -/
def Term.room (forward : Bool) : Term → Nat
  | .empty => pass
  | .read s => ofSet forward s
  | .look _ => pass
  | .seq a b => a.room forward + b.room forward
  | .alt _ a (.alt n b c) => a.room forward + 4 + (Term.alt n b c).room forward
  | .alt _ a b => a.room forward + b.room forward + 8 + 2 * pass
  | .rep _ min (some 0) _ body => min * body.room forward
  | .rep _ min (some more) _ body => (min + more) * body.room forward + more * fork + pass
  | .rep _ 0 none _ body => body.room forward + 2 * fork + pass
  | .rep _ min none _ body => min * body.room forward + fork
  | .group _ _ body => body.room forward + if forward then 2 * pass else 0

/-- The room an automaton may take. -/
def maxRoom : Nat := 10 * 1024 * 1024

/-- Whether a term takes too much room. -/
def Term.isTooLarge (t : Term) : Bool :=
  maxRoom < t.room true + pass || maxRoom < t.room false + pass
where
  /-- The room of the state in which a match is complete. -/
  pass : Nat := 32

end PathRouter.Regex
