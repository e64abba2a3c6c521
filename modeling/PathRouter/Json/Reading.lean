import PathRouter.Json.Number
import PathRouter.Text.Utf8

/-!
# Reading JSON texts

A text is read into a tree. Where it goes wrong the tree breaks off, and what has been read before
is still there: who looks at a tree from left to right comes to a fault only after everything that
stands before it.
-/

namespace PathRouter.Json

mutual

/-- A value as far as it could be read. -/
inductive Reading where
  | null
  | bool (b : Bool)
  | number (n : Number)
  | string (s : String)
  | array (items : Items)
  | object (members : Members)
  | broken (f : Fault)

/-- The items of an array as far as they could be read. -/
inductive Items where
  | done
  | broken (f : Fault)
  | cons (item : Reading) (rest : Items)

/-- The members of an object as far as they could be read. -/
inductive Members where
  | done
  | broken (f : Fault)
  | cons (key : String) (value : Reading) (rest : Members)

end

/-! ## Strings -/

/-- The value of four hexadecimal digits. A fault tells whether four octets are left at all. -/
def hexUnit (cs : List Char) : Except Fault Nat :=
  if Text.Utf8.size cs < 4 then .error .ended
  else
    match cs.take 4, Text.hexNumber? (cs.take 4) with
    | [_, _, _, _], some n => .ok n
    | _, _ => .error .malformed

/-- The character of one or two units behind `\u`, and how many characters they take. -/
def unitChar (cs : List Char) : Except Fault (Char × Nat) := do
  let high ← hexUnit cs
  if 0xDC00 ≤ high ∧ high ≤ 0xDFFF then throw .malformed
  else if 0xD800 ≤ high ∧ high ≤ 0xDBFF then
    match cs.drop 4 with
    | [] => throw .ended
    | ['\\'] => throw .ended
    | '\\' :: 'u' :: rest =>
      let low ← hexUnit rest
      if 0xDC00 ≤ low ∧ low ≤ 0xDFFF then
        pure (Char.ofNat (0x10000 + (high - 0xD800) * 0x400 + (low - 0xDC00)), 10)
      else throw .malformed
    | _ => throw .malformed
  else pure (Char.ofNat high, 4)

/-- The character of an escape behind its backslash, and how many characters the escape takes. -/
def escapeChar : List Char → Except Fault (Char × Nat)
  | [] => .error .ended
  | '"' :: _ => .ok ('"', 1)
  | '\\' :: _ => .ok ('\\', 1)
  | '/' :: _ => .ok ('/', 1)
  | 'b' :: _ => .ok ('\x08', 1)
  | 'f' :: _ => .ok ('\x0C', 1)
  | 'n' :: _ => .ok ('\n', 1)
  | 'r' :: _ => .ok ('\r', 1)
  | 't' :: _ => .ok ('\t', 1)
  | 'u' :: cs => (unitChar cs).map fun (c, used) => (c, used + 1)
  | _ => .error .malformed

/-- The characters up to the closing quotation mark, behind `skip` characters that are used up, and
what follows it. -/
def stringChars : Nat → List Char → Except Fault (List Char × List Char)
  | _, [] => .error .ended
  | skip + 1, _ :: cs => stringChars skip cs
  | 0, c :: cs =>
    if c = '"' then .ok ([], cs)
    else if c = '\\' then
      match escapeChar cs with
      | .error f => .error f
      | .ok (d, used) => (stringChars used cs).map fun (ds, rest) => (d :: ds, rest)
    else if c.toNat < 0x20 then .error .malformed
    else (stringChars 0 cs).map fun (ds, rest) => (c :: ds, rest)

/-! ## Values -/

/-- Whether a character may stand between the parts of a text. -/
def isSpace (c : Char) : Bool := c == ' ' || c == '\n' || c == '\t' || c == '\r'

/-- The rest of a word, if it stands at the beginning of a text. -/
def expectWord : List Char → List Char → Except Fault (List Char)
  | [], cs => .ok cs
  | _ :: _, [] => .error .ended
  | w :: ws, c :: cs => if w = c then expectWord ws cs else .error .malformed

/-- A value and what follows it, or a break. -/
def orBroken {α : Type} (value : α → Reading) :
    Except Fault (α × List Char) → Reading × List Char
  | .ok (a, rest) => (value a, rest)
  | .error f => (.broken f, [])

/-- A value that is a word. -/
def readWord (word : String) (value : Reading) (cs : List Char) : Reading × List Char :=
  orBroken (fun _ => value) ((expectWord word.toList cs).map ((), ·))

mutual

/-- Reads a value; `fuel` bounds the number of steps and is never less than the length of the
text. -/
def readValue : Nat → List Char → Reading × List Char
  | 0, _ => (.broken .ended, [])
  | fuel + 1, cs =>
    match cs.dropWhile isSpace with
    | [] => (.broken .ended, [])
    | '[' :: cs =>
      let (items, rest) := readItems fuel true cs
      (.array items, rest)
    | '\x7b' :: cs =>
      let (members, rest) := readMembers fuel true cs
      (.object members, rest)
    | '"' :: cs => orBroken (fun s => .string (String.ofList s)) (stringChars 0 cs)
    | 'n' :: cs => readWord "ull" .null cs
    | 't' :: cs => readWord "rue" (.bool true) cs
    | 'f' :: cs => readWord "alse" (.bool false) cs
    | c :: cs =>
      if c.isDigit || c == '-' then orBroken .number (Number.read (c :: cs))
      else (.broken .malformed, [])

/-- Reads the items of an array, the first one of which has no comma before it. -/
def readItems : Nat → Bool → List Char → Items × List Char
  | 0, _, _ => (.broken .ended, [])
  | fuel + 1, first, cs =>
    match cs.dropWhile isSpace with
    | [] => (.broken .ended, [])
    | ']' :: cs => (.done, cs)
    | c :: cs =>
      if first || c == ',' then
        let (item, rest) := readValue fuel (if first then c :: cs else cs)
        let (items, rest) := readItems fuel false rest
        (.cons item items, rest)
      else (.broken .malformed, [])

/-- Reads the members of an object, the first one of which has no comma before it. -/
def readMembers : Nat → Bool → List Char → Members × List Char
  | 0, _, _ => (.broken .ended, [])
  | fuel + 1, first, cs =>
    match cs.dropWhile isSpace with
    | [] => (.broken .ended, [])
    | '\x7d' :: cs => (.done, cs)
    | c :: cs =>
      if first || c == ',' then
        readMember fuel (if first then c :: cs else cs.dropWhile isSpace)
      else (.broken .malformed, [])

/-- Reads a member from its key on, and the members behind it. -/
def readMember : Nat → List Char → Members × List Char
  | 0, _ => (.broken .ended, [])
  | _, [] => (.broken .ended, [])
  | fuel + 1, c :: cs =>
    if c = '"' then
      match stringChars 0 cs with
      | .error f => (.broken f, [])
      | .ok (key, cs) =>
        match cs.dropWhile isSpace with
        | [] => (.cons (String.ofList key) (.broken .ended) (.broken .ended), [])
        | c :: cs =>
          if c = ':' then
            let (value, rest) := readValue fuel cs
            let (members, rest) := readMembers fuel false rest
            (.cons (String.ofList key) value members, rest)
          else (.cons (String.ofList key) (.broken .malformed) (.broken .malformed), [])
    else (.broken .malformed, [])

end

/-- The tree of a text, and whether nothing follows it. -/
def read (text : String) : Reading × Bool :=
  let cs := text.toList
  let (value, rest) := readValue (2 * cs.length + 2) cs
  (value, (rest.dropWhile isSpace).isEmpty)

end PathRouter.Json
