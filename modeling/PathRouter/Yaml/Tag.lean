import PathRouter.Yaml.Source
import PathRouter.Text.Digit

/-!
# Tags and directives

A tag names a type. It is written out, or shortened by a handle that stands for its beginning; what
a handle stands for is said by the directives at the head of a document. Tags are octets, since they
may be written with percent escapes.
-/

namespace PathRouter.Yaml

/-- A tag as it is written. -/
structure Tag where
  /-- What stands for the beginning of the tag; nothing if the tag is written out. -/
  handle : List Char
  suffix : List UInt8
deriving DecidableEq, Repr

/-- The octets of an ASCII text. -/
def octets (s : String) : List UInt8 := s.toList.map fun c => c.toNat.toUInt8

/-- The octet of two hexadecimal digits. -/
def uriOctet? : List Char → Option Nat
  | a :: b :: _ => Text.hexNumber? [a, b]
  | _ => none

/-- How many octets follow the first octet of a character. -/
def followers? (octet : Nat) : Option Nat :=
  if octet < 0x80 then some 0
  else if octet < 0xC0 then none
  else if octet < 0xE0 then some 1
  else if octet < 0xF0 then some 2
  else if octet < 0xF8 then some 3
  else none

/-- The characters of a tag. Brackets and commas are among them where they can mean nothing else. -/
def isUriChar (brackets : Bool) (c : Char) : Bool :=
  isNameChar c || ";/?:@&=+$.!~*'()".toList.contains c || (brackets && ",[]".toList.contains c)

/-- Reads the characters of a tag, behind `skip` characters that are used up, while `owed` octets
must follow in percent escapes. The result is the octets and what follows. -/
def readUri (brackets : Bool) : Nat → Nat → List Char → Option (List UInt8 × List Char)
  | _, owed, [] => if owed = 0 then some ([], []) else none
  | skip + 1, owed, _ :: cs => readUri brackets skip owed cs
  | 0, owed, c :: cs =>
    if c = '%' then do
      let octet ← uriOctet? cs
      let owed ← if owed = 0 then followers? octet
        else if octet / 64 = 2 then some (owed - 1) else none
      let (octets, rest) ← readUri brackets 2 owed cs
      pure (octet.toUInt8 :: octets, rest)
    else if owed ≠ 0 then none
    else if isUriChar brackets c then
      (readUri brackets 0 0 cs).map fun (octets, rest) => (c.toNat.toUInt8 :: octets, rest)
    else some ([], c :: cs)

/-- Reads the characters of a tag, of which there must be one. An octet zero ends the tag. -/
def readTagText (brackets : Bool) (cs : List Char) : Option (List UInt8 × List Char) := do
  let (octets, rest) ← readUri brackets 0 0 cs
  if rest.length = cs.length then none else some (octets.takeWhile (· != 0), rest)

/-- Reads a tag from behind its exclamation mark. -/
def readTagForm : List Char → Option (Tag × List Char)
  | '<' :: cs => do
    let (suffix, rest) ← readTagText true cs
    match rest with
    | '>' :: rest => some (⟨[], suffix⟩, rest)
    | _ => none
  | cs =>
    let name := cs.takeWhile isNameChar
    match cs.dropWhile isNameChar with
    | '!' :: rest => do
      let (suffix, rest) ← readTagText false rest
      pure (⟨'!' :: name ++ ['!'], suffix⟩, rest)
    | rest => do
      let (more, rest) ← readUri false 0 0 rest
      let suffix := octets (String.ofList name) ++ more.takeWhile (· != 0)
      pure (if suffix.isEmpty then ⟨[], octets "!"⟩ else ⟨['!'], suffix⟩, rest)

/-- Reads a tag from behind its exclamation mark. A blank follows it, or inside brackets a comma. -/
def readTag (inFlow : Bool) (cs : List Char) : Option (Tag × List Char) := do
  let (tag, rest) ← readTagForm cs
  if endsWord rest || (inFlow && rest.head? == some ',') then some (tag, rest) else none

/-! ## Directives -/

inductive Directive where
  /-- The version of the format. -/
  | version (major minor : Nat)
  /-- What a handle stands for. -/
  | handle (handle : List Char) (lead : List UInt8)
deriving DecidableEq, Repr

/-- Reads a number of at most nine digits. -/
def readVersionNumber (cs : List Char) : Option (Nat × List Char) :=
  let digits := cs.takeWhile Char.isDigit
  if digits.isEmpty || 9 < digits.length then none
  else some (Text.number digits, cs.dropWhile Char.isDigit)

def readVersion (cs : List Char) : Option (Directive × List Char) := do
  let (major, rest) ← readVersionNumber (cs.dropWhile isBlank)
  match rest with
  | '.' :: rest =>
    let (minor, rest) ← readVersionNumber rest
    pure (.version major minor, rest)
  | _ => none

/-- Reads a handle that is being declared. -/
def readHandle : List Char → Option (List Char × List Char)
  | '!' :: cs =>
    let name := cs.takeWhile isNameChar
    match cs.dropWhile isNameChar with
    | '!' :: rest => some ('!' :: name ++ ['!'], rest)
    | rest => if name.isEmpty then some (['!'], rest) else none
  | _ => none

/-- Reads what a handle stands for. -/
def readHandleMeaning (cs : List Char) : Option (Directive × List Char) := do
  let (handle, rest) ← readHandle (cs.dropWhile isBlank)
  if rest.head?.any isBlank then
    let (lead, rest) ← readTagText true (rest.dropWhile isBlank)
    if endsWord rest then some (.handle handle lead, rest) else none
  else none

/-- Reads a directive from behind its percent sign to the end of its line. -/
def readDirective (cs : List Char) : Option (Directive × List Char) := do
  let rest := cs.dropWhile isNameChar
  if !endsWord rest then none
  let (directive, rest) ← match String.ofList (cs.takeWhile isNameChar) with
    | "YAML" => readVersion rest
    | "TAG" => readHandleMeaning rest
    | _ => none
  pure (directive, ← afterLine? rest)

/-! ## Handles -/

/-- What handles stand for; the first entry of a handle counts. -/
abbrev Handles := List (List Char × List UInt8)

/-- The handles that need no directive. -/
def Handles.builtIn : Handles :=
  [(['!'], octets "!"), (['!', '!'], octets "tag:yaml.org,2002:")]

/-- The full tag, if its handle is known. -/
def Tag.resolve (handles : Handles) (t : Tag) : Option (List UInt8) :=
  if t.handle.isEmpty then some t.suffix
  else (handles.lookup t.handle).map (· ++ t.suffix)

end PathRouter.Yaml
