import PathRouter.Yaml.Token
import PathRouter.Dictionary

/-!
# Nodes of YAML documents

The tokens of a document are read into a tree. Where they go wrong the tree breaks off, and what has
been read before is still there. Anchored nodes carry a number, by which aliases refer to them.
-/

namespace PathRouter.Yaml

mutual

/-- A node as far as it could be read. -/
inductive Node where
  | scalar (anchor : Option Nat) (tag : Option (List UInt8)) (text : String) (plain : Bool)
  | sequence (anchor : Option Nat) (items : Items)
  | mapping (anchor : Option Nat) (members : Members)
  | alias (target : Nat)
  | broken

/-- The items of a sequence as far as they could be read. -/
inductive Items where
  | done
  | broken
  | cons (item : Node) (rest : Items)

/-- The members of a mapping as far as they could be read. -/
inductive Members where
  | done
  | broken
  | cons (key value : Node) (rest : Members)

end

namespace Node

/-- The node that stands where nothing is written. -/
def blank : Node := .scalar none none "" true

end Node

/-! ## Reading tokens -/

/-- What is left to read, and the numbers of the anchors so far. -/
structure Cursor where
  tokens : List Token
  anchors : Dictionary Nat

namespace Cursor

/-- The cursor at other tokens. -/
def moveTo (c : Cursor) (tokens : List Token) : Cursor := { c with tokens }

/-- The cursor behind a fault: nothing else is read. -/
def lost (c : Cursor) : Cursor := c.moveTo []

/-- Numbers an anchor. The number of a name that is used again may be given to another name too. -/
def anchored (c : Cursor) : Option String → Option Nat × Cursor
  | none => (none, c)
  | some name => (some c.anchors.size, { c with anchors := c.anchors.insert name c.anchors.size })

end Cursor

/-- What stands before a node. -/
structure Properties where
  anchor : Option String
  tag : Option Tag

/-- The properties at the beginning of tokens, at most one of a kind, and what follows. -/
def readProperties : List Token → Properties × List Token
  | .anchor a :: .tag t :: ts => (⟨some a, some t⟩, ts)
  | .anchor a :: ts => (⟨some a, none⟩, ts)
  | .tag t :: .anchor a :: ts => (⟨some a, some t⟩, ts)
  | .tag t :: ts => (⟨none, some t⟩, ts)
  | ts => (⟨none, none⟩, ts)

/-- The full tag of a node, which must be known if there is one. -/
def resolveTag (handles : Handles) : Option Tag → Option (Option (List UInt8))
  | none => some none
  | some t => (t.resolve handles).map some

/-- The tag of a text; the tag `!` says nothing about one. -/
def textTag (tag : Option (List UInt8)) : Option (List UInt8) := tag.filter (· != octets "!")

/-- Where a node may stand. -/
inductive Place where
  /-- Inside brackets. -/
  | flow
  /-- At the top of a document or as an item. -/
  | block
  /-- In a block mapping, where the items of a sequence need not be indented. -/
  | member
deriving DecidableEq, Repr

/-- The tokens before which the node of an item is missing. -/
def endsItem (t : Token) : Bool := t == .entry || t == .blockEnd

/-- The tokens before which the node of a key or of a value is missing. -/
def endsMember (t : Token) : Bool := t == .key || t == .value || t == .blockEnd

/-- The tokens before which the node of an item that is not indented is missing. -/
def endsFlatItem (t : Token) : Bool := endsItem t || endsMember t

/-- The tokens before which a node inside brackets is missing. -/
def endsFlowValue (close : Token) (t : Token) : Bool := t == .comma || t == close

/-- The tokens before which a key inside brackets is missing. -/
def endsFlowKey (close : Token) (t : Token) : Bool := t == .value || endsFlowValue close t

/-- Passes the comma before all items but the first one. -/
def afterComma? (first : Bool) : List Token → Option (List Token)
  | [] => none
  | t :: ts => if first then some (t :: ts) else if t = .comma then some ts else none

mutual

/-- Reads a node; `fuel` bounds the number of steps. -/
def readNode (handles : Handles) : Nat → Place → Cursor → Node × Cursor
  | 0, _, c => (.broken, c.lost)
  | fuel + 1, place, c =>
    match c.tokens with
    | .alias name :: ts =>
      match c.anchors.get? name with
      | some target => (.alias target, c.moveTo ts)
      | none => (.broken, c.lost)
    | _ =>
      let (properties, ts) := readProperties c.tokens
      match resolveTag handles properties.tag with
      | none => (.broken, c.lost)
      | some tag =>
        let (anchor, anchored) := c.anchored properties.anchor
        match ts with
        | [] => (.broken, c.lost)
        | .scalar text plain :: ts => (.scalar anchor (textTag tag) text plain, anchored.moveTo ts)
        | .bracketOpen :: ts =>
          let (items, c) := readFlowItems handles fuel true (anchored.moveTo ts)
          (.sequence anchor items, c)
        | .braceOpen :: ts =>
          let (members, c) := readFlowMembers handles fuel true (anchored.moveTo ts)
          (.mapping anchor members, c)
        | t :: ts =>
          if place = .member ∧ t = .entry then
            let (items, c) := readFlatItems handles fuel (anchored.moveTo (t :: ts))
            (.sequence anchor items, c)
          else if place ≠ .flow ∧ t = .sequenceStart then
            let (items, c) := readItems handles fuel (anchored.moveTo ts)
            (.sequence anchor items, c)
          else if place ≠ .flow ∧ t = .mappingStart then
            let (members, c) := readMembers handles fuel (anchored.moveTo ts)
            (.mapping anchor members, c)
          else if properties.anchor.isSome || properties.tag.isSome then
            (.scalar anchor tag "" true, anchored.moveTo (t :: ts))
          else (.broken, c.lost)

/-- Reads a node, or nothing where a token follows that ends it. -/
def readOptionalNode (handles : Handles) :
    Nat → Place → (Token → Bool) → Cursor → Node × Cursor
  | 0, _, _, c => (.broken, c.lost)
  | fuel + 1, place, ends, c =>
    match c.tokens with
    | [] => (.broken, c)
    | t :: _ => if ends t then (.blank, c) else readNode handles fuel place c

/-- Reads the items of a block. -/
def readItems (handles : Handles) : Nat → Cursor → Items × Cursor
  | 0, c => (.broken, c.lost)
  | fuel + 1, c =>
    match c.tokens with
    | .entry :: ts =>
      let (item, c) := readOptionalNode handles fuel .block endsItem (c.moveTo ts)
      let (rest, c) := readItems handles fuel c
      (.cons item rest, c)
    | .blockEnd :: ts => (.done, c.moveTo ts)
    | _ => (.broken, c.lost)

/-- Reads the items of a sequence that is not indented. -/
def readFlatItems (handles : Handles) : Nat → Cursor → Items × Cursor
  | 0, c => (.broken, c.lost)
  | fuel + 1, c =>
    match c.tokens with
    | [] => (.broken, c)
    | .entry :: ts =>
      let (item, c) := readOptionalNode handles fuel .block endsFlatItem (c.moveTo ts)
      let (rest, c) := readFlatItems handles fuel c
      (.cons item rest, c)
    | _ => (.done, c)

/-- Reads a value behind its colon, if there is one. -/
def readValue (handles : Handles) :
    Nat → Place → (Token → Bool) → Cursor → Node × Cursor
  | 0, _, _, c => (.broken, c.lost)
  | fuel + 1, place, ends, c =>
    match c.tokens with
    | [] => (.broken, c)
    | .value :: ts => readOptionalNode handles fuel place ends (c.moveTo ts)
    | _ => (.blank, c)

/-- Reads the members of a block. -/
def readMembers (handles : Handles) : Nat → Cursor → Members × Cursor
  | 0, c => (.broken, c.lost)
  | fuel + 1, c =>
    match c.tokens with
    | .key :: ts =>
      let (key, c) := readOptionalNode handles fuel .member endsMember (c.moveTo ts)
      let (value, c) := readValue handles fuel .member endsMember c
      let (rest, c) := readMembers handles fuel c
      (.cons key value rest, c)
    | .blockEnd :: ts => (.done, c.moveTo ts)
    | _ => (.broken, c.lost)

/-- Reads the items inside brackets, the first one of which has no comma before it. -/
def readFlowItems (handles : Handles) : Nat → Bool → Cursor → Items × Cursor
  | 0, _, c => (.broken, c.lost)
  | fuel + 1, first, c =>
    match c.tokens with
    | .bracketClose :: ts => (.done, c.moveTo ts)
    | ts =>
      match afterComma? first ts with
      | none | some [] => (.broken, c.lost)
      | some (.bracketClose :: ts) => (.done, c.moveTo ts)
      | some (.key :: ts) =>
        let (item, c) := readPair handles fuel (c.moveTo ts)
        let (rest, c) := readFlowItems handles fuel false c
        (.cons item rest, c)
      | some ts =>
        let (item, c) := readNode handles fuel .flow (c.moveTo ts)
        let (rest, c) := readFlowItems handles fuel false c
        (.cons item rest, c)

/-- Reads an item that is a single member. A missing key takes the place of a token. -/
def readPair (handles : Handles) : Nat → Cursor → Node × Cursor
  | 0, c => (.broken, c.lost)
  | fuel + 1, c =>
    let (key, c) := match c.tokens with
      | [] => (.broken, c)
      | t :: ts =>
        if endsFlowKey .bracketClose t then (Node.blank, c.moveTo ts)
        else readNode handles fuel .flow c
    let (value, c) := readValue handles fuel .flow (endsFlowValue .bracketClose) c
    (.mapping none (.cons key value .done), c)

/-- Reads the members inside braces, the first one of which has no comma before it. -/
def readFlowMembers (handles : Handles) : Nat → Bool → Cursor → Members × Cursor
  | 0, _, c => (.broken, c.lost)
  | fuel + 1, first, c =>
    match c.tokens with
    | .braceClose :: ts => (.done, c.moveTo ts)
    | ts =>
      match afterComma? first ts with
      | none | some [] => (.broken, c.lost)
      | some (.braceClose :: ts) => (.done, c.moveTo ts)
      | some (.key :: ts) =>
        let (key, c) :=
          readOptionalNode handles fuel .flow (endsFlowKey .braceClose) (c.moveTo ts)
        let (value, c) := readValue handles fuel .flow (endsFlowValue .braceClose) c
        let (rest, c) := readFlowMembers handles fuel false c
        (.cons key value rest, c)
      | some ts =>
        let (key, c) := readNode handles fuel .flow (c.moveTo ts)
        let value := if c.tokens.isEmpty then .broken else .blank
        let (rest, c) := readFlowMembers handles fuel false c
        (.cons key value rest, c)

end

/-! ## Documents -/

/-- What handles stand for, if the directives of a document can be obeyed, and the tokens behind
them. Each handle is declared once, and so is the version. -/
def readDirectives (version : Bool) (handles : Handles) :
    List Token → Option (Handles × List Token)
  | .directive (.version major minor) :: ts =>
    if version || major != 1 || (minor != 1 && minor != 2) then none
    else readDirectives true handles ts
  | .directive (.handle handle lead) :: ts =>
    if (handles.lookup handle).isSome then none
    else readDirectives version (handles ++ [(handle, lead)]) ts
  | ts => some (handles ++ Handles.builtIn, ts)

/-- Whether a document is empty before a token. -/
def endsDocument : Token → Bool
  | .directive _ | .documentStart | .documentEnd | .textEnd => true
  | _ => false

/-- A number of steps that suffices to read some tokens. -/
def stepsFor (ts : List Token) : Nat := 4 * ts.length + 4

/-- The content of a document behind its head. -/
def readContent (handles : Handles) (ts : List Token) : Node × Cursor :=
  readOptionalNode handles (stepsFor ts) .block endsDocument ⟨ts, .empty⟩

/-- The first document, if there is one, and what follows its content. -/
def readDocument (ts : List Token) : Option Node × List Token :=
  match ts with
  | [.textEnd] => (none, ts)
  | .directive _ :: _ | .documentStart :: _ =>
    match readDirectives false [] ts with
    | some (handles, .documentStart :: ts) =>
      let (root, c) := readContent handles ts
      (some root, c.tokens)
    | _ => (some .broken, [])
  | ts =>
    let (root, c) := readNode Handles.builtIn (stepsFor ts) .block ⟨ts, .empty⟩
    (some root, c.tokens)

/-- A text that holds one document. -/
structure Document where
  /-- The root of the document; there is none in a text without tokens. -/
  root : Option Node
  /-- Whether the document is read to its end and nothing follows it. -/
  complete : Bool

def read (text : String) : Document :=
  match source? text with
  | none => ⟨some .broken, false⟩
  | some cs =>
    let (root, rest) := readDocument (tokens cs)
    ⟨root, rest.dropWhile (· == .documentEnd) == [.textEnd]⟩

/-! ## Anchors -/

mutual

/-- The anchored nodes, in the order in which they begin. -/
def Node.anchored (n : Node) : List (Nat × Node) :=
  match n with
  | .scalar anchor _ _ _ => anchor.toList.map (·, n)
  | .sequence anchor items => anchor.toList.map (·, n) ++ items.anchored
  | .mapping anchor members => anchor.toList.map (·, n) ++ members.anchored
  | .alias _ | .broken => []

/-- The anchored nodes among items. -/
def Items.anchored : Items → List (Nat × Node)
  | .done | .broken => []
  | .cons item rest => item.anchored ++ rest.anchored

/-- The anchored nodes among members. -/
def Members.anchored : Members → List (Nat × Node)
  | .done | .broken => []
  | .cons key value rest => key.anchored ++ value.anchored ++ rest.anchored

end

/-- The nodes that aliases refer to: of several with one number the last one. -/
abbrev Anchors := List (Nat × Node)

/-- The node that stands for an alias, any other node itself. -/
def Anchors.follow (anchors : Anchors) : Node → Node
  | .alias target => (anchors.reverse.lookup target).getD .broken
  | n => n

end PathRouter.Yaml
