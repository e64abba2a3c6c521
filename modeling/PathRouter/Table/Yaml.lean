import PathRouter.Table.Field
import PathRouter.Yaml.Node

/-!
# Route tables in YAML

A table is a mapping, and so is a route. A mapping or a sequence of which nothing is written is
empty, and any scalar is a string. The text is read from left to right, and the first fault is
reported, be it one of the text or one of the table.
-/

namespace PathRouter.Yaml

/-- Why a text is no route table. -/
inductive Error where
  /-- It is no YAML text, or it holds more than one document. -/
  | malformed
  /-- A field is wrong. -/
  | field (f : FieldFault)
  /-- Something else is expected. -/
  | invalidType
deriving DecidableEq, Repr

/-- The tag of nothing. -/
def nullTag : List UInt8 := octets "tag:yaml.org,2002:null"

/-- Whether a plain text is a word for nothing. -/
def isNullWord (text : String) : Bool := ["null", "Null", "NULL", "~"].contains text

/-- The fault of a node that is something else than expected. -/
def Node.unexpected : Node → Error
  | .broken => .malformed
  | _ => .invalidType

def Node.string? (anchors : Anchors) (n : Node) : Except Error String :=
  match anchors.follow n with
  | .scalar _ _ text _ => .ok text
  | n => .error n.unexpected

/-- Whether a scalar is none at all. -/
def isNull (tag : Option (List UInt8)) (text : String) (plain : Bool) : Except Error Bool :=
  if !plain then .ok false
  else match tag with
    | none => .ok (text.isEmpty || isNullWord text)
    | some tag =>
      if tag = nullTag then (if isNullWord text then .ok true else .error .invalidType)
      else .ok false

/-- A string or nothing. -/
def Node.optionalString? (anchors : Anchors) (n : Node) : Except Error (Option String) := do
  match anchors.follow n with
  | .scalar _ tag text plain => pure (if ← isNull tag text plain then none else some text)
  | n => throw n.unexpected

def Node.members? (anchors : Anchors) (n : Node) : Except Error Members :=
  match anchors.follow n with
  | .mapping _ members => .ok members
  | .scalar _ _ "" true => .ok .done
  | n => .error n.unexpected

def Node.items? (anchors : Anchors) (n : Node) : Except Error Items :=
  match anchors.follow n with
  | .sequence _ items => .ok items
  | .scalar _ _ "" true => .ok .done
  | n => .error n.unexpected

/-- The dictionary of members that are strings; of several with one key the last counts. -/
def Members.dictionary? (anchors : Anchors) (d : Dictionary String) :
    Members → Except Error (Dictionary String)
  | .done => .ok d
  | .broken => .error .malformed
  | .cons key value rest => do
    let k ← key.string? anchors
    let v ← value.string? anchors
    rest.dictionary? anchors (d.insert k v)

/-- A refusal of a field. -/
def ofField {α : Type} (r : Except FieldFault α) : Except Error α := r.mapError .field

/-! ## Routes -/

/-- Gives a field of a route its value. -/
def setRouteField (anchors : Anchors) (d : RouteDraft) (f : RouteField) (n : Node) :
    Except Error RouteDraft :=
  match f with
  | .method => do pure { d with method := some (← n.string? anchors) }
  | .pattern => do pure { d with pattern := some (← n.string? anchors) }
  | .handler => do pure { d with handler := some (← n.string? anchors) }
  | .name => do pure { d with name := some (← n.optionalString? anchors) }

def routeOfMembers (anchors : Anchors) (d : RouteDraft) : Members → Except Error RouteDef
  | .done => ofField d.finish
  | .broken => .error .malformed
  | .cons key value rest => do
    let f ← ofField (d.nextField (← key.string? anchors))
    let d ← setRouteField anchors d f value
    routeOfMembers anchors d rest

def Items.routes? (anchors : Anchors) : Items → Except Error (List RouteDef)
  | .done => .ok []
  | .broken => .error .malformed
  | .cons item rest => do
    let d ← routeOfMembers anchors .empty (← item.members? anchors)
    let ds ← rest.routes? anchors
    pure (d :: ds)

/-! ## Tables -/

/-- Gives a field of a table its value. -/
def setTableField (anchors : Anchors) (d : TableDraft) (f : TableField) (n : Node) :
    Except Error TableDraft :=
  match f with
  | .basePath => do pure { d with basePath := some (← n.optionalString? anchors) }
  | .matchTypes => do
    pure { d with matchTypes := some (← (← n.members? anchors).dictionary? anchors .empty) }
  | .routes => do pure { d with routes := some (← (← n.items? anchors).routes? anchors) }

def tableOfMembers (anchors : Anchors) (d : TableDraft) : Members → Except Error RouteTable
  | .done => .ok d.finish
  | .broken => .error .malformed
  | .cons key value rest => do
    let f ← ofField (d.nextField (← key.string? anchors))
    let d ← setTableField anchors d f value
    tableOfMembers anchors d rest

/-- The table of a document's root. -/
def Node.table? (n : Node) : Except Error RouteTable := do
  tableOfMembers n.anchored .empty (← n.members? n.anchored)

end PathRouter.Yaml

namespace PathRouter

/-- The route table of a YAML text. A text in which nothing is written holds an empty table. -/
def RouteTable.ofYaml (text : String) : Except Yaml.Error RouteTable := do
  let document := Yaml.read text
  let t ← match document.root with
    | some root => root.table?
    | none => pure TableDraft.empty.finish
  if document.complete then pure t else throw .malformed

end PathRouter
