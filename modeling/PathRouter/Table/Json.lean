import PathRouter.Table.Field
import PathRouter.Json.Reading
import PathRouter.Text.Quoted

/-!
# Route tables in JSON

A table is an object, or an array that holds its fields in their order; so is a route. The text is
read from left to right, and the first fault is reported, be it one of the text or one of the table.
-/

namespace PathRouter.Json

/-- Why a text is no route table. -/
inductive Error where
  /-- It is no JSON text. -/
  | fault (f : Fault)
  /-- A field is wrong. -/
  | field (f : FieldFault)
  /-- Something else is expected. -/
  | invalidType (found expected : String)
  /-- An array has too few items. -/
  | invalidLength (found : Nat) (expected : String)
deriving DecidableEq, Repr

/-- What is said about a text that is well-formed so far and yet no route table. -/
def Error.message? : Error → Option String
  | .fault _ => none
  | .field f => some f.message
  | .invalidType found expected => some s!"invalid type: {found}, expected {expected}"
  | .invalidLength found expected => some s!"invalid length {found}, expected {expected}"

/-- What a value is called. -/
def Reading.describe : Reading → String
  | .null => "null"
  | .bool b => s!"boolean \x60{b}\x60"
  | .number n => n.describe
  | .string s => s!"string {Text.Quoted.encode s}"
  | .array _ => "sequence"
  | .object _ => "map"
  | .broken _ => ""

/-- The fault of a value that is something else than expected. -/
def Reading.unexpected (v : Reading) (expected : String) : Error :=
  match v with
  | .broken f => .fault f
  | v => .invalidType v.describe expected

def Reading.string? : Reading → Except Error String
  | .string s => .ok s
  | v => .error (v.unexpected "a string")

/-- A string, or null for none. -/
def Reading.optionalString? : Reading → Except Error (Option String)
  | .null => .ok none
  | v => v.string?.map some

/-- The dictionary of members that are strings; of several with one key the last counts. -/
def Members.dictionary? (d : Dictionary String) : Members → Except Error (Dictionary String)
  | .done => .ok d
  | .broken f => .error (.fault f)
  | .cons key value rest => do
    let s ← value.string?
    rest.dictionary? (d.insert key s)

def Reading.dictionary? : Reading → Except Error (Dictionary String)
  | .object members => members.dictionary? .empty
  | v => .error (v.unexpected "a map")

/-- A refusal of a field. -/
def ofField {α : Type} (r : Except FieldFault α) : Except Error α := r.mapError .field

/-- The first item, if there is one, and the items behind it. -/
def Items.next : Items → Except Error (Option Reading × Items)
  | .done => .ok (none, .done)
  | .broken f => .error (.fault f)
  | .cons item rest => .ok (some item, rest)

/-- Nothing may follow. -/
def Items.finish : Items → Except Error Unit
  | .done => .ok ()
  | .broken f => .error (.fault f)
  | .cons _ _ => .error (.fault .malformed)

/-! ## Routes -/

/-- Gives a field of a route its value. -/
def setRouteField (d : RouteDraft) (f : RouteField) (v : Reading) : Except Error RouteDraft :=
  match f with
  | .method => do pure { d with method := some (← v.string?) }
  | .pattern => do pure { d with pattern := some (← v.string?) }
  | .handler => do pure { d with handler := some (← v.string?) }
  | .name => do pure { d with name := some (← v.optionalString?) }

def routeOfMembers (d : RouteDraft) : Members → Except Error RouteDef
  | .done => ofField d.finish
  | .broken f => .error (.fault f)
  | .cons key value rest => do
    let f ← ofField (d.nextField key)
    let d ← setRouteField d f value
    routeOfMembers d rest

/-- What an array with too few items for a route stands for. -/
def shortRoute (found : Nat) : Error :=
  .invalidLength found "struct RouteEntry with 4 elements"

def routeOfItems (items : Items) : Except Error RouteDef := do
  let (v, items) ← items.next
  let method ← match v with
    | some v => v.string?
    | none => pure Request.defaultMethod
  let (v, items) ← items.next
  let pattern ← match v with
    | some v => v.string?
    | none => throw (shortRoute 1)
  let (v, items) ← items.next
  let handler ← match v with
    | some v => v.string?
    | none => throw (shortRoute 2)
  let (v, items) ← items.next
  let name ← match v with
    | some v => v.optionalString?
    | none => pure none
  items.finish
  pure ⟨method, pattern, handler, name⟩

def Reading.route? : Reading → Except Error RouteDef
  | .object members => routeOfMembers .empty members
  | .array items => routeOfItems items
  | v => .error (v.unexpected "struct RouteEntry")

def Items.routes? : Items → Except Error (List RouteDef)
  | .done => .ok []
  | .broken f => .error (.fault f)
  | .cons item rest => do
    let d ← item.route?
    let ds ← rest.routes?
    pure (d :: ds)

def Reading.routes? : Reading → Except Error (List RouteDef)
  | .array items => items.routes?
  | v => .error (v.unexpected "a sequence")

/-! ## Tables -/

/-- Gives a field of a table its value. -/
def setTableField (d : TableDraft) (f : TableField) (v : Reading) : Except Error TableDraft :=
  match f with
  | .basePath => do pure { d with basePath := some (← v.optionalString?) }
  | .matchTypes => do pure { d with matchTypes := some (← v.dictionary?) }
  | .routes => do pure { d with routes := some (← v.routes?) }

def tableOfMembers (d : TableDraft) : Members → Except Error RouteTable
  | .done => .ok d.finish
  | .broken f => .error (.fault f)
  | .cons key value rest => do
    let f ← ofField (d.nextField key)
    let d ← setTableField d f value
    tableOfMembers d rest

/-- Gives a field of a table the value of the next item, if there is one. -/
def takeTableField (d : TableDraft) (items : Items) (f : TableField) :
    Except Error (TableDraft × Items) := do
  let (v, items) ← items.next
  match v with
  | some v => pure (← setTableField d f v, items)
  | none => pure (d, items)

def tableOfItems (items : Items) : Except Error RouteTable := do
  let (d, items) ← takeTableField .empty items .basePath
  let (d, items) ← takeTableField d items .matchTypes
  let (d, items) ← takeTableField d items .routes
  items.finish
  pure d.finish

def Reading.table? : Reading → Except Error RouteTable
  | .object members => tableOfMembers .empty members
  | .array items => tableOfItems items
  | v => .error (v.unexpected "struct RouteTableConfig")

end PathRouter.Json

namespace PathRouter

/-- The route table of a JSON text, behind which nothing may follow. -/
def RouteTable.ofJson (text : String) : Except Json.Error RouteTable := do
  let (value, complete) := Json.read text
  let t ← value.table?
  if complete then pure t else throw (.fault .malformed)

end PathRouter
