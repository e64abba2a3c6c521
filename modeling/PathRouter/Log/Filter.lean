import PathRouter.Log.Level
import PathRouter.Regex.Basic
import PathRouter.Text.Blank
import PathRouter.Unicode.Property

/-!
# Filters of events

A filter is a list of directives separated by commas. A directive says from which level on events
are wanted, perhaps only those of a target or with some fields; of the directives that an event
meets the most specific one counts. A directive may also name a span of time, which no event here
belongs to.
-/

namespace PathRouter.Log

/-- A field that is asked for, and its value if that is asked for too. -/
structure FieldMatch where
  name : String
  value : Option String
deriving DecidableEq, Repr

/-- From which level on events are wanted. -/
structure Directive where
  /-- What the target of the events begins with. -/
  target : Option String
  /-- The span that the events belong to. -/
  span : Option String
  fields : List FieldMatch
  threshold : Threshold
deriving DecidableEq, Repr

namespace Directive

/-- A directive for all events. -/
def everywhere (t : Threshold) : Directive := ⟨none, none, [], t⟩

/-- Whether a directive can be obeyed without regard to spans. -/
def isStatic (d : Directive) : Bool := d.span.isNone && d.fields.all fun f => f.value.isNone

/-- Whether a directive regards spans. -/
def isDynamic (d : Directive) : Bool := d.span.isSome || !d.fields.isEmpty

/-! ## Reading -/

/-- Whether a target or a level may begin with a character. -/
def isStart (c : Char) : Bool := c == '-' || c == ':' || c == '_' || Unicode.alphanumeric.contains c

/-- What an event's value is compared with: a number in its shortest form, or an expression. -/
def valueText? (cs : List Char) : Option String :=
  match Text.signedNumber? cs with
  | some n => some (toString n)
  | none => match Regex.compile (String.ofList cs) with
    | .ok _ => some (String.ofList cs)
    | .error _ => none

/-- A field with or without a value. -/
def field? (cs : List Char) : Option FieldMatch :=
  let name := String.ofList (cs.takeWhile (· != '='))
  match cs.dropWhile (· != '=') with
  | [] => some ⟨name, none⟩
  | _ :: value => (valueText? (value.takeWhile (· != '='))).map fun v => ⟨name, some v⟩

/-- The level behind an equals sign. Where nothing is written all events are wanted. -/
def withLevel (d : Directive) (cs : List Char) : Option Directive :=
  if cs.isEmpty then some d
  else (Threshold.ofText? (String.ofList cs)).map fun threshold => { d with threshold }

/-- What may follow a target and a span. -/
def afterSpan (d : Directive) : List Char → Option Directive
  | [] => some d
  | '=' :: cs => d.withLevel cs
  | _ => none

/-- The span and the field behind an opening bracket. -/
def withSpan (d : Directive) (cs : List Char) : Option Directive :=
  let stops (c : Char) := c == ']' || c == '\x7b'
  let name := String.ofList (cs.takeWhile fun c => !stops c)
  match cs.dropWhile fun c => !stops c with
  | ']' :: rest => { d with span := some name }.afterSpan rest
  | '\x7b' :: rest =>
    let field := rest.takeWhile (· != '\x7d')
    if field.isEmpty then none
    else match rest.dropWhile (· != '\x7d') with
      | '\x7d' :: ']' :: rest => do
        let f ← field? field
        let span := if name.isEmpty then none else some name
        { d with span, fields := [f] }.afterSpan rest
      | _ => none
  | _ => none

/-- The directive that a text stands for. A single word is a level, or else a target. -/
def ofText? (text : String) : Option Directive :=
  let all := everywhere (some .trace)
  match text.toList with
  | [] => none
  | '[' :: cs => all.withSpan cs
  | c :: cs =>
    if !isStart c then none
    else
      let stops (c : Char) := c == '=' || c == '['
      let word := String.ofList (c :: cs.takeWhile fun c => !stops c)
      match cs.dropWhile fun c => !stops c with
      | '=' :: rest => { all with target := some word }.withLevel rest
      | '[' :: rest => { all with target := some word }.withSpan rest
      | _ => match Threshold.ofText? word with
        | some threshold => some { all with threshold }
        | none => some { all with target := some word }

/-! ## Writing -/

def fieldText (f : FieldMatch) : String :=
  match f.value with
  | none => f.name
  | some value => s!"{f.name}={value}"

/-- The text of the fields in braces, if there are any. -/
def fieldsText (fs : List FieldMatch) : String :=
  if fs.isEmpty then ""
  else "\x7b" ++ ",".intercalate (fs.map fieldText) ++ "\x7d"

def text (d : Directive) : String :=
  let span := if d.isDynamic then "[" ++ d.span.getD "" ++ fieldsText d.fields ++ "]" else ""
  let scope := d.target.getD "" ++ span
  let equals := if d.target.isSome || d.isDynamic then "=" else ""
  scope ++ equals ++ d.threshold.name

/-! ## Order -/

def compareField (f g : FieldMatch) : Ordering :=
  (compare f.value.isSome g.value.isSome).then <|
    (compare f.name g.name).then (compare f.value g.value)

/-- The order of two lists of fields of the same length. -/
def compareFields : List FieldMatch → List FieldMatch → Ordering
  | [], [] => .eq
  | [], _ :: _ => .lt
  | _ :: _, [] => .gt
  | f :: fs, g :: gs => (compareField f g).then (compareFields fs gs)

/-- Directives that are met by fewer events are greater: first by the length of the target, then by
the span and by the number of fields. The rest of the order is by the texts. -/
def order (d e : Directive) : Ordering :=
  (compare (d.target.map String.utf8ByteSize) (e.target.map String.utf8ByteSize)).then <|
    (compare d.span.isSome e.span.isSome).then <|
      (compare d.fields.length e.fields.length).then <|
        (compare d.target e.target).then <|
          (compare d.span e.span).then (compareFields d.fields e.fields)

/-- Puts a directive into its place among directives, the greatest one of which comes first, and in
place of the one that is for the same events. -/
def insert (d : Directive) : List Directive → List Directive
  | [] => [d]
  | e :: es =>
    match order d e with
    | .gt => d :: e :: es
    | .eq => d :: es
    | .lt => e :: insert d es

/-- Inserts directives one after the other. -/
def insertAll (ds es : List Directive) : List Directive := ds.foldl (fun es d => insert d es) es

end Directive

structure Filter where
  /-- The directives that decide about events, the most specific one first. -/
  statics : List Directive
  /-- The directives that regard spans. -/
  dynamics : List Directive
deriving DecidableEq, Repr

namespace Filter

/-- The filter of some directives. Without directives only errors are wanted. -/
def ofDirectives (ds : List Directive) : Filter :=
  let (dynamic, other) := ds.partition Directive.isDynamic
  let statics := other ++ dynamic.filter Directive.isStatic
  if ds.isEmpty then ⟨[.everywhere (some .error)], []⟩
  else ⟨Directive.insertAll statics [], Directive.insertAll dynamic []⟩

/-- The parts of a text between commas. -/
def parts (text : String) : List String :=
  (text.splitOn ",").filter fun part => !part.isEmpty

/-- The filter that a text stands for, if all its parts are directives. -/
def ofText? (text : String) : Option Filter :=
  ((parts text).mapM Directive.ofText?).map ofDirectives

def add (f : Filter) (d : Directive) : Filter :=
  if d.isStatic then { f with statics := d.insert f.statics }
  else { f with dynamics := d.insert f.dynamics }

def text (f : Filter) : String := ",".intercalate ((f.statics ++ f.dynamics).map Directive.text)

/-- Whether a directive is for the events with a target and fields. -/
def concerns (target : String) (fields : List String) (d : Directive) : Bool :=
  (d.target.all fun t => target.startsWith t) && d.fields.all fun f => fields.contains f.name

/-- Whether the events with a target, fields and a level are wanted. -/
def admits (f : Filter) (target : String) (fields : List String) (l : Level) : Bool :=
  (f.statics.find? (concerns target fields)).any fun d => d.threshold.admits l

end Filter

end PathRouter.Log
