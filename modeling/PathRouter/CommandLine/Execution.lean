import PathRouter.CommandLine.Invocation
import PathRouter.Log.Journal
import PathRouter.Router.Listing
import PathRouter.Table.Load

/-!
# Executing commands

A command reads its table, makes the router and writes what it finds, step by step. What has been
written and noted stays if a later step fails.
-/

namespace PathRouter.CommandLine

open Log (Event)

/-- How a command ends that does not fail. -/
inductive Outcome where
  | success
  /-- No route accepts the request. -/
  | noMatch
deriving DecidableEq, Repr

/-- Why a command fails. -/
inductive Failure where
  /-- The file at a path gives no table. -/
  | load (path : String) (f : LoadFault)
  /-- The table at a path gives no router. -/
  | build (path : String) (e : RouteError)
  /-- No path can be made. -/
  | generate (e : RouteError)
deriving DecidableEq, Repr

/-! ## Actions -/

/-- What has been done so far. -/
structure Trace where
  written : String
  events : List Event

def Trace.empty : Trace := ⟨"", []⟩

/-- A part of a command: it may write, it may note events, and it may fail. -/
abbrev Action := ExceptT Failure (StateM Trace)

def write (text : String) : Action Unit :=
  modify fun t => { t with written := t.written ++ text }

def note (events : List Event) : Action Unit :=
  modify fun t => { t with events := t.events ++ events }

/-- Goes on with a result, or fails for the reason why there is none. -/
def orFail {ε α : Type} (failure : ε → Failure) : Except ε α → Action α
  | .ok a => pure a
  | .error e => throw (failure e)

/-! ## Answers -/

/-- The answer to a request as it is written. -/
def matchValue (m : RouteMatch) : Json.Value :=
  .object [("handler", .string m.handler), ("name", m.name.elim .null .string),
    ("params", .array (m.params.map fun (name, value) => .array [.string name, .string value])),
    ("pattern", .string m.pattern)]

/-- What a command does with a router. -/
def Command.action (r : Router) : Command → Action Outcome
  | .check => do
    write s!"ok: {r.size} route(s)\n"
    pure .success
  | .list => do
    write r.listing
    pure .success
  | .lookUp path method => do
    note (r.matchEvents method path)
    match r.match? method path with
    | none =>
      write "null\n"
      pure .noMatch
    | some m =>
      write ((matchValue m).text ++ "\n")
      pure .success
  | .generate name params => do
    note (r.generateEvents name params)
    let path ← orFail .generate (r.generate name params)
    write (path ++ "\n")
    pure .success

/-! ## Execution -/

/-- The table of an invocation, with its base path. -/
def Invocation.withBasePath (i : Invocation) (t : RouteTable) : RouteTable :=
  match i.basePath with
  | some path => { t with basePath := some path }
  | none => t

def Invocation.router (files : Storage.Files) (i : Invocation) : Action Router := do
  let loaded ← orFail (.load i.table) (RouteTable.load files i.table)
  note [loaded.loadEvent i.table]
  let t := i.withBasePath loaded
  note t.buildEvents
  orFail (.build i.table) t.build

/-- What an invocation does. -/
def Invocation.action (files : Storage.Files) (i : Invocation) : Action Outcome := do
  let r ← i.router files
  i.command.action r

/-- What a command did in the end. -/
structure Report extends Trace where
  result : Except Failure Outcome

def Invocation.execute (files : Storage.Files) (i : Invocation) : Report :=
  let (result, trace) := (i.action files).run.run .empty
  ⟨trace, result⟩

/-! ## Messages -/

/-- What a failure is reported as beside its cause, if it has a context. -/
def Failure.context? : Failure → Option String
  | load path f => some (f.context path)
  | build path _ => some s!"invalid route table {path}"
  | generate _ => none

/-- What is said about a refusal and about its causes, the last cause last. -/
def causeMessages (e : RouteError) : List String :=
  e.message ::
    match e with
    | .duplicateName _ | .unknownName _ | .notReversible _ => []
    | .invalidMethod _ cause => [cause.message]
    | .invalidPattern _ cause =>
      cause.message ::
        match cause with
        | .brackets _ => []
        | .expression cause => [cause.message]

/-- All that is said about a failure. -/
def Failure.messages (f : Failure) : List String :=
  f.context?.toList ++
    match f with
    | load _ fault => [fault.message]
    | build _ e | generate e => causeMessages e

end PathRouter.CommandLine
