import PathRouter.CommandLine.Execution
import PathRouter.Proofs.Json.RoundTrip
import PathRouter.Proofs.Outcome
import PathRouter.Proofs.Request.Spelling

/-!
# What commands leave behind

All that can fail in a command comes before the first thing that is written: what is done up to
there writes nothing, and what is done from there on does not fail. So a command that fails leaves
no output. A command that looks up a request writes what the router answers, and this can be read
back.
-/

namespace PathRouter.CommandLine

variable {α β ε : Type}

/-! ## Actions -/

namespace Action

/-- What an action comes to, and what has been done then. -/
def after (a : Action α) (t : Trace) : Except Failure α × Trace := a.run.run t

theorem after_bind_ok {a : Action α} {t s : Trace} {x : α} (h : a.after t = (.ok x, s))
    (f : α → Action β) : (a >>= f).after t = (f x).after s := by
  unfold after at h ⊢
  rw [ExceptT.run_bind, StateT.run_bind, h]
  rfl

theorem after_bind_error {a : Action α} {t s : Trace} {e : Failure}
    (h : a.after t = (.error e, s)) (f : α → Action β) : (a >>= f).after t = (.error e, s) := by
  unfold after at h ⊢
  rw [ExceptT.run_bind, StateT.run_bind, h]
  rfl

/-- The action writes nothing. -/
def Quiet (a : Action α) : Prop := ∀ t, (a.after t).2.written = t.written

/-- The action does not fail. -/
def Sure (a : Action α) : Prop := ∀ t, ∃ x, (a.after t).1 = .ok x

/-- If the action fails, it has written nothing. -/
def FailsFirst (a : Action α) : Prop :=
  ∀ t f, (a.after t).1 = .error f → (a.after t).2.written = t.written

theorem Quiet.failsFirst {a : Action α} (h : a.Quiet) : a.FailsFirst := fun t _ _ => h t

theorem Sure.failsFirst {a : Action α} (h : a.Sure) : a.FailsFirst := by
  intro t f hfail
  obtain ⟨x, hx⟩ := h t
  rw [hfail] at hx
  cases hx

theorem Quiet.bind {a : Action α} {f : α → Action β} (ha : a.Quiet) (hf : ∀ x, (f x).Quiet) :
    (a >>= f).Quiet := by
  intro t
  have hfirst := ha t
  match h : a.after t with
  | (.ok x, s) =>
      rw [h] at hfirst
      rw [after_bind_ok h]
      exact (hf x s).trans hfirst
  | (.error e, s) =>
      rw [h] at hfirst
      rw [after_bind_error h]
      exact hfirst

theorem Sure.bind {a : Action α} {f : α → Action β} (ha : a.Sure) (hf : ∀ x, (f x).Sure) :
    (a >>= f).Sure := by
  intro t
  obtain ⟨x, hx⟩ := ha t
  match h : a.after t with
  | (.ok y, s) =>
      rw [after_bind_ok h]
      exact hf y s
  | (.error e, s) =>
      rw [h] at hx
      cases hx

/-- What may fail may follow only what has written nothing. -/
theorem Quiet.andThen {a : Action α} {f : α → Action β} (ha : a.Quiet)
    (hf : ∀ x, (f x).FailsFirst) : (a >>= f).FailsFirst := by
  intro t e hfail
  have hfirst := ha t
  match h : a.after t with
  | (.ok x, s) =>
      rw [h] at hfirst
      rw [after_bind_ok h] at hfail ⊢
      exact (hf x s e hfail).trans hfirst
  | (.error e', s) =>
      rw [h] at hfirst
      rw [after_bind_error h]
      exact hfirst

theorem quiet_note (events : List Log.Event) : (note events).Quiet := fun _ => rfl

theorem quiet_orFail (failure : ε → Failure) (x : Except ε α) : (orFail failure x).Quiet := by
  intro t
  cases x <;> rfl

theorem sure_pure (x : α) : Sure (pure x) := fun _ => ⟨x, rfl⟩

theorem sure_write (text : String) : (write text).Sure := fun _ => ⟨(), rfl⟩

end Action

open PathRouter.CommandLine.Action

/-! ## Failures -/

/-- Only the making of a path can fail, and it comes before what is written. -/
theorem Command.failsFirst_action (r : Router) (c : Command) : (c.action r).FailsFirst := by
  have hlast (text : String) (outcome : Outcome) :
      (do write text; pure outcome : Action Outcome).FailsFirst :=
    ((sure_write text).bind fun _ => sure_pure outcome).failsFirst
  cases c with
  | check => exact hlast _ _
  | list => exact hlast _ _
  | lookUp path method =>
      apply (quiet_note _).andThen
      intro _
      cases r.match? method path with
      | none => exact hlast _ _
      | some m => exact hlast _ _
  | generate name params =>
      apply (quiet_note _).andThen
      intro _
      apply (quiet_orFail _ _).andThen
      intro path
      exact hlast _ _

theorem Invocation.quiet_router (files : Storage.Files) (i : Invocation) :
    (i.router files).Quiet := by
  apply (quiet_orFail _ _).bind
  intro t
  apply (quiet_note _).bind
  intro _
  apply (quiet_note _).bind
  intro _
  exact quiet_orFail _ _

/-- A command that fails has written nothing. -/
theorem Invocation.written_of_error {files : Storage.Files} {i : Invocation} {f : Failure}
    (h : (i.execute files).result = .error f) : (i.execute files).written = "" :=
  (i.quiet_router files).andThen (fun r => i.command.failsFirst_action r) .empty f h

/-! ## Answers -/

/-- The tree of an answer. -/
def matchTree (m : RouteMatch) : Json.Reading :=
  .object (.ofList [("handler", .string m.handler), ("name", m.name.elim .null .string),
    ("params", .array (.ofList (m.params.map fun (name, value) =>
      .array (.ofList [.string name, .string value])))),
    ("pattern", .string m.pattern)])

theorem itemReadings_params (params : Pattern.Params) :
    Json.Value.itemReadings (params.map fun (name, value) => .array [.string name, .string value]) =
      .ofList (params.map fun (name, value) => .array (.ofList [.string name, .string value])) := by
  induction params with
  | nil => rfl
  | cons param params ih =>
      rw [List.map_cons, List.map_cons, Json.Value.itemReadings, ih]
      rfl

theorem reading_matchValue (m : RouteMatch) : (matchValue m).reading = matchTree m := by
  have hname : (m.name.elim .null .string : Json.Value).reading = m.name.elim .null .string := by
    cases m.name <;> rfl
  simp only [matchValue, matchTree, Json.Value.reading, Json.Value.memberReadings, hname,
    itemReadings_params, Json.Members.ofList]

theorem allFit_params (params : Pattern.Params) : Json.Value.AllFit
    (params.map fun (name, value) => .array [.string name, .string value]) := by
  induction params with
  | nil => trivial
  | cons param params ih => exact ⟨⟨trivial, trivial, trivial⟩, ih⟩

theorem fits_matchValue (m : RouteMatch) : (matchValue m).Fits := by
  have hname : (m.name.elim .null .string : Json.Value).Fits := by
    cases m.name <;> trivial
  exact ⟨trivial, hname, allFit_params m.params, trivial, trivial⟩

theorem Invocation.withBasePath_eq (i : Invocation) (t : RouteTable) :
    i.withBasePath t = { t with basePath := i.basePath.or t.basePath } := by
  unfold withBasePath
  cases i.basePath <;> rfl

/-- A table that gives a router is made into this router, and nothing is written. -/
theorem Invocation.exists_after_router {files : Storage.Files} {i : Invocation} {t : RouteTable}
    {r : Router} (hload : RouteTable.load files i.table = .ok t)
    (hbuild : (i.withBasePath t).build = .ok r) :
    ∃ s, (i.router files).after .empty = (.ok r, s) ∧ s.written = "" := by
  have hresult : ((i.router files).after .empty).1 = .ok r := by
    unfold router
    rw [hload]
    change ((orFail (.build i.table) (i.withBasePath t).build).after _).1 = _
    rw [hbuild]
    rfl
  exact ⟨((i.router files).after .empty).2, Prod.ext hresult rfl, i.quiet_router files .empty⟩

/-- What is written about a request, and how the command ends. -/
def answer (found : Option RouteMatch) : Outcome × String :=
  match found with
  | none => (.noMatch, "null\n")
  | some m => (.success, (matchValue m).text ++ "\n")

theorem Command.after_lookUp (r : Router) (path method : String) (s : Trace) :
    ∃ t, ((Command.lookUp path method).action r).after s =
        (.ok (answer (r.match? method path)).1, t) ∧
      t.written = s.written ++ (answer (r.match? method path)).2 := by
  cases h : r.match? method path with
  | none =>
      simp only [Command.action, h]
      exact ⟨_, rfl, rfl⟩
  | some m =>
      simp only [Command.action, h]
      exact ⟨_, rfl, rfl⟩

/-- A table that gives a router has requests looked up in this router. -/
theorem Invocation.execute_answer {files : Storage.Files} {i : Invocation} {t : RouteTable}
    {r : Router} {path method : String} (hload : RouteTable.load files i.table = .ok t)
    (hbuild : (i.withBasePath t).build = .ok r) (hcommand : i.command = .lookUp path method) :
    (i.execute files).result = .ok (answer (r.match? method path)).1 ∧
      (i.execute files).written = (answer (r.match? method path)).2 := by
  obtain ⟨s, hrouter, hwritten⟩ := exists_after_router hload hbuild
  obtain ⟨u, hlookUp, hanswer⟩ := Command.after_lookUp r path method s
  have hafter : (i.action files).after .empty = (.ok (answer (r.match? method path)).1, u) := by
    rw [action, after_bind_ok hrouter, hcommand, hlookUp]
  have hreport : i.execute files =
      ⟨((i.action files).after .empty).2, ((i.action files).after .empty).1⟩ := rfl
  rw [hwritten, String.empty_append] at hanswer
  rw [hreport, hafter]
  exact ⟨rfl, hanswer⟩

/-- A request that is looked up is answered as the router answers it, and the answer that is written
can be read back. Of whatever command, if it fails, nothing has been written. -/
theorem Invocation.execute_lookUp (files : Storage.Files) (i : Invocation) :
    (∀ (t : RouteTable) (r : Router) (path method : String),
      RouteTable.load files i.table = .ok t →
      { t with basePath := i.basePath.or t.basePath }.build = .ok r →
      i.command = .lookUp path method →
        (r.match? method path = none ↔
          (i.execute files).result = .ok .noMatch ∧ (i.execute files).written = "null\n") ∧
        ∀ m, r.match? method path = some m → (i.execute files).result = .ok .success ∧
          Json.read (i.execute files).written = (matchTree m, true)) ∧
    ∀ f, (i.execute files).result = .error f → (i.execute files).written = "" := by
  refine ⟨?_, fun f => written_of_error⟩
  intro t r path method hload hbuild hcommand
  rw [← withBasePath_eq] at hbuild
  obtain ⟨hresult, hwritten⟩ := execute_answer hload hbuild hcommand
  rw [hresult, hwritten]
  cases r.match? method path with
  | none => exact ⟨iff_of_true rfl ⟨rfl, rfl⟩, nofun⟩
  | some m =>
      constructor
      · constructor
        · nofun
        · rintro ⟨houtcome, -⟩
          cases houtcome
      · intro m' hm
        obtain rfl := Option.some.inj hm
        refine ⟨rfl, ?_⟩
        rw [← reading_matchValue]
        exact Json.read_text (fits_matchValue m)

/-- A file with the octets of a text holds the table in this text. -/
theorem load_encode (text path : String) :
    RouteTable.load (fun _ => .ok (Text.Utf8.encode text.toList)) path =
      RouteTable.ofText path text := by
  have hread : RouteTable.readText (fun _ => .ok (Text.Utf8.encode text.toList)) path =
      .ok text := by
    simp only [RouteTable.readText, bind, Except.bind, Text.Utf8.decode?_encode,
      String.ofList_toList]
    rfl
  rw [RouteTable.load, hread]
  rfl

/-- A quotation mark and a line feed in the values of a request come back from what is written. -/
theorem Invocation.execute_lookUp_escaped :
    let table := "\x7b\"routes\": [\x7b\"method\": \"GET\", \"pattern\": \"/[:a]/[:a]\", " ++
      "\"handler\": \"h\"\x7d]\x7d"
    let report := Invocation.execute (fun _ => .ok (Text.Utf8.encode table.toList))
      ⟨"t.json", some "/b", .lookUp "/b/\"/\n" "get"⟩
    report.result = .ok .success ∧ Json.read report.written =
      (matchTree ⟨"h", [("a", "\""), ("a", "\n")], none, "/[:a]/[:a]"⟩, true) := by
  intro table report
  have hpath : Request.normalizePath "/b/\"/\n" "/b" = "/\"/\n" := by
    have htext : "/b/\"/\n".toList = "/b".toList ++ "/\"/\n".toList := by decide
    have hspelled : Request.Spelling ("/b".toList ++ "/\"/\n".toList) "/b/\"/\n".toList := by
      rw [htext]
      exact .refl (by decide)
    unfold Request.normalizePath
    rw [Request.normalizePathChars_spelling hspelled (by decide)]
    decide
  have hfacts : (RouteTable.ofText "t.json" table).toOption.any (fun t =>
      (RouteTable.build { t with basePath := (some "/b").or t.basePath }).toOption.any fun r =>
        r.basePath == "/b" && (r.routes.findSome? fun route => route.match? "GET" "/\"/\n") ==
          some ⟨"h", [("a", "\""), ("a", "\n")], none, "/[:a]/[:a]"⟩) = true := by
    decide +kernel
  obtain ⟨t, htext, hbuilt⟩ := exists_ok_of_any hfacts
  obtain ⟨r, hbuild, hfound⟩ := exists_ok_of_any hbuilt
  obtain ⟨hbase, hfound⟩ := Bool.and_eq_true_iff.1 hfound
  have hload := (load_encode table "t.json").trans htext
  have hmatch : r.match? "get" "/b/\"/\n" =
      some ⟨"h", [("a", "\""), ("a", "\n")], none, "/[:a]/[:a]"⟩ := by
    have hmethod : Request.normalizeMethod "get" = "GET" := by decide
    rw [Router.match?, hmethod, beq_iff_eq.1 hbase, hpath]
    exact beq_iff_eq.1 hfound
  have hanswers := (Invocation.execute_lookUp (fun _ => .ok (Text.Utf8.encode table.toList))
    ⟨"t.json", some "/b", .lookUp "/b/\"/\n" "get"⟩).1 t r "/b/\"/\n" "get" hload hbuild rfl
  exact hanswers.2 _ hmatch

end PathRouter.CommandLine
