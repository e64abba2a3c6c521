import PathRouter.Proofs.Json.Form
import PathRouter.Proofs.Json.RoundTrip

/-!
# Objects for tables and routes

What the values of the fields of a table and of a route are read as, and the two kinds of objects
as forms. Main statements: a table is read by filling in its form, and so is a route.
-/

namespace PathRouter.Json

/-! ## Values -/

/-- An object whose members are strings. -/
def strings (pairs : List (String × String)) : Reading :=
  .object (.ofList (pairs.map fun pair => (pair.1, .string pair.2)))

def objects (entries : List (List (String × Reading))) : Reading :=
  .array (.ofList (entries.map fun entry => .object (.ofList entry)))

theorem Reading.string?_eq_ok_iff {v : Reading} {s : String} :
    v.string? = .ok s ↔ v = .string s := by
  constructor
  · intro h
    cases v with
    | string t => exact congrArg Reading.string (Except.ok.inj h)
    | _ => cases h
  · rintro rfl
    rfl

theorem Reading.optionalString?_eq_ok_iff {v : Reading} {o : Option String} :
    v.optionalString? = .ok o ↔ v = .null ∧ o = none ∨ ∃ s, v = .string s ∧ o = some s := by
  constructor
  · intro h
    cases v with
    | null => exact .inl ⟨rfl, (Except.ok.inj h).symm⟩
    | string s => exact .inr ⟨s, rfl, (Except.ok.inj h).symm⟩
    | _ => cases h
  · rintro (⟨rfl, rfl⟩ | ⟨s, rfl, rfl⟩)
    · rfl
    · rfl

/-- Members make a dictionary if they are complete and strings. -/
theorem Members.dictionary?_eq_ok_iff : ∀ {members : Members} {d e : Dictionary String},
    members.dictionary? d = .ok e ↔ ∃ pairs : List (String × String),
      members = .ofList (pairs.map fun pair => (pair.1, .string pair.2)) ∧ e = d.insertAll pairs
  | .done, d, e => by
      constructor
      · intro h
        exact ⟨[], rfl, (Except.ok.inj h).symm⟩
      · rintro ⟨pairs, hmembers, rfl⟩
        cases pairs with
        | nil => rfl
        | cons pair pairs => cases hmembers
  | .broken f, d, e => by
      constructor
      · nofun
      · rintro ⟨pairs, hmembers, -⟩
        cases pairs with
        | nil => cases hmembers
        | cons pair pairs => cases hmembers
  | .cons key value rest, d, e => by
      rw [dictionary?, bind_eq_ok_iff]
      constructor
      · rintro ⟨s, hs, hrest⟩
        obtain rfl := Reading.string?_eq_ok_iff.1 hs
        obtain ⟨pairs, rfl, rfl⟩ := dictionary?_eq_ok_iff.1 hrest
        exact ⟨(key, s) :: pairs, rfl, rfl⟩
      · rintro ⟨pairs, hmembers, rfl⟩
        cases pairs with
        | nil => cases hmembers
        | cons pair pairs =>
            obtain ⟨rfl, rfl, rfl⟩ := Members.cons.inj hmembers
            exact ⟨pair.2, rfl, dictionary?_eq_ok_iff.2 ⟨pairs, rfl, rfl⟩⟩

theorem Reading.dictionary?_eq_ok_iff {v : Reading} {d : Dictionary String} :
    v.dictionary? = .ok d ↔ ∃ pairs, v = strings pairs ∧ d = .ofList pairs := by
  constructor
  · intro h
    cases v with
    | object members =>
        obtain ⟨pairs, rfl, rfl⟩ := Members.dictionary?_eq_ok_iff.1 h
        exact ⟨pairs, rfl, rfl⟩
    | _ => cases h
  · rintro ⟨pairs, rfl, rfl⟩
    exact Members.dictionary?_eq_ok_iff.2 ⟨pairs, rfl, rfl⟩

theorem Items.ofList_injective : Function.Injective ofList := by
  intro list
  induction list with
  | nil =>
      intro other h
      cases other with
      | nil => rfl
      | cons item other => cases h
  | cons first list ih =>
      intro other h
      cases other with
      | nil => cases h
      | cons item other =>
          obtain ⟨rfl, hlater⟩ := Items.cons.inj h
          rw [ih hlater]

theorem Items.routes?_ofList (list : List Reading) :
    (Items.ofList list).routes? = list.mapM Reading.route? := by
  induction list with
  | nil => rfl
  | cons item list ih =>
      rw [List.mapM_cons, ← ih]
      rfl

/-- Items that make routes are complete. -/
theorem Items.eq_ofList_of_routes? : ∀ {items : Items} {ds : List RouteDef},
    items.routes? = .ok ds → ∃ list, items = .ofList list
  | .done, _, _ => ⟨[], rfl⟩
  | .broken _, _, h => nomatch h
  | .cons item rest, ds, h => by
      rw [routes?, bind_eq_ok_iff] at h
      obtain ⟨d, -, h⟩ := h
      obtain ⟨later, hlater, -⟩ := bind_eq_ok_iff.1 h
      obtain ⟨list, rfl⟩ := eq_ofList_of_routes? hlater
      exact ⟨item :: list, rfl⟩

/-- An array makes routes if it is complete and each of its items makes one. -/
theorem Reading.routes?_eq_ok_iff {v : Reading} {ds : List RouteDef} :
    v.routes? = .ok ds ↔ ∃ list, v = .array (.ofList list) ∧
      List.Forall₂ (fun item d => item.route? = .ok d) list ds := by
  constructor
  · intro h
    cases v with
    | array items =>
        obtain ⟨list, rfl⟩ := Items.eq_ofList_of_routes? h
        rw [routes?, Items.routes?_ofList, mapM_eq_ok_iff] at h
        exact ⟨list, rfl, h⟩
    | _ => cases h
  · rintro ⟨list, rfl, h⟩
    rwa [routes?, Items.routes?_ofList, mapM_eq_ok_iff]

theorem routes?_objects (entries : List (List (String × Reading))) :
    (objects entries).routes? =
      entries.mapM fun entry => (Reading.object (.ofList entry)).route? := by
  rw [objects, Reading.routes?, Items.routes?_ofList, List.mapM_map]
  rfl

theorem routes?_objects_eq_ok_iff {entries : List (List (String × Reading))}
    {ds : List RouteDef} : (objects entries).routes? = .ok ds ↔
      List.Forall₂ (fun entry d => (Reading.object (.ofList entry)).route? = .ok d) entries ds := by
  rw [routes?_objects, mapM_eq_ok_iff]

theorem ofField_eq_ok_iff {α : Type} {r : Except FieldFault α} {a : α} :
    ofField r = .ok a ↔ r = .ok a := mapError_eq_ok_iff

end PathRouter.Json

namespace PathRouter

open Json (Reading)

section Names
variable {Field : Type} {all : List Field} {name : Field → String}

/-- If every field is found by its name, nothing else is found. -/
theorem find?_name_eq_some_iff (h : ∀ f, all.find? (fun g => name g == name f) = some f)
    {key : String} {f : Field} : all.find? (fun g => name g == key) = some f ↔ key = name f := by
  constructor
  · intro hfound
    have hname := List.find?_some hfound
    exact (beq_iff_eq.1 hname).symm
  · rintro rfl
    exact h f

theorem injective_of_find? (h : ∀ f, all.find? (fun g => name g == name f) = some f) :
    Function.Injective name := by
  intro f g hname
  have hg := h g
  rw [← hname, h f] at hg
  exact Option.some.inj hg

end Names

/-- A field may be given next if it is found and has no value yet. -/
theorem next_eq_ok_iff {Field : Type} {Value : Field → Type} {found : Option Field}
    {has : Field → Bool} {given : (f : Field) → Option (Value f)} {next : Except FieldFault Field}
    (hhas : ∀ f, has f = (given f).isSome) (hnone : found = none → ∃ e, next = .error e)
    (hsome : ∀ f, found = some f → ∃ e, next = if has f then .error e else .ok f) {f : Field} :
    next = .ok f ↔ found = some f ∧ given f = none := by
  cases found with
  | none =>
      obtain ⟨e, rfl⟩ := hnone rfl
      exact iff_of_false nofun nofun
  | some g =>
      obtain ⟨e, rfl⟩ := hsome g rfl
      rw [hhas g]
      cases hg : given g with
      | none =>
          rw [Option.isSome_none, if_neg Bool.false_ne_true]
          constructor
          · intro h
            obtain rfl := Except.ok.inj h
            exact ⟨rfl, hg⟩
          · rintro ⟨h, -⟩
            exact congrArg Except.ok (Option.some.inj h)
      | some w =>
          rw [Option.isSome_some, if_pos rfl]
          refine iff_of_false nofun ?_
          rintro ⟨h, hfree⟩
          obtain rfl := Option.some.inj h
          cases hg.symm.trans hfree

/-! ## Fields of routes -/

/-- What can be the value of a field of a route. -/
def RouteField.Value : RouteField → Type
  | .method => String
  | .pattern => String
  | .handler => String
  | .name => Option String

/-- Reads the value of a field of a route. -/
def RouteField.read : (f : RouteField) → Reading → Except Json.Error f.Value
  | .method, v => v.string?
  | .pattern, v => v.string?
  | .handler, v => v.string?
  | .name, v => v.optionalString?

theorem RouteField.find?_title (f : RouteField) : find? f.title = some f := by
  cases f <;> decide

theorem RouteField.find?_eq_some_iff {key : String} {f : RouteField} :
    find? key = some f ↔ key = f.title := find?_name_eq_some_iff find?_title

theorem RouteField.title_injective : Function.Injective title := injective_of_find? find?_title

namespace RouteDraft
variable {d e : RouteDraft}

/-- The value of a field, if it is given. -/
def get? (d : RouteDraft) : (f : RouteField) → Option f.Value
  | .method => d.method
  | .pattern => d.pattern
  | .handler => d.handler
  | .name => d.name

def set (d : RouteDraft) : (f : RouteField) → f.Value → RouteDraft
  | .method, s => { d with method := some s }
  | .pattern, s => { d with pattern := some s }
  | .handler, s => { d with handler := some s }
  | .name, o => { d with name := some o }

theorem get?_set_self (d : RouteDraft) (f : RouteField) (w : f.Value) :
    (d.set f w).get? f = some w := by
  cases f <;> rfl

theorem get?_set_of_ne (d : RouteDraft) (f : RouteField) (w : f.Value) (g : RouteField)
    (h : g ≠ f) : (d.set f w).get? g = d.get? g := by
  cases f <;> cases g <;> first | rfl | exact absurd rfl h

theorem ext_get? (h : ∀ f, d.get? f = e.get? f) : d = e := by
  obtain ⟨method, pattern, handler, name⟩ := d
  obtain rfl : method = e.method := h .method
  obtain rfl : pattern = e.pattern := h .pattern
  obtain rfl : handler = e.handler := h .handler
  obtain rfl : name = e.name := h .name
  rfl

theorem has_eq (f : RouteField) : d.has f = (d.get? f).isSome := by
  cases f <;> rfl

theorem nextField_eq_ok_iff {key : String} {f : RouteField} :
    d.nextField key = .ok f ↔ key = f.title ∧ d.get? f = none := by
  rw [← RouteField.find?_eq_some_iff]
  apply next_eq_ok_iff has_eq
  · intro h
    exact ⟨_, by rw [nextField, h]⟩
  · intro g h
    exact ⟨_, by rw [nextField, h]⟩

/-- A route is complete if the pattern and the handler are given. -/
theorem finish_eq_ok_iff {route : RouteDef} :
    d.finish = .ok route ↔ d.pattern = some route.pattern ∧ d.handler = some route.handler ∧
      d.method.getD Request.defaultMethod = route.method ∧ d.name.getD none = route.name := by
  obtain ⟨method, pattern, handler, name⟩ := d
  cases pattern with
  | none => exact iff_of_false nofun nofun
  | some pattern =>
      cases handler with
      | none => exact iff_of_false nofun nofun
      | some handler =>
          constructor
          · intro h
            obtain rfl := Except.ok.inj h
            exact ⟨rfl, rfl, rfl, rfl⟩
          · rintro ⟨hpattern, hhandler, hmethod, hname⟩
            obtain rfl := Option.some.inj hpattern
            obtain rfl := Option.some.inj hhandler
            rw [finish, hmethod, hname]

end RouteDraft

/-! ## Fields of tables -/

/-- What can be the value of a field of a table. -/
def TableField.Value : TableField → Type
  | .basePath => Option String
  | .matchTypes => Dictionary String
  | .routes => List RouteDef

/-- Reads the value of a field of a table. -/
def TableField.read : (f : TableField) → Reading → Except Json.Error f.Value
  | .basePath, v => v.optionalString?
  | .matchTypes, v => v.dictionary?
  | .routes, v => v.routes?

theorem TableField.find?_name (f : TableField) : find? f.name = some f := by
  cases f <;> decide

theorem TableField.find?_eq_some_iff {key : String} {f : TableField} :
    find? key = some f ↔ key = f.name := find?_name_eq_some_iff find?_name

theorem TableField.name_injective : Function.Injective name := injective_of_find? find?_name

namespace TableDraft
variable {d e : TableDraft}

/-- The value of a field, if it is given. -/
def get? (d : TableDraft) : (f : TableField) → Option f.Value
  | .basePath => d.basePath
  | .matchTypes => d.matchTypes
  | .routes => d.routes

def set (d : TableDraft) : (f : TableField) → f.Value → TableDraft
  | .basePath, o => { d with basePath := some o }
  | .matchTypes, types => { d with matchTypes := some types }
  | .routes, routes => { d with routes := some routes }

theorem get?_set_self (d : TableDraft) (f : TableField) (w : f.Value) :
    (d.set f w).get? f = some w := by
  cases f <;> rfl

theorem get?_set_of_ne (d : TableDraft) (f : TableField) (w : f.Value) (g : TableField)
    (h : g ≠ f) : (d.set f w).get? g = d.get? g := by
  cases f <;> cases g <;> first | rfl | exact absurd rfl h

theorem ext_get? (h : ∀ f, d.get? f = e.get? f) : d = e := by
  obtain ⟨basePath, matchTypes, routes⟩ := d
  obtain rfl : basePath = e.basePath := h .basePath
  obtain rfl : matchTypes = e.matchTypes := h .matchTypes
  obtain rfl : routes = e.routes := h .routes
  rfl

theorem has_eq (f : TableField) : d.has f = (d.get? f).isSome := by
  cases f <;> rfl

theorem nextField_eq_ok_iff {key : String} {f : TableField} :
    d.nextField key = .ok f ↔ key = f.name ∧ d.get? f = none := by
  rw [← TableField.find?_eq_some_iff]
  apply next_eq_ok_iff has_eq
  · intro h
    exact ⟨_, by rw [nextField, h]⟩
  · intro g h
    exact ⟨_, by rw [nextField, h]⟩

end TableDraft

end PathRouter

/-! ## Forms -/

namespace PathRouter.Json

theorem setRouteField_eq_ok_iff {d e : RouteDraft} {f : RouteField} {v : Reading} :
    setRouteField d f v = .ok e ↔ ∃ w, f.read v = .ok w ∧ e = d.set f w := by
  have hset : setRouteField d f v = f.read v >>= fun w => pure (d.set f w) := by cases f <;> rfl
  simp only [hset, bind_eq_ok_iff, pure_eq_ok_iff, @eq_comm _ e]

theorem setTableField_eq_ok_iff {d e : TableDraft} {f : TableField} {v : Reading} :
    setTableField d f v = .ok e ↔ ∃ w, f.read v = .ok w ∧ e = d.set f w := by
  have hset : setTableField d f v = f.read v >>= fun w => pure (d.set f w) := by cases f <;> rfl
  simp only [hset, bind_eq_ok_iff, pure_eq_ok_iff, @eq_comm _ e]

def routeForm : Form where
  Field := RouteField
  Value := RouteField.Value
  Draft := RouteDraft
  name := RouteField.title
  read := RouteField.read
  get? := RouteDraft.get?
  set := RouteDraft.set
  empty := .empty
  step d m := do
    let f ← ofField (d.nextField m.1)
    setRouteField d f m.2
  name_injective := RouteField.title_injective
  get?_empty f := by cases f <;> rfl
  get?_set_self := RouteDraft.get?_set_self
  get?_set_of_ne := RouteDraft.get?_set_of_ne
  ext _ _ := RouteDraft.ext_get?
  step_eq_ok_iff d key v e := by
    simp only [bind_eq_ok_iff, ofField_eq_ok_iff, RouteDraft.nextField_eq_ok_iff,
      setRouteField_eq_ok_iff, and_assoc, exists_and_left]

def tableForm : Form where
  Field := TableField
  Value := TableField.Value
  Draft := TableDraft
  name := TableField.name
  read := TableField.read
  get? := TableDraft.get?
  set := TableDraft.set
  empty := .empty
  step d m := do
    let f ← ofField (d.nextField m.1)
    setTableField d f m.2
  name_injective := TableField.name_injective
  get?_empty f := by cases f <;> rfl
  get?_set_self := TableDraft.get?_set_self
  get?_set_of_ne := TableDraft.get?_set_of_ne
  ext _ _ := TableDraft.ext_get?
  step_eq_ok_iff d key v e := by
    simp only [bind_eq_ok_iff, ofField_eq_ok_iff, TableDraft.nextField_eq_ok_iff,
      setTableField_eq_ok_iff, and_assoc, exists_and_left]

/-- What reads members one after the other, and finishes when none is left, fills in a form. -/
theorem Form.read_ofList {F : Form} {α : Type} {read : F.Draft → Members → Except Error α}
    {finish : F.Draft → Except Error α} (hdone : ∀ d, read d .done = finish d)
    (hcons : ∀ d key v rest,
      read d (.cons key v rest) = F.step d (key, v) >>= fun next => read next rest)
    (d : F.Draft) (members : List (String × Reading)) :
    read d (.ofList members) = F.fill d members >>= finish := by
  induction members generalizing d with
  | nil => exact hdone d
  | cons m members ih =>
      calc
        read d (.ofList (m :: members)) =
            F.step d m >>= fun next => read next (.ofList members) := hcons d m.1 m.2 _
        _ = F.step d m >>= fun next => F.fill next members >>= finish := by simp only [ih]
        _ = (F.step d m >>= fun next => F.fill next members) >>= finish := by rw [bind_assoc]
        _ = F.fill d (m :: members) >>= finish := by rw [fill_cons]

/-- A route is read by filling in its form. -/
theorem routeOfMembers_ofList (d : RouteDraft) (entry : List (String × Reading)) :
    routeOfMembers d (.ofList entry) =
      routeForm.fill d entry >>= fun d => ofField (RouteDraft.finish d) :=
  routeForm.read_ofList (fun _ => rfl) (fun _ _ _ _ => (bind_assoc _ _ _).symm) d entry

/-- A table is read by filling in its form. -/
theorem tableOfMembers_ofList (d : TableDraft) (members : List (String × Reading)) :
    tableOfMembers d (.ofList members) =
      tableForm.fill d members >>= fun d => pure (TableDraft.finish d) :=
  tableForm.read_ofList (fun _ => rfl) (fun _ _ _ _ => (bind_assoc _ _ _).symm) d members

end PathRouter.Json
