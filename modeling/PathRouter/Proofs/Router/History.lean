import PathRouter.Router.Generate
import PathRouter.Table.Basic
import PathRouter.Proofs.Dictionary
import PathRouter.Proofs.Router.Reachable

/-!
# Histories of routers

A change contributes to a router what of it is accepted: a base path, types of placeholders, or
routes. Main statement: whatever its history, a router is the one built from a route table that
holds what the history contributed. So it makes no difference when types were added, and what was
refused has left no trace.
-/

namespace PathRouter

/-- What changes contribute, in the order in which it was accepted. -/
structure Contribution where
  /-- The base path that was set last, if one was set. -/
  basePath : Option String
  matchTypes : List (String × String)
  routes : List RouteDef
deriving DecidableEq, Repr

namespace Contribution

def nothing : Contribution := ⟨none, [], []⟩

/-- One contribution and a later one. -/
def andThen (a b : Contribution) : Contribution :=
  ⟨b.basePath.or a.basePath, a.matchTypes ++ b.matchTypes, a.routes ++ b.routes⟩

/-- The route table that holds what was contributed. -/
def table (c : Contribution) : RouteTable := ⟨c.basePath, .ofList c.matchTypes, c.routes⟩

end Contribution

namespace Router

/-- Of several routes, those before the first one that is refused. -/
def acceptedRoutes (r : Router) : List RouteDef → List RouteDef
  | [] => []
  | d :: ds =>
    match r.register d with
    | .ok s => d :: acceptedRoutes s ds
    | .error _ => []

/-- What a change contributes to a router. -/
def contribution (r : Router) : Edit → Contribution
  | .register d =>
    match r.register d with
    | .ok _ => ⟨none, [], [d]⟩
    | .error _ => .nothing
  | .addRoutes ds => ⟨none, [], r.acceptedRoutes ds⟩
  | .setBasePath path => ⟨some path, [], []⟩
  | .addMatchTypes types =>
    match r.addMatchTypes types with
    | .ok _ => ⟨none, types, []⟩
    | .error _ => .nothing

/-- What changes contribute to a router, one after the other. -/
def contributions (r : Router) : List Edit → Contribution
  | [] => .nothing
  | edit :: edits => (r.contribution edit).andThen (contributions (r.apply edit).1 edits)

/-! ## What a change does -/

/-- The second router is the first one with what was contributed. Nothing is said of the compiled
patterns, which follow from the rest. -/
structure Receives (r : Router) (c : Contribution) (s : Router) : Prop where
  basePath : s.basePath = c.basePath.elim r.basePath Request.normalizeBasePath
  types : s.types = r.types.extend c.matchTypes
  defs : s.defs = r.defs ++ c.routes

theorem Receives.nothing (r : Router) : Receives r .nothing r where
  basePath := rfl
  types := rfl
  defs := (List.append_nil _).symm

theorem Receives.andThen {r s t : Router} {a b : Contribution} (hs : Receives r a s)
    (ht : Receives s b t) : Receives r (a.andThen b) t where
  basePath := by
    rw [ht.basePath, hs.basePath, Contribution.andThen]
    cases b.basePath <;> rfl
  types := by
    rw [ht.types, hs.types]
    simp [Pattern.TypeRegistry.extend, Dictionary.insertAll, Contribution.andThen]
  defs := by rw [ht.defs, hs.defs, Contribution.andThen, List.append_assoc]

theorem receives_register {r s : Router} {d : RouteDef} (h : r.register d = .ok s) :
    Receives r ⟨none, [], [d]⟩ s := by
  obtain ⟨methods, matcher, -, -, -, rfl⟩ := register_eq_ok h
  constructor
  · rfl
  · rfl
  · exact List.map_append

theorem receives_addRoutes (r : Router) (ds : List RouteDef) :
    Receives r ⟨none, [], r.acceptedRoutes ds⟩ (r.addRoutes ds).1 := by
  induction ds generalizing r with
  | nil => exact .nothing r
  | cons d ds ih =>
      rw [addRoutes, acceptedRoutes]
      cases hs : r.register d with
      | ok s => exact (receives_register hs).andThen (ih s)
      | error e => exact .nothing r

theorem receives_addMatchTypes {r s : Router} {types : List (String × String)}
    (h : r.addMatchTypes types = .ok s) : Receives r ⟨none, types, []⟩ s := by
  obtain ⟨hroutes, hs⟩ := addMatchTypes_eq_ok h
  have hdefs : s.defs = r.defs := defs_of_renewed hroutes
  constructor
  · rw [hs]
    rfl
  · rw [hs]
  · rw [hdefs, List.append_nil]

/-- A change does to a router what its contribution says, whether it was refused or not. -/
theorem receives_apply (r : Router) (edit : Edit) :
    Receives r (r.contribution edit) (r.apply edit).1 := by
  cases edit with
  | register d =>
      rw [contribution, apply]
      cases hs : r.register d with
      | ok s => exact receives_register hs
      | error e => exact .nothing r
  | addRoutes ds => exact receives_addRoutes r ds
  | setBasePath path =>
      constructor
      · rfl
      · rfl
      · exact (List.append_nil _).symm
  | addMatchTypes types =>
      rw [contribution, apply]
      cases hs : r.addMatchTypes types with
      | ok s => exact receives_addMatchTypes hs
      | error e => exact .nothing r

theorem receives_applyAll (r : Router) (edits : List Edit) :
    Receives r (r.contributions edits) (r.applyAll edits) := by
  induction edits generalizing r with
  | nil => exact .nothing r
  | cons edit edits ih => exact (receives_apply r edit).andThen (ih _)

/-! ## What a refused change leaves behind -/

/-- Of several routes that were refused, those before the first one at fault are left; any other
change that was refused leaves nothing. -/
def Leaves (r : Router) (edit : Edit) (e : RouteError) : Prop :=
  match edit with
  | .addRoutes ds => ∃ earlier d later s, ds = earlier ++ d :: later ∧
      r.addRoutes earlier = (s, none) ∧ s.register d = .error e ∧
      r.contribution edit = ⟨none, [], earlier⟩ ∧ (r.apply edit).1 = s
  | _ => r.contribution edit = .nothing ∧ (r.apply edit).1 = r

theorem addRoutes_refused {r s : Router} {ds : List RouteDef} {e : RouteError}
    (h : r.addRoutes ds = (s, some e)) :
    ∃ d later, ds = r.acceptedRoutes ds ++ d :: later ∧
      r.addRoutes (r.acceptedRoutes ds) = (s, none) ∧ s.register d = .error e := by
  induction ds generalizing r with
  | nil => cases h
  | cons d ds ih =>
      rw [addRoutes] at h
      rw [acceptedRoutes]
      cases hd : r.register d with
      | ok t =>
          rw [hd] at h
          obtain ⟨d', later, hds, hearlier, herror⟩ := ih h
          refine ⟨d', later, congrArg (d :: ·) hds, ?_, herror⟩
          rw [addRoutes, hd]
          exact hearlier
      | error e' =>
          rw [hd] at h
          obtain ⟨rfl, he⟩ := Prod.mk.inj h
          obtain rfl := Option.some.inj he
          exact ⟨d, ds, rfl, rfl, hd⟩

/-- If none is refused, all routes are accepted. -/
theorem acceptedRoutes_eq {r s : Router} {ds : List RouteDef} (h : r.addRoutes ds = (s, none)) :
    r.acceptedRoutes ds = ds := by
  induction ds generalizing r with
  | nil => rfl
  | cons d ds ih =>
      rw [addRoutes] at h
      rw [acceptedRoutes]
      cases hd : r.register d with
      | ok t =>
          rw [hd] at h
          exact congrArg (d :: ·) (ih h)
      | error e =>
          rw [hd] at h
          cases h

theorem leaves_of_refused {r : Router} {edit : Edit} {e : RouteError}
    (h : (r.apply edit).2 = some e) : r.Leaves edit e := by
  cases edit with
  | register d =>
      rw [apply] at h
      cases hs : r.register d with
      | ok s =>
          rw [hs] at h
          cases h
      | error e' => simp [Leaves, contribution, apply, settle, hs]
  | addRoutes ds =>
      have hds : r.addRoutes ds = ((r.addRoutes ds).1, some e) := Prod.ext rfl h
      obtain ⟨d, later, hsplit, hearlier, herror⟩ := addRoutes_refused hds
      exact ⟨r.acceptedRoutes ds, d, later, _, hsplit, hearlier, herror, rfl, rfl⟩
  | setBasePath path => cases h
  | addMatchTypes types =>
      rw [apply] at h
      cases hs : r.addMatchTypes types with
      | ok s =>
          rw [hs] at h
          cases h
      | error e' => simp [Leaves, contribution, apply, settle, hs]

/-! ## Building a router anew -/

/-- Routers with the same routes, base path and types are equal: the index follows from the
routes. -/
theorem Sound.ext {r s : Router} (hr : r.Sound) (hs : s.Sound) (hroutes : r.routes = s.routes)
    (hbase : r.basePath = s.basePath) (htypes : r.types = s.types) : r = s := by
  have hnamed : r.named = s.named := by
    apply Dictionary.ext_get?
    intro name
    rw [hr.indexed, hs.indexed, defs, defs, hroutes]
  cases r
  cases s
  simp only at hroutes hbase htypes hnamed
  rw [hroutes, hbase, htypes, hnamed]

theorem register_of_new {r : Router} {d : RouteDef} {methods : Regex} {matcher : Pattern.Matcher}
    (hnew : ∀ name, d.name = some name → r.named.contains name = false)
    (hmethods : compileMethods d.method = .ok methods)
    (hmatcher : compilePattern r.types d.pattern = .ok matcher) :
    r.register d = .ok { r with
      routes := r.routes ++ [⟨d, methods, matcher⟩]
      named := match d.name with
        | some name => r.named.insert name d.pattern
        | none => r.named } := by
  have hfilter : d.name.filter r.named.contains = none := by
    cases hname : d.name with
    | none => rfl
    | some name => simp [hnew name hname]
  rw [register, hfilter, hmethods, hmatcher]
  rfl

/-- Of routes with different names, those before one do not have its name. -/
theorem not_mem_of_nodup {earlier later : List RouteDef} {d : RouteDef}
    (h : ((earlier ++ d :: later).filterMap RouteDef.name).Nodup) {name : String}
    (hname : d.name = some name) : name ∉ earlier.filterMap RouteDef.name := by
  intro hearlier
  rw [List.filterMap_append, List.nodup_append] at h
  have hown : name ∈ (d :: later).filterMap RouteDef.name :=
    List.mem_filterMap.2 ⟨d, List.mem_cons_self, hname⟩
  exact h.2.2 name hearlier name hown rfl

/-- A name is new as long as no earlier route has it. -/
theorem Sound.contains_eq_false {s : Router} (hs : s.Sound) {d : RouteDef} {later : List RouteDef}
    (hdistinct : ((s.defs ++ d :: later).filterMap RouteDef.name).Nodup) {name : String}
    (hname : d.name = some name) : s.named.contains name = false := by
  rw [← Bool.not_eq_true, hs.contains_iff]
  exact not_mem_of_nodup hdistinct hname

/-- The routes of a router are accepted one after the other by a router that has the first of
them. -/
theorem Sound.addRoutes_later {r s : Router} (hr : r.Sound) (hs : s.Sound) {later : List Route}
    (hroutes : r.routes = s.routes ++ later) (hbase : r.basePath = s.basePath)
    (htypes : r.types = s.types) : s.addRoutes (later.map Route.toRouteDef) = (r, none) := by
  induction later generalizing s with
  | nil =>
      rw [List.append_nil] at hroutes
      rw [hr.ext hs hroutes hbase htypes]
      rfl
  | cons route later ih =>
      have hmem : route ∈ r.routes := by
        rw [hroutes]
        exact List.mem_append_cons_self
      have hdistinct := hr.distinct
      rw [defs, hroutes, List.map_append, List.map_cons] at hdistinct
      have hregister := register_of_new (fun _ => hs.contains_eq_false hdistinct)
        (hr.methods route hmem) (htypes ▸ hr.matchers route hmem)
      rw [List.map_cons, Router.addRoutes, hregister]
      apply ih (hs.register hregister)
      · rw [hroutes, List.append_assoc]
        rfl
      · exact hbase
      · exact htypes

theorem sound_of_routes_eq_nil {r : Router} (hroutes : r.routes = []) (hnamed : r.named = .empty) :
    r.Sound where
  distinct := by simp [defs, hroutes]
  indexed := by simp [defs, hroutes, hnamed]
  methods := by simp [hroutes]
  matchers := by simp [hroutes]

/-- A router with a base path and types but without routes. -/
def bare (basePath : String) (types : Pattern.TypeRegistry) : Router :=
  ⟨[], .empty, basePath, types⟩

/-- Building a table begins with the base path and the types, which are never refused. -/
theorem build_bare (t : RouteTable) :
    t.build = match (bare (t.basePath.elim "" Request.normalizeBasePath)
      (Pattern.TypeRegistry.builtIn.extend t.matchTypes.entries)).addRoutes t.routes with
      | (r, none) => .ok r
      | (_, some e) => .error e := by
  obtain ⟨basePath, matchTypes, routes⟩ := t
  cases basePath <;> rfl

theorem build_table (c : Contribution) :
    c.table.build = match (bare (c.basePath.elim "" Request.normalizeBasePath)
      (Pattern.TypeRegistry.builtIn.extend c.matchTypes)).addRoutes c.routes with
      | (r, none) => .ok r
      | (_, some e) => .error e := by
  have htypes : Pattern.TypeRegistry.builtIn.extend (Dictionary.ofList c.matchTypes).entries =
      Pattern.TypeRegistry.builtIn.extend c.matchTypes := by
    rw [Pattern.TypeRegistry.extend, Dictionary.insertAll_entries]
    rfl
  rw [← htypes]
  exact build_bare c.table

/-- A router that received all it has from a table can be built from the table. -/
theorem Sound.build_eq {r : Router} (hr : r.Sound) {c : Contribution} (h : Receives empty c r) :
    c.table.build = .ok r := by
  have hbare : (bare (c.basePath.elim "" Request.normalizeBasePath)
      (Pattern.TypeRegistry.builtIn.extend c.matchTypes)).addRoutes c.routes = (r, none) := by
    have hdefs : c.routes = r.routes.map Route.toRouteDef := h.defs.symm
    rw [hdefs]
    exact hr.addRoutes_later (sound_of_routes_eq_nil rfl rfl) rfl h.basePath h.types
  rw [build_table, hbare]

/-- Whatever its history, a router is the one built from a table that holds what the history
contributed; a refused change contributes nothing but the routes before the first one at fault. So
histories that contribute the same table lead to the same router: all requests are answered alike
and the same paths are made. -/
theorem build_contributions (edits : List Edit) :
    (empty.contributions edits).table.build = .ok (empty.applyAll edits) ∧
      (∀ earlier edit later e, edits = earlier ++ edit :: later →
        ((empty.applyAll earlier).apply edit).2 = some e →
        (empty.applyAll earlier).Leaves edit e) ∧
      ∀ others, (empty.contributions others).table = (empty.contributions edits).table →
        empty.applyAll others = empty.applyAll edits ∧
        (∀ method path, (empty.applyAll others).match? method path =
          (empty.applyAll edits).match? method path) ∧
        ∀ name params, (empty.applyAll others).generate name params =
          (empty.applyAll edits).generate name params := by
  have hbuild (edits : List Edit) :
      (empty.contributions edits).table.build = .ok (empty.applyAll edits) :=
    (sound_applyAll edits).build_eq (receives_applyAll empty edits)
  refine ⟨hbuild edits, ?_, ?_⟩
  · intro earlier edit later e _ hrefused
    exact leaves_of_refused hrefused
  · intro others htable
    have hothers := hbuild others
    rw [htable, hbuild edits] at hothers
    have hsame : empty.applyAll others = empty.applyAll edits := (Except.ok.inj hothers).symm
    rw [hsame]
    exact ⟨rfl, fun _ _ => rfl, fun _ _ => rfl⟩

/-- A type may be added before or after the route that it is used in. -/
example :
    let year := Edit.addMatchTypes [("year", "[0-9]+")]
    let archive := Edit.register ⟨"get", "/[year:y]", "archive", none⟩
    (empty.contributions [year, archive]).table = (empty.contributions [archive, year]).table := by
  decide +kernel

end Router

end PathRouter
