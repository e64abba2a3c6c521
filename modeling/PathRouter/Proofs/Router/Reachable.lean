import PathRouter.Router.Edit
import PathRouter.Router.Match
import PathRouter.Proofs.Outcome

/-!
# Reachable routers

What holds of every router that changes lead to, whether they were refused or not: no two routes
have one name, the index says which pattern a name has, and all routes are compiled as they would
be compiled now.
-/

namespace PathRouter.Router

/-- What the routes say. -/
def defs (r : Router) : List RouteDef := r.routes.map Route.toRouteDef

/-- The router is as it should be. -/
structure Sound (r : Router) : Prop where
  distinct : (r.defs.filterMap RouteDef.name).Nodup
  indexed : ∀ name, r.named.get? name =
    (r.defs.find? fun d => d.name == some name).map RouteDef.pattern
  methods : ∀ route ∈ r.routes, compileMethods route.method = .ok route.methods
  matchers : ∀ route ∈ r.routes, compilePattern r.types route.pattern = .ok route.matcher

theorem sound_empty : empty.Sound where
  distinct := .nil
  indexed := fun _ => rfl
  methods := nofun
  matchers := nofun

/-! ## One change -/

/-- What a registration that succeeds has found and done. -/
theorem register_eq_ok {r s : Router} {d : RouteDef} (h : r.register d = .ok s) :
    ∃ methods matcher, (∀ name, d.name = some name → r.named.contains name = false) ∧
      compileMethods d.method = .ok methods ∧ compilePattern r.types d.pattern = .ok matcher ∧
      s = { r with
        routes := r.routes ++ [⟨d, methods, matcher⟩]
        named := match d.name with
          | some name => r.named.insert name d.pattern
          | none => r.named } := by
  unfold register at h
  split at h
  · cases h
  · next hnew =>
      simp only [bind_eq_ok_iff, pure_eq_ok_iff] at h
      obtain ⟨methods, hmethods, matcher, hmatcher, rfl⟩ := h
      refine ⟨methods, matcher, ?_, hmethods, hmatcher, rfl⟩
      intro name hname
      rw [hname] at hnew
      simpa using hnew

/-- The index has the names of the routes and no others. -/
theorem Sound.contains_iff {r : Router} (hr : r.Sound) {name : String} :
    r.named.contains name = true ↔ name ∈ r.defs.filterMap RouteDef.name := by
  rw [Dictionary.contains, hr.indexed, Option.isSome_map, List.find?_isSome, List.mem_filterMap]
  simp only [beq_iff_eq]

/-- A name that the index does not have is the name of no route. -/
theorem Sound.not_mem_of_new {r : Router} (hr : r.Sound) {name : String}
    (h : r.named.contains name = false) : name ∉ r.defs.filterMap RouteDef.name := by
  rw [← hr.contains_iff, h]
  exact Bool.false_ne_true

theorem Sound.find?_eq_none {r : Router} (hr : r.Sound) {name : String}
    (h : r.named.contains name = false) :
    r.defs.find? (fun d => d.name == some name) = none := by
  apply List.find?_eq_none.2
  intro d hd hname
  exact hr.not_mem_of_new h (List.mem_filterMap.2 ⟨d, hd, beq_iff_eq.1 hname⟩)

/-- The index goes on to say which pattern a name has. -/
theorem Sound.indexed_register {r : Router} (hr : r.Sound) {d : RouteDef}
    (hnew : ∀ name, d.name = some name → r.named.contains name = false) (name : String) :
    (match d.name with
      | some name => r.named.insert name d.pattern
      | none => r.named).get? name =
      ((r.defs ++ [d]).find? fun d => d.name == some name).map RouteDef.pattern := by
  rw [List.find?_append]
  cases hname : d.name with
  | none =>
      rw [hr.indexed name]
      simp [hname]
  | some own =>
      rw [Dictionary.get?_insert]
      by_cases h : name = own
      · subst h
        rw [hr.find?_eq_none (hnew name hname)]
        simp [hname]
      · have hother : (some own == some name) = false := by
          apply beq_false_of_ne
          intro heq
          exact h (Option.some.inj heq).symm
        rw [if_neg h, hr.indexed name]
        simp [hname, hother]

theorem Sound.register {r s : Router} (hr : r.Sound) {d : RouteDef} (h : r.register d = .ok s) :
    s.Sound := by
  obtain ⟨methods, matcher, hnew, hmethods, hmatcher, rfl⟩ := register_eq_ok h
  let route : Route := ⟨d, methods, matcher⟩
  have hdefs : (r.routes ++ [route]).map Route.toRouteDef = r.defs ++ [d] := by
    rw [List.map_append]
    rfl
  constructor
  · change (((r.routes ++ [route]).map Route.toRouteDef).filterMap RouteDef.name).Nodup
    rw [hdefs, List.filterMap_append, List.nodup_append]
    refine ⟨hr.distinct, ?_, ?_⟩
    · cases hname : d.name <;> simp [hname]
    · intro name hmem other hother
      obtain ⟨d', hd', hname⟩ := List.mem_filterMap.1 hother
      rw [List.mem_singleton.1 hd'] at hname
      rintro rfl
      exact hr.not_mem_of_new (hnew name hname) hmem
  · intro name
    change _ = (((r.routes ++ [route]).map Route.toRouteDef).find? _).map _
    rw [hdefs]
    exact hr.indexed_register hnew name
  · intro route hroute
    rcases List.mem_append.1 hroute with hroute | hroute
    · exact hr.methods route hroute
    · rw [List.mem_singleton.1 hroute]
      exact hmethods
  · intro route hroute
    rcases List.mem_append.1 hroute with hroute | hroute
    · exact hr.matchers route hroute
    · rw [List.mem_singleton.1 hroute]
      exact hmatcher

theorem Sound.addRoutes {r : Router} (hr : r.Sound) (ds : List RouteDef) :
    (r.addRoutes ds).1.Sound := by
  induction ds generalizing r with
  | nil => exact hr
  | cons d ds ih =>
      rw [Router.addRoutes]
      split
      · next hs => exact ih (hr.register hs)
      · exact hr

/-- A route that has been compiled anew against other types says what it said. -/
structure Renewed (types : Pattern.TypeRegistry) (old new : Route) : Prop where
  compiled : compilePattern types new.pattern = .ok new.matcher
  same : new = { old with matcher := new.matcher }

theorem Renewed.toRouteDef_eq {types : Pattern.TypeRegistry} {old new : Route}
    (h : Renewed types old new) : new.toRouteDef = old.toRouteDef := by
  rw [h.same]

/-- What an addition of types that succeeds has done: all routes are compiled anew. -/
theorem addMatchTypes_eq_ok {r s : Router} {types : List (String × String)}
    (h : r.addMatchTypes types = .ok s) :
    List.Forall₂ (Renewed (r.types.extend types)) r.routes s.routes ∧
      s = { r with routes := s.routes, types := r.types.extend types } := by
  simp only [Router.addMatchTypes, bind_eq_ok_iff, pure_eq_ok_iff, mapM_eq_ok_iff] at h
  obtain ⟨matchers, hmatchers, rfl⟩ := h
  refine ⟨?_, rfl⟩
  dsimp only
  generalize r.routes = routes at hmatchers
  induction hmatchers with
  | nil => exact .nil
  | cons hmatcher _ ih => exact .cons ⟨hmatcher, rfl⟩ ih

theorem defs_of_renewed {types : Pattern.TypeRegistry} {olds news : List Route}
    (h : List.Forall₂ (Renewed types) olds news) :
    news.map Route.toRouteDef = olds.map Route.toRouteDef := by
  induction h with
  | nil => rfl
  | cons hroute _ ih => rw [List.map_cons, List.map_cons, hroute.toRouteDef_eq, ih]

theorem exists_renewed {types : Pattern.TypeRegistry} {olds news : List Route}
    (h : List.Forall₂ (Renewed types) olds news) {new : Route} (hnew : new ∈ news) :
    ∃ old ∈ olds, Renewed types old new := by
  induction h with
  | nil => cases hnew
  | cons hroute _ ih =>
      rcases List.mem_cons.1 hnew with rfl | hnew
      · exact ⟨_, List.mem_cons_self, hroute⟩
      · obtain ⟨old, hold, hrenewed⟩ := ih hnew
        exact ⟨old, List.mem_cons_of_mem _ hold, hrenewed⟩

theorem Sound.addMatchTypes {r s : Router} (hr : r.Sound) {types : List (String × String)}
    (h : r.addMatchTypes types = .ok s) : s.Sound := by
  obtain ⟨hroutes, hs⟩ := addMatchTypes_eq_ok h
  have hdefs : s.defs = r.defs := defs_of_renewed hroutes
  constructor
  · rw [hdefs]
    exact hr.distinct
  · intro name
    rw [hdefs, hs]
    exact hr.indexed name
  · intro route hroute
    obtain ⟨old, hold, hrenewed⟩ := exists_renewed hroutes hroute
    rw [hrenewed.same]
    exact hr.methods old hold
  · intro route hroute
    obtain ⟨old, hold, hrenewed⟩ := exists_renewed hroutes hroute
    rw [hs]
    exact hrenewed.compiled

theorem Sound.settle {r : Router} (hr : r.Sound) {result : Except RouteError Router}
    (h : ∀ s, result = .ok s → s.Sound) : (r.settle result).1.Sound := by
  cases result with
  | ok s => exact h s rfl
  | error e => exact hr

theorem Sound.setBasePath {r : Router} (hr : r.Sound) (path : String) :
    (r.setBasePath path).Sound := by
  rw [Router.setBasePath]
  generalize Request.normalizeBasePath path = base
  exact ⟨hr.distinct, hr.indexed, hr.methods, hr.matchers⟩

/-- Every change leaves a router as it should be. -/
theorem Sound.apply {r : Router} (hr : r.Sound) (edit : Edit) : (r.apply edit).1.Sound := by
  cases edit with
  | register d => exact hr.settle fun s hs => hr.register hs
  | addRoutes ds => exact hr.addRoutes ds
  | setBasePath path => exact hr.setBasePath path
  | addMatchTypes types => exact hr.settle fun s hs => hr.addMatchTypes hs

/-- Every sequence of changes leaves a router as it should be. -/
theorem Sound.applyAll {r : Router} (hr : r.Sound) (edits : List Edit) :
    (r.applyAll edits).Sound := by
  induction edits generalizing r with
  | nil => exact hr
  | cons edit edits ih => exact ih (hr.apply edit)

/-- A router that changes have led to. -/
theorem sound_applyAll (edits : List Edit) : (empty.applyAll edits).Sound :=
  sound_empty.applyAll edits

/-! ## Named routes -/

theorem find?_name {routes : List Route}
    (hdistinct : ((routes.map Route.toRouteDef).filterMap RouteDef.name).Nodup) {route : Route}
    (hroute : route ∈ routes) {name : String} (hname : route.name = some name) :
    routes.find? (fun route => route.name == some name) = some route := by
  induction routes with
  | nil => cases hroute
  | cons first routes ih =>
      rw [List.map_cons] at hdistinct
      rcases List.mem_cons.1 hroute with rfl | hroute
      · simp [hname]
      · have hmem : name ∈ (routes.map Route.toRouteDef).filterMap RouteDef.name :=
          List.mem_filterMap.2 ⟨route.toRouteDef, List.mem_map_of_mem hroute, hname⟩
        have hother : (first.name == some name) = false := by
          apply beq_false_of_ne
          intro hfirst
          rw [List.filterMap_cons_some hfirst, List.nodup_cons] at hdistinct
          exact hdistinct.1 hmem
        rw [List.find?_cons, hother]
        apply ih _ hroute
        exact hdistinct.sublist ((List.sublist_cons_self _ _).filterMap _)

/-- A name leads back to the route that has it. -/
theorem Sound.namedRoute? {r : Router} (hr : r.Sound) {route : Route} (hroute : route ∈ r.routes)
    {name : String} (hname : route.name = some name) : r.namedRoute? name = some route :=
  find?_name hr.distinct hroute hname

/-- The index and the routes agree on the pattern of a name. -/
theorem Sound.namedPattern?_eq {r : Router} (hr : r.Sound) (name : String) :
    r.namedPattern? name = (r.namedRoute? name).map (·.pattern) := by
  rw [namedPattern?, hr.indexed, defs, List.find?_map, Option.map_map]
  rfl

/-- The matcher of a route is the one that its pattern has now. -/
theorem Sound.compile_pattern {r : Router} (hr : r.Sound) {route : Route}
    (hroute : route ∈ r.routes) : Pattern.compile r.types route.pattern = .ok route.matcher :=
  mapError_eq_ok_iff.1 (hr.matchers route hroute)

end PathRouter.Router
