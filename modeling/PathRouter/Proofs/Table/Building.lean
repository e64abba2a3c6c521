import PathRouter.Proofs.Router.WellFormed

/-!
# Building tables

A route of a table is at fault if an earlier route has its name, if its method is no expression, or
if its pattern does not compile with the types of the table; of several faults the first one counts.
Main statement: a table is built exactly if no route is at fault, and otherwise the fault of the
first route at fault is reported. The types of a table are never refused.
-/

namespace PathRouter

open Pattern (TypeRegistry)
open Router (bare)

namespace RouteDef

/-- No earlier route has the name. -/
def IsNew (earlier : List RouteDef) (d : RouteDef) : Prop :=
  ∀ name, d.name = some name → name ∉ earlier.filterMap RouteDef.name

/-- Why a route cannot stand behind earlier ones. -/
inductive Fault (types : TypeRegistry) (earlier : List RouteDef) (d : RouteDef) :
    RouteError → Prop where
  | name {name : String} : d.name = some name → name ∈ earlier.filterMap RouteDef.name →
      Fault types earlier d (.duplicateName name)
  | method {cause : Regex.Error} : d.IsNew earlier →
      compileMethods d.method = .error (.invalidMethod d.method cause) →
      Fault types earlier d (.invalidMethod d.method cause)
  | pattern {methods : Regex} {cause : Pattern.Error} : d.IsNew earlier →
      compileMethods d.method = .ok methods → Pattern.compile types d.pattern = .error cause →
      Fault types earlier d (.invalidPattern d.pattern cause)

/-- The fault of the first route at fault, among routes that are to stand behind earlier ones. -/
def FirstFault (types : TypeRegistry) (earlier ds : List RouteDef) (e : RouteError) : Prop :=
  ∃ (i : Nat) (d : RouteDef), ds[i]? = some d ∧ d.Fault types (earlier ++ ds.take i) e ∧
    ∀ (j : Nat) (other : RouteDef), j < i → ds[j]? = some other →
      ∀ e', ¬other.Fault types (earlier ++ ds.take j) e'

variable {types : TypeRegistry} {earlier ds : List RouteDef} {d : RouteDef} {e : RouteError}

theorem firstFault_nil : ¬FirstFault types earlier [] e := by
  rintro ⟨i, d, hd, -⟩
  cases hd

/-- If the first route is at fault, its fault counts. -/
theorem firstFault_cons_of_fault {e' : RouteError} (h : d.Fault types earlier e') :
    FirstFault types earlier (d :: ds) e ↔ d.Fault types earlier e := by
  constructor
  · rintro ⟨i, other, hother, hfault, hbefore⟩
    cases i with
    | zero =>
        obtain rfl := Option.some.inj hother
        rwa [List.take_zero, List.append_nil] at hfault
    | succ i =>
        have hfirst := hbefore 0 d (Nat.succ_pos i) rfl e'
        rw [List.take_zero, List.append_nil] at hfirst
        exact absurd h hfirst
  · intro hfault
    refine ⟨0, d, rfl, ?_, fun j _ hj => absurd hj (Nat.not_lt_zero j)⟩
    rwa [List.take_zero, List.append_nil]

/-- If the first route is not at fault, it is one of the earlier routes for those behind it. -/
theorem firstFault_cons_of_faultless (h : ∀ e', ¬d.Fault types earlier e') :
    FirstFault types earlier (d :: ds) e ↔ FirstFault types (earlier ++ [d]) ds e := by
  have htake (i : Nat) : earlier ++ (d :: ds).take (i + 1) = (earlier ++ [d]) ++ ds.take i := by
    rw [List.take_succ_cons, List.append_assoc, List.singleton_append]
  constructor
  · rintro ⟨i, other, hother, hfault, hbefore⟩
    cases i with
    | zero =>
        obtain rfl := Option.some.inj hother
        rw [List.take_zero, List.append_nil] at hfault
        exact absurd hfault (h e)
    | succ i =>
        refine ⟨i, other, hother, htake i ▸ hfault, ?_⟩
        intro j another hj hanother e'
        rw [← htake]
        exact hbefore (j + 1) another (Nat.succ_lt_succ hj) hanother e'
  · rintro ⟨i, other, hother, hfault, hbefore⟩
    refine ⟨i + 1, other, hother, (htake i).symm ▸ hfault, ?_⟩
    intro j another hj hanother e'
    cases j with
    | zero =>
        obtain rfl := Option.some.inj hanother
        rw [List.take_zero, List.append_nil]
        exact h e'
    | succ j =>
        rw [htake]
        exact hbefore j another (Nat.lt_of_succ_lt_succ hj) hanother e'

end RouteDef

/-! ## Routers -/

namespace Router

variable {r : Router} {d : RouteDef} {ds : List RouteDef} {e : RouteError}

theorem Sound.isNew_iff (hr : r.Sound) :
    d.IsNew r.defs ↔ d.name.filter r.named.contains = none := by
  simp only [RouteDef.IsNew, Option.filter_eq_none_iff, ← hr.contains_iff]

/-- A route is refused for its fault. -/
theorem Sound.register_eq_error_iff (hr : r.Sound) :
    r.register d = .error e ↔ d.Fault r.types r.defs e := by
  rw [Router.register]
  cases hfilter : d.name.filter r.named.contains with
  | some name =>
      obtain ⟨hname, hcontains⟩ := Option.filter_eq_some_iff.1 hfilter
      have htaken : name ∈ r.defs.filterMap RouteDef.name := hr.contains_iff.1 hcontains
      constructor
      · intro h
        rw [← Except.error.inj h]
        exact .name hname htaken
      · intro hfault
        cases hfault with
        | name hother =>
            rw [hname] at hother
            rw [Option.some.inj hother]
        | method hnew => exact absurd htaken (hnew name hname)
        | pattern hnew => exact absurd htaken (hnew name hname)
  | none =>
      have hnew : d.IsNew r.defs := hr.isNew_iff.2 hfilter
      constructor
      · intro h
        rcases bind_eq_error_iff.1 h with hmethod | ⟨methods, hmethods, h⟩
        · obtain ⟨cause, -, rfl⟩ := mapError_eq_error_iff.1 hmethod
          exact .method hnew hmethod
        · have hpattern := bind_pure_eq_error_iff.1 h
          obtain ⟨cause, hcause, rfl⟩ := mapError_eq_error_iff.1 hpattern
          exact .pattern hnew hmethods hcause
      · intro hfault
        cases hfault with
        | name hname htaken => exact absurd htaken (hnew _ hname)
        | method _ hmethod => exact bind_eq_error_iff.2 (.inl hmethod)
        | @pattern methods cause _ hmethods hcause =>
            have hpattern : compilePattern r.types d.pattern =
                .error (.invalidPattern d.pattern cause) :=
              mapError_eq_error_iff.2 ⟨cause, hcause, rfl⟩
            exact bind_eq_error_iff.2
              (.inr ⟨methods, hmethods, bind_pure_eq_error_iff.2 hpattern⟩)

/-- Of several routes the first one at fault is reported. -/
theorem Sound.addRoutes_eq_error_iff (hr : r.Sound) :
    (r.addRoutes ds).2 = some e ↔ RouteDef.FirstFault r.types r.defs ds e := by
  induction ds generalizing r with
  | nil => exact iff_of_false (Option.some_ne_none e).symm RouteDef.firstFault_nil
  | cons d ds ih =>
      rw [Router.addRoutes]
      cases hd : r.register d with
      | ok s =>
          have hfaultless (e' : RouteError) : ¬d.Fault r.types r.defs e' := by
            rw [← hr.register_eq_error_iff, hd]
            intro h
            cases h
          have hs := receives_register hd
          have htypes : s.types = r.types := hs.types
          have hdefs : s.defs = r.defs ++ [d] := hs.defs
          rw [RouteDef.firstFault_cons_of_faultless hfaultless, ← htypes, ← hdefs]
          exact ih (hr.register hd)
      | error e' =>
          rw [RouteDef.firstFault_cons_of_fault (hr.register_eq_error_iff.1 hd),
            ← hr.register_eq_error_iff, hd]
          exact ⟨fun h => congrArg Except.error (Option.some.inj h),
            fun h => congrArg some (Except.error.inj h)⟩

end Router

/-! ## Tables -/

namespace RouteTable

variable {t : RouteTable} {r : Router} {e : RouteError}

/-- The types that the patterns of a table are compiled with. -/
def types (t : RouteTable) : TypeRegistry := TypeRegistry.builtIn.extend t.matchTypes.entries

theorem get?_types (t : RouteTable) (tag : String) :
    t.types.get? tag = (t.matchTypes.get? tag).or (TypeRegistry.builtIn.get? tag) :=
  Dictionary.get?_insertAll_entries TypeRegistry.builtIn.types t.matchTypes tag

/-- The router that a table is turned into begins with the base path only. -/
def start (t : RouteTable) : Router :=
  match t.basePath with
  | some path => Router.empty.setBasePath path
  | none => .empty

/-- The router with all that a table says but its routes. -/
def routeless (t : RouteTable) : Router :=
  bare (t.basePath.elim "" Request.normalizeBasePath) t.types

/-- Where there are no routes, no type can make a fault. -/
theorem addMatchTypes_start (t : RouteTable) :
    t.start.addMatchTypes t.matchTypes.entries = .ok t.routeless := by
  obtain ⟨basePath, matchTypes, routes⟩ := t
  cases basePath <;> rfl

theorem sound_routeless (t : RouteTable) : t.routeless.Sound :=
  Router.sound_of_routes_eq_nil rfl rfl

/-- Whether a table is turned into a router is up to its routes. -/
theorem build_routeless (t : RouteTable) :
    t.build = match t.routeless.addRoutes t.routes with
      | (r, none) => .ok r
      | (_, some e) => .error e :=
  Router.build_bare t

theorem build_eq_ok_iff : t.build = .ok r ↔ t.routeless.addRoutes t.routes = (r, none) := by
  rw [build_routeless]
  rcases t.routeless.addRoutes t.routes with ⟨s, none | e⟩
  · rw [Except.ok.injEq, Prod.mk.injEq, and_iff_left rfl]
  · exact iff_of_false nofun nofun

/-- The fault of the first route at fault is reported. -/
theorem build_eq_error_iff :
    t.build = .error e ↔ RouteDef.FirstFault t.types [] t.routes e := by
  have hfault : (t.routeless.addRoutes t.routes).2 = some e ↔
      RouteDef.FirstFault t.types [] t.routes e := t.sound_routeless.addRoutes_eq_error_iff
  rw [← hfault, build_routeless]
  rcases t.routeless.addRoutes t.routes with ⟨s, none | e'⟩
  · exact iff_of_false nofun nofun
  · rw [Except.error.injEq, Option.some.injEq]

/-- The routes of a table have different names, and their methods and patterns compile. -/
structure Valid (t : RouteTable) : Prop where
  distinct : (t.routes.filterMap RouteDef.name).Nodup
  methods : ∀ d ∈ t.routes, ∃ methods, compileMethods d.method = .ok methods
  patterns : ∀ d ∈ t.routes, ∃ matcher, Pattern.compile t.types d.pattern = .ok matcher

/-- The router holds what the table says. -/
structure Describes (t : RouteTable) (r : Router) : Prop where
  routes : r.routes.map Route.toRouteDef = t.routes
  named : ∀ name pattern, r.namedPattern? name = some pattern ↔
    ∃ d ∈ t.routes, d.name = some name ∧ d.pattern = pattern
  basePath : r.basePath = t.basePath.elim "" Request.normalizeBasePath
  /-- A type of the table counts before a built-in one. -/
  types : ∀ tag, r.types.get? tag =
    (t.matchTypes.get? tag).or (TypeRegistry.builtIn.get? tag)
  methods : ∀ route ∈ r.routes, compileMethods route.method = .ok route.methods
  matchers : ∀ route ∈ r.routes, Pattern.compile t.types route.pattern = .ok route.matcher

theorem sound_of_build (h : t.build = .ok r) : r.Sound := by
  have hsound := t.sound_routeless.addRoutes t.routes
  rwa [build_eq_ok_iff.1 h] at hsound

theorem receives_of_build (h : t.build = .ok r) :
    t.routeless.Receives ⟨none, [], t.routes⟩ r := by
  have hadd : t.routeless.addRoutes t.routes = (r, none) := build_eq_ok_iff.1 h
  have hreceives := Router.receives_addRoutes t.routeless t.routes
  rwa [hadd, Router.acceptedRoutes_eq hadd] at hreceives

/-- What is built from a table holds what the table says. -/
theorem describes_of_build (h : t.build = .ok r) : t.Describes r := by
  have hr : r.Sound := sound_of_build h
  have hreceives := receives_of_build h
  have hroutes : r.routes.map Route.toRouteDef = t.routes := hreceives.defs
  have htypes : r.types = t.types := hreceives.types
  constructor
  · exact hroutes
  · intro name pattern
    rw [← hroutes]
    simp only [List.mem_map, exists_exists_and_eq_and]
    exact hr.get?_named_iff
  · exact hreceives.basePath
  · intro tag
    rw [htypes]
    exact t.get?_types tag
  · exact hr.methods
  · intro route hroute
    rw [← htypes]
    exact hr.compile_pattern hroute

/-- Only a valid table is turned into a router. -/
theorem valid_of_build (h : t.build = .ok r) : t.Valid := by
  have hdescribes : t.Describes r := describes_of_build h
  constructor
  · rw [← hdescribes.routes]
    exact (sound_of_build h).distinct
  · rw [← hdescribes.routes]
    intro d hd
    obtain ⟨route, hroute, rfl⟩ := List.mem_map.1 hd
    exact ⟨route.methods, hdescribes.methods route hroute⟩
  · rw [← hdescribes.routes]
    intro d hd
    obtain ⟨route, hroute, rfl⟩ := List.mem_map.1 hd
    exact ⟨route.matcher, hdescribes.matchers route hroute⟩

/-- No route of a valid table is at fault. -/
theorem Valid.not_fault (h : t.Valid) {earlier later : List RouteDef} {d : RouteDef}
    (hroutes : t.routes = earlier ++ d :: later) : ¬d.Fault t.types earlier e := by
  have hmem : d ∈ t.routes := by
    rw [hroutes]
    exact List.mem_append_cons_self
  rintro (⟨hname, htaken⟩ | ⟨-, hfault⟩ | ⟨-, -, hfault⟩)
  · have hdistinct := h.distinct
    rw [hroutes] at hdistinct
    exact Router.not_mem_of_nodup hdistinct hname htaken
  · obtain ⟨methods, hmethods⟩ := h.methods d hmem
    rw [hmethods] at hfault
    cases hfault
  · obtain ⟨matcher, hmatcher⟩ := h.patterns d hmem
    rw [hmatcher] at hfault
    cases hfault

theorem Valid.not_firstFault (h : t.Valid) : ¬RouteDef.FirstFault t.types [] t.routes e := by
  rintro ⟨i, d, hd, hfault, -⟩
  obtain ⟨hi, rfl⟩ := List.getElem?_eq_some_iff.1 hd
  have hroutes : t.routes = t.routes.take i ++ t.routes[i] :: t.routes.drop (i + 1) := by
    rw [← List.drop_eq_getElem_cons hi, List.take_append_drop]
  exact h.not_fault hroutes hfault

/-- A valid table is turned into a router. -/
theorem Valid.exists_build (h : t.Valid) : ∃ r, t.build = .ok r := by
  cases hbuild : t.build with
  | ok r => exact ⟨r, rfl⟩
  | error e => exact absurd (build_eq_error_iff.1 hbuild) h.not_firstFault

/-- A table is turned into a router exactly if it is valid, and the router holds what the table
says. Otherwise the fault of the first route at fault is reported: a name that an earlier route has,
else a method that is no expression, else a pattern that does not compile with the types of the
table. The types themselves are accepted in any case. -/
theorem build_outcome (t : RouteTable) :
    ((∃ r, t.build = .ok r) ↔ t.Valid) ∧
    (∀ r, t.build = .ok r → t.Describes r) ∧
    (∀ e, t.build = .error e ↔ RouteDef.FirstFault t.types [] t.routes e) ∧
    ∃ r, t.start.addMatchTypes t.matchTypes.entries = .ok r ∧
      t.build = match r.addRoutes t.routes with
        | (r, none) => .ok r
        | (_, some e) => .error e := by
  refine ⟨⟨?_, Valid.exists_build⟩, fun _ => describes_of_build, fun _ => build_eq_error_iff, ?_⟩
  · rintro ⟨r, hr⟩
    exact valid_of_build hr
  · exact ⟨t.routeless, t.addMatchTypes_start, t.build_routeless⟩

/-- A route with a name that is taken, a method that is no expression and a pattern that is not
closed: the name is reported. -/
example :
    let t : RouteTable := ⟨none, .empty,
      [⟨"GET", "/", "home", some "home"⟩, ⟨"(", "/[", "menu", some "home"⟩]⟩
    t.build = .error (.duplicateName "home") := by
  rfl

end RouteTable

end PathRouter
