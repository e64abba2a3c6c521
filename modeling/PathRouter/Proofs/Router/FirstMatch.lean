import PathRouter.Proofs.Router.History

/-!
# The first route that accepts a request

A request is answered by the route of least index that accepts it. So the routes that do not accept
a request make no difference to its answer, and routes that are added later answer only what no
route before them accepts.
-/

namespace PathRouter

open Pattern (Params)
open Request (normalizeMethod normalizePath)

/-- The method expression and the matcher of a route accept a request in normal form, and the
matcher reads these parameters off the path. -/
def Route.Accepts (route : Route) (method path : String) (params : Params) : Prop :=
  route.acceptsMethod method = true ∧ route.matcher.params? path = some params

/-- What a route says of itself when it accepts a request. -/
def Route.answer (route : Route) (params : Params) : RouteMatch :=
  ⟨route.handler, params, route.name, route.pattern⟩

/-- Whether a route accepts a request in normal form. -/
def Route.accepts (route : Route) (method path : String) : Bool :=
  route.acceptsMethod method && (route.matcher.params? path).isSome

namespace Route
variable {route : Route} {method path : String}

theorem match?_eq_some_iff {answer : RouteMatch} : route.match? method path = some answer ↔
    ∃ params, route.Accepts method path params ∧ answer = route.answer params := by
  rw [match?]
  split
  · next hmethod =>
      rw [Option.map_eq_some_iff]
      constructor
      · rintro ⟨params, hparams, rfl⟩
        exact ⟨params, ⟨hmethod, hparams⟩, rfl⟩
      · rintro ⟨params, ⟨-, hparams⟩, rfl⟩
        exact ⟨params, hparams, rfl⟩
  · next hmethod =>
      constructor
      · nofun
      · rintro ⟨params, ⟨haccepts, -⟩, -⟩
        exact absurd haccepts hmethod

theorem match?_eq_none_iff :
    route.match? method path = none ↔ ∀ params, ¬route.Accepts method path params := by
  constructor
  · intro hnone params haccepts
    rw [match?_eq_some_iff.2 ⟨params, haccepts, rfl⟩] at hnone
    cases hnone
  · intro hrefuses
    cases hanswer : route.match? method path with
    | none => rfl
    | some answer =>
        obtain ⟨params, haccepts, -⟩ := match?_eq_some_iff.1 hanswer
        exact absurd haccepts (hrefuses params)

theorem accepts_eq_isSome : route.accepts method path = (route.match? method path).isSome := by
  rw [accepts, match?]
  cases route.acceptsMethod method with
  | true => rw [if_pos rfl, Option.isSome_map, Bool.true_and]
  | false => rfl

end Route

/-- What routes answer to a request in normal form: the route of least index that accepts it gives
the answer, and if none accepts it there is none. -/
def Answers (routes : List Route) (method path : String) : Option RouteMatch → Prop
  | some answer => ∃ (i : Nat) (route : Route) (params : Params), routes[i]? = some route ∧
      route.Accepts method path params ∧ answer = route.answer params ∧
      ∀ (j : Nat) (earlier : Route), j < i → routes[j]? = some earlier →
        ∀ params, ¬earlier.Accepts method path params
  | none => ∀ route ∈ routes, ∀ params, ¬route.Accepts method path params

/-- Trying the routes one after the other gives the answer. -/
theorem answers_findSome? (routes : List Route) (method path : String) :
    Answers routes method path (routes.findSome? fun route => route.match? method path) := by
  cases hfind : routes.findSome? fun route => route.match? method path with
  | none =>
      intro route hroute
      exact Route.match?_eq_none_iff.1 (List.findSome?_eq_none_iff.1 hfind route hroute)
  | some answer =>
      obtain ⟨before, route, after, rfl, hroute, hbefore⟩ := List.findSome?_eq_some_iff.1 hfind
      obtain ⟨params, haccepts, hanswer⟩ := Route.match?_eq_some_iff.1 hroute
      refine ⟨before.length, route, params, ?_, haccepts, hanswer, ?_⟩
      · rw [List.getElem?_append_right (Nat.le_refl _), Nat.sub_self, List.getElem?_cons_zero]
      · intro j earlier hj hearlier
        rw [List.getElem?_append_left hj] at hearlier
        exact Route.match?_eq_none_iff.1 (hbefore earlier (List.mem_of_getElem? hearlier))

/-- Routes give one answer. -/
theorem Answers.unique {routes : List Route} {method path : String} {a b : Option RouteMatch}
    (ha : Answers routes method path a) (hb : Answers routes method path b) : a = b := by
  cases a with
  | none =>
      cases b with
      | none => rfl
      | some answer =>
          obtain ⟨i, route, params, hroute, haccepts, -⟩ := hb
          exact absurd haccepts (ha route (List.mem_of_getElem? hroute) params)
  | some first =>
      obtain ⟨i, route, params, hroute, haccepts, rfl, hbefore⟩ := ha
      cases b with
      | none => exact absurd haccepts (hb route (List.mem_of_getElem? hroute) params)
      | some second =>
          obtain ⟨j, other, params', hother, haccepts', rfl, hbefore'⟩ := hb
          rcases Nat.lt_trichotomy i j with hlt | rfl | hgt
          · exact absurd haccepts (hbefore' i route hlt hroute params)
          · obtain rfl := Option.some.inj (hroute.symm.trans hother)
            rw [Option.some.inj (haccepts.2.symm.trans haccepts'.2)]
          · exact absurd haccepts' (hbefore j other hgt hother params')

/-- Routes that do not accept a request make no difference to its answer. -/
theorem findSome?_filter_accepts (routes : List Route) (method path : String) :
    (routes.filter fun route => route.accepts method path).findSome?
      (fun route => route.match? method path) =
      routes.findSome? fun route => route.match? method path := by
  induction routes with
  | nil => rfl
  | cons route routes ih =>
      rw [List.filter_cons, Route.accepts_eq_isSome, List.findSome?_cons]
      cases hmatch : route.match? method path with
      | none => exact ih
      | some answer =>
          rw [Option.isSome_some, if_pos rfl, List.findSome?_cons, hmatch]

namespace Router

/-- The answer to a request in the normal form that a base path gives it. -/
theorem match?_eq (r : Router) (method path : String) :
    r.match? method path = r.routes.findSome? fun route =>
      route.match? (normalizeMethod method) (normalizePath path r.basePath) := rfl

/-! ## Routes that are added later -/

/-- The second router is the first one with more routes behind its own. -/
structure Extends (r s : Router) (added : List Route) : Prop where
  routes : s.routes = r.routes ++ added
  basePath : s.basePath = r.basePath
  types : s.types = r.types

theorem Extends.nothing (r : Router) : Extends r r [] where
  routes := (List.append_nil _).symm
  basePath := rfl
  types := rfl

theorem Extends.andThen {r s t : Router} {as bs : List Route} (hs : Extends r s as)
    (ht : Extends s t bs) : Extends r t (as ++ bs) where
  routes := by rw [ht.routes, hs.routes, List.append_assoc]
  basePath := ht.basePath.trans hs.basePath
  types := ht.types.trans hs.types

/-- A registration that succeeds puts one route behind the others. -/
theorem extends_register {r s : Router} {d : RouteDef} (h : r.register d = .ok s) :
    ∃ route, route.toRouteDef = d ∧ Extends r s [route] := by
  obtain ⟨methods, matcher, -, -, -, rfl⟩ := register_eq_ok h
  exact ⟨⟨d, methods, matcher⟩, rfl, rfl, rfl, rfl⟩

/-- Of several routes, those that are accepted stand behind the others. -/
theorem extends_addRoutes (r : Router) (ds : List RouteDef) :
    ∃ added, added.map Route.toRouteDef = r.acceptedRoutes ds ∧
      Extends r (r.addRoutes ds).1 added := by
  induction ds generalizing r with
  | nil => exact ⟨[], rfl, .nothing r⟩
  | cons d ds ih =>
      rw [addRoutes, acceptedRoutes]
      cases hs : r.register d with
      | error e => exact ⟨[], rfl, .nothing r⟩
      | ok s =>
          obtain ⟨route, rfl, hroute⟩ := extends_register hs
          obtain ⟨added, hdefs, hadded⟩ := ih s
          exact ⟨route :: added, congrArg (_ :: ·) hdefs, hroute.andThen hadded⟩

/-- The second router has new routes that say what `ds` says. What the first router answers stays as
it is, and to what it does not answer the new routes give the answer. -/
def Continues (r s : Router) (ds : List RouteDef) : Prop :=
  ∃ added, added.map Route.toRouteDef = ds ∧ Extends r s added ∧ ∀ method path,
    (∀ answer, r.match? method path = some answer → s.match? method path = some answer) ∧
    (r.match? method path = none →
      Answers added (normalizeMethod method) (normalizePath path r.basePath)
        (s.match? method path))

theorem Extends.continues {r s : Router} {added : List Route} (h : Extends r s added) :
    Continues r s (added.map Route.toRouteDef) := by
  refine ⟨added, rfl, h, fun method path => ?_⟩
  have hmatch : s.match? method path = (r.match? method path).or (added.findSome? fun route =>
      route.match? (normalizeMethod method) (normalizePath path r.basePath)) := by
    rw [match?_eq, match?_eq, h.routes, h.basePath, List.findSome?_append]
  constructor
  · intro answer hanswer
    rw [hmatch, hanswer, Option.some_or]
  · intro hnone
    rw [hmatch, hnone, Option.none_or]
    exact answers_findSome? added _ _

/-! ## Routes that make no difference -/

/-- Routes that say the same are compiled alike against the same types. -/
theorem Sound.eq_of_toRouteDef {r s : Router} (hr : r.Sound) (hs : s.Sound)
    (htypes : r.types = s.types) {a b : Route} (ha : a ∈ r.routes) (hb : b ∈ s.routes)
    (hdef : a.toRouteDef = b.toRouteDef) : a = b := by
  have hmethods := hr.methods a ha
  have hmatcher := hr.matchers a ha
  rw [hdef, hs.methods b hb] at hmethods
  rw [hdef, htypes, hs.matchers b hb] at hmatcher
  obtain ⟨d, methods, matcher⟩ := a
  obtain ⟨d', methods', matcher'⟩ := b
  obtain rfl : d = d' := hdef
  obtain rfl : methods' = methods := Except.ok.inj hmethods
  obtain rfl : matcher' = matcher := Except.ok.inj hmatcher
  rfl

/-- The routes of a router that accept a request. -/
def accepting (r : Router) (method path : String) : List Route :=
  r.routes.filter fun route =>
    route.accepts (normalizeMethod method) (normalizePath path r.basePath)

/-- Of two routers with the same types and base path the answer to a request is the same if the
routes that accept it say the same. -/
theorem Sound.match?_congr {r s : Router} (hr : r.Sound) (hs : s.Sound)
    (htypes : r.types = s.types) (hbase : r.basePath = s.basePath) {method path : String}
    (h : (r.accepting method path).map Route.toRouteDef =
      (s.accepting method path).map Route.toRouteDef) :
    r.match? method path = s.match? method path := by
  have haccepting : r.accepting method path = s.accepting method path := by
    have hrmem : ∀ a ∈ r.accepting method path, a ∈ r.routes := fun a => List.mem_of_mem_filter
    have hsmem : ∀ b ∈ s.accepting method path, b ∈ s.routes := fun b => List.mem_of_mem_filter
    generalize r.accepting method path = as at h hrmem
    generalize s.accepting method path = bs at h hsmem
    induction as generalizing bs with
    | nil => exact (List.map_eq_nil_iff.1 h.symm).symm
    | cons a as ih =>
        obtain ⟨b, bs, rfl, hdef, hdefs⟩ := List.map_eq_cons_iff.1 h.symm
        have hab := hr.eq_of_toRouteDef hs htypes (hrmem a List.mem_cons_self)
          (hsmem b List.mem_cons_self) hdef.symm
        rw [hab]
        congr 1
        apply ih
        · exact fun a ha => hrmem a (List.mem_cons_of_mem _ ha)
        · exact hdefs.symm
        · exact fun b hb => hsmem b (List.mem_cons_of_mem _ hb)
  calc
    r.match? method path = (r.accepting method path).findSome? fun route =>
        route.match? (normalizeMethod method) (normalizePath path r.basePath) :=
      (findSome?_filter_accepts r.routes _ _).symm
    _ = (s.accepting method path).findSome? fun route =>
        route.match? (normalizeMethod method) (normalizePath path s.basePath) := by
      rw [haccepting, hbase]
    _ = s.match? method path := findSome?_filter_accepts s.routes _ _

/-! ## The first match wins -/

/-- Whatever its history, a router answers a request by the route of least index that accepts it.
Routes that are added later, all of them or those before the first one that is refused, do not
change an answer that there is, and routers that differ only in routes that do not accept a request
answer it alike. -/
theorem match?_answers (edits : List Edit) :
    let r := empty.applyAll edits
    (∀ method path answer, r.match? method path = answer ↔
      Answers r.routes (normalizeMethod method) (normalizePath path r.basePath) answer) ∧
    (∀ d s, r.register d = .ok s → Continues r s [d]) ∧
    (∀ ds s, r.addRoutes ds = (s, none) → Continues r s ds) ∧
    (∀ ds s e, r.addRoutes ds = (s, some e) → ∃ earlier d later, ds = earlier ++ d :: later ∧
      s.register d = .error e ∧ Continues r s earlier) ∧
    ∀ others, let s := empty.applyAll others
      r.types = s.types → r.basePath = s.basePath → ∀ method path,
        (r.accepting method path).map Route.toRouteDef =
          (s.accepting method path).map Route.toRouteDef →
        r.match? method path = s.match? method path := by
  intro r
  have hadd (ds : List RouteDef) :
      Continues r (r.addRoutes ds).1 (r.acceptedRoutes ds) := by
    obtain ⟨added, hdefs, hadded⟩ := extends_addRoutes r ds
    exact hdefs ▸ hadded.continues
  refine ⟨?_, ?_, ?_, ?_, ?_⟩
  · intro method path answer
    have hanswers := answers_findSome? r.routes (normalizeMethod method)
      (normalizePath path r.basePath)
    constructor
    · rintro rfl
      exact hanswers
    · exact hanswers.unique
  · intro d s hs
    obtain ⟨route, rfl, hroute⟩ := extends_register hs
    exact hroute.continues
  · intro ds s hs
    have hds := hadd ds
    rwa [hs, acceptedRoutes_eq hs] at hds
  · intro ds s e hs
    obtain ⟨d, later, hsplit, -, herror⟩ := addRoutes_refused hs
    have hds := hadd ds
    rw [hs] at hds
    exact ⟨r.acceptedRoutes ds, d, later, hsplit, herror, hds⟩
  · intro others s htypes hbase method path h
    exact (sound_applyAll edits).match?_congr (sound_applyAll others) htypes hbase h

end Router

end PathRouter
