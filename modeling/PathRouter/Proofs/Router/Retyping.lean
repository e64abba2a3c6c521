import PathRouter.Proofs.Pattern.Tags
import PathRouter.Proofs.Router.Reachable

/-!
# Adding types of placeholders

When types are added all routes are compiled anew. Main statement: only the routes that use one of
the tags get another matcher, and of the same kind, while nothing else about any route changes. If
the addition is refused, the router stays as it was, and the first route in whose expression one of
the added types makes a fault is named.
-/

namespace PathRouter.Router

open Pattern (tags)

/-- What becomes of a route when types with some tags are added. -/
structure Retyped (added : List String) (old new : Route) : Prop where
  /-- Method, pattern, handler and name. -/
  toRouteDef_eq : new.toRouteDef = old.toRouteDef
  methods_eq : new.methods = old.methods
  kind_eq : new.matcher.kind = old.matcher.kind
  /-- Only a route that uses one of the tags gets another matcher. -/
  matcher_eq : (∀ tag ∈ tags old.pattern, tag ∉ added) → new.matcher = old.matcher
  /-- Only a route with placeholders gets another matcher. -/
  matcher_eq_of_fixed : (∀ e, old.matcher ≠ .placeholders e) → new.matcher = old.matcher

/-- What becomes of a router when types are added. -/
structure Retypes (r : Router) (types : List (String × String)) (s : Router) : Prop where
  routes : List.Forall₂ (Retyped (types.map (·.1))) r.routes s.routes
  named : s.named = r.named
  basePath : s.basePath = r.basePath
  types : s.types = r.types.extend types

/-- The refusal names the first route in the table that does not compile with the added types. One
of them is used by this route, and the fault is in its expression, not in its brackets. -/
def Blames (r : Router) (types : List (String × String)) (e : RouteError) : Prop :=
  ∃ earlier route later cause, r.routes = earlier ++ route :: later ∧
    (∀ other ∈ earlier, ∃ m, Pattern.compile (r.types.extend types) other.pattern = .ok m) ∧
    Pattern.compile (r.types.extend types) route.pattern = .error (.expression cause) ∧
    (∃ tag ∈ tags route.pattern, tag ∈ types.map (·.1)) ∧
    e = .invalidPattern route.pattern (.expression cause)

/-! ## Accepted types -/

/-- A matcher that is not for placeholders belongs to a pattern without tags. -/
theorem tags_eq_nil_of_compile {registry : Pattern.TypeRegistry} {pattern : String}
    {m : Pattern.Matcher} (h : Pattern.compile registry pattern = .ok m)
    (hfixed : ∀ e, m ≠ .placeholders e) : tags pattern = [] := by
  rcases Pattern.kind_of_compile h with ⟨hstar, -⟩ | ⟨hraw, -⟩ | ⟨-, -, ⟨hbrackets, -⟩ | ⟨-, e, hm⟩⟩
  · exact Pattern.tags_of_irreversible (.inl hstar)
  · exact Pattern.tags_of_irreversible (.inr hraw)
  · exact Pattern.tags_of_not_hasPlaceholders hbrackets
  · exact absurd hm (hfixed e)

/-- A route that is compiled anew with some more types. -/
theorem Renewed.retyped {registry : Pattern.TypeRegistry} {types : List (String × String)}
    {old new : Route} (hold : Pattern.compile registry old.pattern = .ok old.matcher)
    (h : Renewed (registry.extend types) old new) : Retyped (types.map (·.1)) old new := by
  have hpattern : new.pattern = old.pattern := congrArg RouteDef.pattern h.toRouteDef_eq
  have hnew : Pattern.compile (registry.extend types) old.pattern = .ok new.matcher :=
    hpattern ▸ mapError_eq_ok_iff.1 h.compiled
  have hunused (hunused : ∀ tag ∈ tags old.pattern, tag ∉ types.map (·.1)) :
      new.matcher = old.matcher := by
    rw [Pattern.compile_extend hunused, hold] at hnew
    exact (Except.ok.inj hnew).symm
  constructor
  · exact h.toRouteDef_eq
  · rw [h.same]
  · rw [Pattern.kind_eq_kindOf hnew, Pattern.kind_eq_kindOf hold]
  · exact hunused
  · intro hfixed
    apply hunused
    rw [tags_eq_nil_of_compile hold hfixed]
    exact List.forall_mem_nil _

theorem Sound.retypes {r s : Router} (hr : r.Sound) {types : List (String × String)}
    (h : r.addMatchTypes types = .ok s) : Retypes r types s := by
  obtain ⟨hroutes, hs⟩ := addMatchTypes_eq_ok h
  have hcompiled := (List.forall₂_and_left _ _).2
    ⟨fun old hold => hr.compile_pattern hold, hroutes⟩
  constructor
  · apply hcompiled.imp
    intro old new ⟨hold, hrenewed⟩
    exact hrenewed.retyped hold
  · rw [hs]
  · rw [hs]
  · rw [hs]

/-! ## Refused types -/

/-- Adding types is refused for the first pattern that does not compile with them. -/
theorem addMatchTypes_eq_error_iff {r : Router} {types : List (String × String)} {e : RouteError} :
    r.addMatchTypes types = .error e ↔ ∃ earlier route later cause,
      r.routes = earlier ++ route :: later ∧
      (∀ other ∈ earlier, ∃ m, Pattern.compile (r.types.extend types) other.pattern = .ok m) ∧
      Pattern.compile (r.types.extend types) route.pattern = .error cause ∧
      e = .invalidPattern route.pattern cause := by
  have hmapM : r.addMatchTypes types = .error e ↔
      r.routes.mapM (fun route => compilePattern (r.types.extend types) route.pattern) =
        .error e := by
    rw [Router.addMatchTypes, bind_pure_eq_error_iff]
  rw [hmapM, mapM_eq_error_iff]
  simp only [compilePattern, mapError_eq_ok_iff, mapError_eq_error_iff]
  constructor
  · rintro ⟨earlier, route, later, hroutes, hearlier, cause, hfault, rfl⟩
    exact ⟨earlier, route, later, cause, hroutes, hearlier, hfault, rfl⟩
  · rintro ⟨earlier, route, later, cause, hroutes, hearlier, hfault, rfl⟩
    exact ⟨earlier, route, later, hroutes, hearlier, cause, hfault, rfl⟩

theorem Sound.addMatchTypes_eq_error_iff {r : Router} (hr : r.Sound)
    {types : List (String × String)} {e : RouteError} :
    r.addMatchTypes types = .error e ↔ Blames r types e := by
  rw [Router.addMatchTypes_eq_error_iff]
  constructor
  · rintro ⟨earlier, route, later, cause, hroutes, hearlier, hfault, rfl⟩
    have hmem : route ∈ r.routes := by
      rw [hroutes]
      exact List.mem_append_cons_self
    have hcompiled := hr.compile_pattern hmem
    obtain ⟨fault, rfl⟩ := Pattern.exists_expression_of_compile_error hcompiled hfault
    refine ⟨earlier, route, later, fault, hroutes, hearlier, hfault, ?_, rfl⟩
    by_contra hunused
    simp only [not_exists, not_and] at hunused
    rw [Pattern.compile_extend hunused, hcompiled] at hfault
    cases hfault
  · rintro ⟨earlier, route, later, cause, hroutes, hearlier, hfault, -, rfl⟩
    exact ⟨earlier, route, later, _, hroutes, hearlier, hfault, rfl⟩

/-- Whatever its history, a router to which types are added keeps its routes with all they say, its
index and its base path, and a route that uses none of the tags keeps its matcher. The addition is
refused exactly if an added type makes a fault in the expression of a route that uses it; the first
such route is named and the router stays as it was. -/
theorem addMatchTypes_retypes (edits : List Edit) (types : List (String × String)) :
    let r := empty.applyAll edits
    (∀ s, r.apply (.addMatchTypes types) = (s, none) → Retypes r types s) ∧
    (∀ e, (r.apply (.addMatchTypes types)).2 = some e ↔ Blames r types e) ∧
    ∀ e, (r.apply (.addMatchTypes types)).2 = some e → (r.apply (.addMatchTypes types)).1 = r := by
  intro r
  have hr : r.Sound := sound_applyAll edits
  rw [apply]
  cases hadd : r.addMatchTypes types with
  | ok s =>
      refine ⟨?_, ?_, nofun⟩
      · rintro _ hs
        obtain ⟨rfl, -⟩ := Prod.mk.inj hs
        exact hr.retypes hadd
      · intro e
        rw [← hr.addMatchTypes_eq_error_iff, hadd]
        exact iff_of_false nofun nofun
  | error cause =>
      refine ⟨?_, ?_, fun _ _ => rfl⟩
      · intro s hs
        cases (Prod.mk.inj hs).2
      · intro e
        rw [← hr.addMatchTypes_eq_error_iff, hadd]
        exact ⟨fun h => congrArg Except.error (Option.some.inj h),
          fun h => congrArg some (Except.error.inj h)⟩

/-- A tag that stood for itself gets a type: of two routes, the one that uses it gets another
matcher. -/
example :
    let r := empty.applyAll [.register ⟨"GET", "/[i:id]", "user", none⟩,
      .register ⟨"GET", "/[en|fr:lang]", "home", some "home"⟩]
    let s := (r.apply (.addMatchTypes [("en|fr", "de")])).1
    s.routes.zipWith (fun new old => decide (new.matcher = old.matcher)) r.routes =
      [true, false] := by
  decide +kernel

end PathRouter.Router
