import PathRouter.Proofs.Router.History

/-!
# Well-formed routers

What holds of a router whatever its history: names lead to one route each and the index agrees with
the routes, all routes are compiled as they would be compiled now, the base path is in the form
that requests are compared with, and no built-in tag has been lost.
-/

namespace PathRouter

open Pattern (TypeRegistry)

/-- Nothing, or a slash and a text with no slash at either end. -/
def Request.IsBasePath (path : String) : Prop :=
  path = "" ∨ ∃ text, path.toList = '/' :: text ∧ text ≠ [] ∧ text.head? ≠ some '/' ∧
    text.getLast? ≠ some '/'

theorem Request.isBasePath_normalizeBasePath (path : String) :
    IsBasePath (normalizeBasePath path) := by
  unfold normalizeBasePath
  split
  · exact .inl rfl
  · next c cs htrim =>
      refine .inr ⟨c :: cs, String.toList_ofList, List.cons_ne_nil c cs, ?_, ?_⟩
      · intro hhead
        rw [← htrim] at hhead
        exact absurd (Text.neg_of_head?_trim hhead) (by decide)
      · intro hlast
        rw [← htrim] at hlast
        exact absurd (Text.neg_of_getLast?_trim hlast) (by decide)

/-- A registry does not lose a tag by being extended. -/
theorem Pattern.TypeRegistry.isSome_get?_extend {types : TypeRegistry} {tag : String}
    (h : (types.get? tag).isSome = true) (more : List (String × String)) :
    ((types.extend more).get? tag).isSome = true := by
  have hget : (types.extend more).get? tag = (more.reverse.lookup tag).or (types.get? tag) :=
    Dictionary.get?_insertAll types.types more tag
  rw [hget, Option.isSome_or, h, Bool.or_true]

namespace Router

/-- What holds of every router that changes lead to. -/
structure WellFormed (r : Router) : Prop where
  /-- No two routes have one name. -/
  distinct : r.routes.Pairwise fun a b => ∀ name, a.name = some name → b.name ≠ some name
  /-- The index holds the names of the routes and no others. -/
  indexed : ∀ name pattern, r.named.get? name = some pattern ↔
    ∃ route ∈ r.routes, route.name = some name ∧ route.pattern = pattern
  matchers : ∀ route ∈ r.routes, Pattern.compile r.types route.pattern = .ok route.matcher
  methods : ∀ route ∈ r.routes, compileMethods route.method = .ok route.methods
  basePath : Request.IsBasePath r.basePath
  builtIns : ∀ tag ∈ TypeRegistry.builtInTypes.map (·.1), (r.types.get? tag).isSome = true

theorem Sound.pairwise_name {r : Router} (hr : r.Sound) :
    r.routes.Pairwise fun a b => ∀ name, a.name = some name → b.name ≠ some name := by
  have hdistinct := hr.distinct
  rw [defs, List.filterMap_map, List.Nodup, List.pairwise_filterMap] at hdistinct
  apply hdistinct.imp
  intro a b hne name ha hb
  exact hne name ha name hb rfl

/-- The index gives a name the pattern of the one route that has it. -/
theorem Sound.get?_named_iff {r : Router} (hr : r.Sound) {name pattern : String} :
    r.named.get? name = some pattern ↔
      ∃ route ∈ r.routes, route.name = some name ∧ route.pattern = pattern := by
  have hindexed : r.named.get? name = (r.namedRoute? name).map (·.pattern) :=
    hr.namedPattern?_eq name
  rw [hindexed, Option.map_eq_some_iff]
  constructor
  · rintro ⟨route, hroute, hpattern⟩
    have hname := List.find?_some hroute
    exact ⟨route, List.mem_of_find?_eq_some hroute, beq_iff_eq.1 hname, hpattern⟩
  · rintro ⟨route, hmem, hname, hpattern⟩
    exact ⟨route, hr.namedRoute? hmem hname, hpattern⟩

/-- A router has the base path that was set last. -/
theorem Receives.isBasePath {c : Contribution} {r : Router} (h : Receives empty c r) :
    Request.IsBasePath r.basePath := by
  rw [h.basePath]
  cases c.basePath with
  | none => exact .inl rfl
  | some path => exact Request.isBasePath_normalizeBasePath path

/-- Built-in tags may get another expression but stay in the registry. -/
theorem Receives.isSome_get? {c : Contribution} {r : Router} (h : Receives empty c r)
    {tag : String} (htag : tag ∈ TypeRegistry.builtInTypes.map (·.1)) :
    (r.types.get? tag).isSome = true := by
  have hbuiltIn : ∀ tag ∈ TypeRegistry.builtInTypes.map (·.1),
      (TypeRegistry.builtIn.get? tag).isSome = true := by decide
  rw [h.types]
  exact TypeRegistry.isSome_get?_extend (hbuiltIn tag htag) c.matchTypes

/-- Whatever its history, a router is well-formed. -/
theorem wellFormed_applyAll (edits : List Edit) : (empty.applyAll edits).WellFormed where
  distinct := (sound_applyAll edits).pairwise_name
  indexed _ _ := (sound_applyAll edits).get?_named_iff
  matchers _ hroute := (sound_applyAll edits).compile_pattern hroute
  methods := (sound_applyAll edits).methods
  basePath := (receives_applyAll empty edits).isBasePath
  builtIns _ htag := (receives_applyAll empty edits).isSome_get? htag

end Router

end PathRouter
