import PathRouter.Proofs.Router.Expansion
import PathRouter.Proofs.Router.Reachable
import PathRouter.Proofs.Pattern.Tags

/-!
# Last values

Names may be repeated among parameters. Main statement: wherever parameters are looked up, be it one
by one, all at once or to make a path, the last value of a name counts, and to make a path no other
names count than those of the placeholders of its pattern.
-/

namespace PathRouter

open Pattern (Irreversible Params Segment parameterNames)

/-! ## Parameters of a match -/

theorem find?_key_eq_lookup {α : Type} (pairs : List (String × α)) (name : String) :
    (pairs.find? fun pair => pair.1 == name).map (·.2) = pairs.lookup name := by
  induction pairs with
  | nil => rfl
  | cons pair pairs ih =>
      rw [List.find?_cons, List.lookup_cons, Bool.beq_comm (a := name)]
      split
      · rfl
      · exact ih

/-- A parameter has the value that the dictionary of all parameters gives. -/
theorem RouteMatch.param?_eq (m : RouteMatch) (name : String) :
    m.param? name = m.paramsMap.get? name := by
  rw [param?, find?_key_eq_lookup, paramsMap, Dictionary.get?_ofList]

/-! ## Making paths -/

theorem Pattern.Placeholder.value?_congr {values others : Dictionary String}
    {p : Pattern.Placeholder}
    (h : p.isAnonymous = false → values.get? p.name = others.get? p.name) :
    p.value? values = p.value? others := by
  rw [value?, value?]
  split
  · rfl
  · next hp => exact h (Bool.eq_false_iff.2 hp)

/-- What segments become depends on the values of their own names only. -/
theorem expansion_congr {values others : Dictionary String} {segments : List Segment}
    (h : ∀ name ∈ parameterNames segments, values.get? name = others.get? name) :
    expansion values segments = expansion others segments := by
  induction segments with
  | nil => rfl
  | cons segment segments ih =>
      have hfirst : segment.expand values = segment.expand others := by
        cases segment with
        | literal text => rfl
        | placeholder p =>
            have hvalue : p.value? values = p.value? others := by
              apply Pattern.Placeholder.value?_congr
              intro hp
              apply h
              rw [Pattern.parameterNames_of_named hp]
              exact List.mem_cons_self
            rw [Segment.expand, Segment.expand, hvalue]
      have hlater : expansion values segments = expansion others segments := by
        apply ih
        intro name hname
        exact h name (((List.sublist_cons_self segment segments).filterMap _).subset hname)
      calc
        expansion values (segment :: segments) =
            segment.expand values ++ expansion values segments := List.flatMap_cons
        _ = segment.expand others ++ expansion others segments := by rw [hfirst, hlater]
        _ = expansion others (segment :: segments) := List.flatMap_cons.symm

theorem expand_congr {basePath pattern : String} {values others : Dictionary String}
    (h : ∀ segments, Segment.scan pattern = .ok segments →
      ∀ name ∈ parameterNames segments, values.get? name = others.get? name) :
    expand basePath pattern values = expand basePath pattern others := by
  rw [expand, expand]
  cases hscan : Segment.scan pattern with
  | error e => rfl
  | ok segments =>
      have hsame : segments.flatMap (Segment.expand values) =
          segments.flatMap (Segment.expand others) := expansion_congr (h segments hscan)
      exact congrArg (fun text => Except.ok (orRoot (basePath.toList ++ text))) hsame

namespace Router
variable {r : Router} {params others : Params}

/-- Two lists of parameters have the same last values of the names in a pattern, if a path can be
made from the pattern at all. -/
def SameLast (pattern : String) (params others : Params) : Prop :=
  ¬Irreversible pattern → ∀ segments, Segment.scan pattern = .ok segments →
    ∀ name ∈ parameterNames segments, ∀ value, IsLast params name value ↔ IsLast others name value

theorem Sound.generate_congr (hr : r.Sound) {name : String}
    (h : ∀ pattern, r.namedPattern? name = some pattern → SameLast pattern params others) :
    r.generate name params = r.generate name others := by
  rw [generate, generate]
  cases hroute : r.namedRoute? name with
  | none => rfl
  | some route =>
      have hpattern : r.namedPattern? name = some route.pattern := by
        rw [hr.namedPattern?_eq, hroute]
        rfl
      have hcompile := hr.compile_pattern (List.mem_of_find?_eq_some hroute)
      dsimp only
      split
      · next hmatcher =>
          have hreversible : ¬Irreversible route.pattern := by
            intro hirreversible
            have hnot := (Pattern.isReversible_eq_false_iff hcompile).2 hirreversible
            exact Bool.false_ne_true (hnot.symm.trans hmatcher)
          rw [expand_congr]
          intro segments hscan x hx
          apply Option.ext
          intro value
          rw [Dictionary.get?_ofList_eq_some_iff, Dictionary.get?_ofList_eq_some_iff]
          exact h route.pattern hpattern hreversible segments hscan x hx value
      · rfl

/-- The values of a match, in whatever order their dictionary is run through, make the path that
its parameters make. -/
theorem generate_paramsMap (m : RouteMatch) (name : String)
    (h : params.Perm m.paramsMap.entries) : r.generate name params = r.generate name m.params := by
  have hvalues : Dictionary.ofList params = Dictionary.ofList m.params :=
    Dictionary.ofList_perm h
  rw [generate, generate, hvalues]

/-- A parameter of a match has the last of its values, and so it has in the dictionary of all
parameters. A path that is made depends on the last values of the names in the pattern only, be
there other names or earlier values, in whatever order; and it does not matter whether it is made
from the parameters of a match or from their dictionary. -/
theorem generate_last_values (edits : List Edit) (name : String) :
    let r := empty.applyAll edits
    (∀ (m : RouteMatch) (x : String), m.param? x = m.paramsMap.get? x ∧
      (∀ value, m.param? x = some value ↔ IsLast m.params x value) ∧
      (m.param? x = none ↔ x ∉ m.params.map (·.1))) ∧
    (∀ params others, (∀ pattern, r.namedPattern? name = some pattern →
        SameLast pattern params others) →
      r.generate name params = r.generate name others) ∧
    ∀ (m : RouteMatch) (params : Params), params.Perm m.paramsMap.entries →
      r.generate name params = r.generate name m.params := by
  intro r
  refine ⟨fun m x => ⟨m.param?_eq x, fun value => ?_, ?_⟩, fun params others h => ?_,
    fun m params h => generate_paramsMap m name h⟩
  · rw [m.param?_eq, RouteMatch.paramsMap, Dictionary.get?_ofList_eq_some_iff]
  · rw [m.param?_eq, RouteMatch.paramsMap, Dictionary.get?_ofList_eq_none_iff]
  · exact (sound_applyAll edits).generate_congr h

/-- A name that is not in the pattern and an earlier value make no difference, and placeholders
that stand in values are not replaced. -/
theorem generate_last_values_brackets :
    let r := empty.applyAll [.register ⟨"GET", "/[:a]/[:b]", "show", some "pair"⟩]
    let params := [("x", "1"), ("a", "old"), ("b", "[:a]"), ("a", "[:b]")]
    let others := [("a", "[:b]"), ("b", "[:a]")]
    (∀ pattern, r.namedPattern? "pair" = some pattern → SameLast pattern params others) ∧
      r.generate "pair" params = r.generate "pair" others ∧
      r.generate "pair" others = .ok "/[:b]/[:a]" := by
  intro r params others
  have hpattern : r.namedPattern? "pair" = some "/[:a]/[:b]" := by decide +kernel
  have hnames : (Segment.scan "/[:a]/[:b]").toOption.any (fun segments =>
      parameterNames segments == ["a", "b"]) = true := by decide
  have hsame : ∀ pattern, r.namedPattern? "pair" = some pattern →
      SameLast pattern params others := by
    intro pattern h _ segments hscan name hname value
    obtain rfl := Option.some.inj (hpattern.symm.trans h)
    obtain ⟨found, hfound, hnames⟩ := exists_ok_of_any hnames
    obtain rfl := Except.ok.inj (hscan.symm.trans hfound)
    rw [beq_iff_eq.1 hnames] at hname
    have hvalues : ∀ name ∈ ["a", "b"],
        (Dictionary.ofList params).get? name = (Dictionary.ofList others).get? name := by
      decide
    rw [← Dictionary.get?_ofList_eq_some_iff, ← Dictionary.get?_ofList_eq_some_iff,
      hvalues name hname]
  have hmade := (generate_last_values [.register ⟨"GET", "/[:a]/[:b]", "show", some "pair"⟩]
    "pair").2.1 params others hsame
  have hpath : r.generate "pair" others = .ok "/[:b]/[:a]" := by decide +kernel
  exact ⟨hsame, hmade, hpath⟩

end Router

end PathRouter
