import PathRouter.Proofs.Pattern.Tags
import PathRouter.Proofs.Router.WellFormed

/-!
# Names from which paths are made

A path is made from every name that the index holds, unless its pattern is the star or an expression
behind an at sign. Main statement: nothing else is ever refused, whatever values are given and
whatever the router has gone through, for the brackets of every pattern that compiled are in order.
-/

namespace PathRouter

open Pattern (Irreversible Segment)

/-- A path begins with what was put in front. -/
theorem toList_orRoot_prefix (front behind : List Char) :
    front <+: (orRoot (front ++ behind)).toList := by
  rw [orRoot]
  split
  · next hempty =>
      rw [(List.append_eq_nil_iff.1 (List.isEmpty_iff.1 hempty)).1]
      exact List.nil_prefix
  · rw [String.toList_ofList]
    exact List.prefix_append front behind

theorem orRoot_ne_empty (path : List Char) : orRoot path ≠ "" := by
  rw [orRoot]
  split
  · decide
  · next hne =>
      intro heq
      apply hne
      rw [← String.toList_ofList (l := path), heq]
      rfl

namespace Router
variable {r : Router}

/-- A pattern that can be scanned is always expanded. -/
theorem expand_of_scan {pattern : String} {segments : List Segment}
    (hscan : Segment.scan pattern = .ok segments) (basePath : String)
    (values : Dictionary String) :
    ∃ path, expand basePath pattern values = .ok path ∧ path ≠ "" ∧
      basePath.toList <+: path.toList := by
  let path := basePath.toList ++ segments.flatMap (Segment.expand values)
  refine ⟨orRoot path, ?_, orRoot_ne_empty path, toList_orRoot_prefix _ _⟩
  rw [expand, hscan]
  rfl

theorem Sound.generate_of_unknown (hr : r.Sound) {name : String}
    (h : r.namedPattern? name = none) (params : List (String × String)) :
    r.generate name params = .error (.unknownName name) := by
  rw [hr.namedPattern?_eq, Option.map_eq_none_iff] at h
  rw [generate, h]

/-- A name in the index leads to a route with the pattern that the index holds, compiled as it would
be compiled now. -/
theorem Sound.exists_namedRoute? (hr : r.Sound) {name pattern : String}
    (h : r.namedPattern? name = some pattern) :
    ∃ route, r.namedRoute? name = some route ∧ route.pattern = pattern ∧
      Pattern.compile r.types pattern = .ok route.matcher := by
  rw [hr.namedPattern?_eq] at h
  obtain ⟨route, hroute, rfl⟩ := Option.map_eq_some_iff.1 h
  exact ⟨route, hroute, rfl, hr.compile_pattern (List.mem_of_find?_eq_some hroute)⟩

theorem Sound.generate_of_irreversible (hr : r.Sound) {name pattern : String}
    (h : r.namedPattern? name = some pattern) (hirreversible : Irreversible pattern)
    (params : List (String × String)) :
    r.generate name params = .error (.notReversible name) := by
  obtain ⟨route, hroute, -, hcompile⟩ := hr.exists_namedRoute? h
  have hmatcher := (Pattern.isReversible_eq_false_iff hcompile).2 hirreversible
  rw [generate, hroute]
  exact if_neg (Bool.eq_false_iff.1 hmatcher)

theorem Sound.generate_of_reversible (hr : r.Sound) {name pattern : String}
    (h : r.namedPattern? name = some pattern) (hreversible : ¬Irreversible pattern)
    (params : List (String × String)) :
    ∃ path, r.generate name params = .ok path ∧ path ≠ "" ∧
      r.basePath.toList <+: path.toList := by
  obtain ⟨route, hroute, hpattern, hcompile⟩ := hr.exists_namedRoute? h
  have hmatcher : route.matcher.isReversible = true := by
    rw [← Bool.not_eq_false]
    exact mt (Pattern.isReversible_eq_false_iff hcompile).1 hreversible
  obtain ⟨segments, hscan⟩ := Pattern.exists_scan_of_compile hcompile hreversible
  obtain ⟨path, hpath, hmade⟩ := expand_of_scan hscan r.basePath (.ofList params)
  refine ⟨path, ?_, hmade⟩
  rw [generate, hroute]
  change (if route.matcher.isReversible then _ else _) = _
  rw [hmatcher, if_pos rfl, hpattern, hpath]
  rfl

/-- The two reasons for which no path is made. -/
theorem Sound.generate_eq_error_iff (hr : r.Sound) {name : String}
    {params : List (String × String)} {e : RouteError} :
    r.generate name params = .error e ↔
      (e = .unknownName name ∧ r.namedPattern? name = none) ∨
      (e = .notReversible name ∧
        ∃ pattern, r.namedPattern? name = some pattern ∧ Irreversible pattern) := by
  constructor
  · intro h
    cases hpattern : r.namedPattern? name with
    | none =>
        rw [hr.generate_of_unknown hpattern] at h
        exact .inl ⟨(Except.error.inj h).symm, rfl⟩
    | some pattern =>
        by_cases hirreversible : Irreversible pattern
        · rw [hr.generate_of_irreversible hpattern hirreversible] at h
          exact .inr ⟨(Except.error.inj h).symm, pattern, rfl, hirreversible⟩
        · obtain ⟨path, hpath, -⟩ := hr.generate_of_reversible hpattern hirreversible params
          cases h.symm.trans hpath
  · rintro (⟨rfl, hnone⟩ | ⟨rfl, pattern, hpattern, hirreversible⟩)
    · exact hr.generate_of_unknown hnone params
    · exact hr.generate_of_irreversible hpattern hirreversible params

/-- Whatever its history, a router refuses to make a path from a name only if no route has the name
or its pattern is the star or an expression behind an at sign. From every other name a path is made,
whatever the values are; it is never empty and begins with the base path. -/
theorem generate_refusals (edits : List Edit) (name : String) (params : List (String × String)) :
    let r := empty.applyAll edits
    (∀ e, r.generate name params = .error e ↔
      (e = .unknownName name ∧ r.namedPattern? name = none) ∨
      (e = .notReversible name ∧
        ∃ pattern, r.namedPattern? name = some pattern ∧ Irreversible pattern)) ∧
    (∀ pattern, r.namedPattern? name = some pattern → ¬Irreversible pattern →
      ∃ path, r.generate name params = .ok path ∧ path ≠ "" ∧
        r.basePath.toList <+: path.toList) ∧
    ∀ pattern cause, r.generate name params ≠ .error (.invalidPattern pattern cause) := by
  intro r
  have hr : r.Sound := sound_applyAll edits
  refine ⟨fun e => hr.generate_eq_error_iff, ?_, ?_⟩
  · intro pattern hpattern hreversible
    exact hr.generate_of_reversible hpattern hreversible params
  · intro pattern cause h
    rcases hr.generate_eq_error_iff.1 h with ⟨herror, -⟩ | ⟨herror, -⟩
    · cases herror
    · cases herror

end Router

end PathRouter
