import PathRouter.Proofs.Pattern.Separable
import PathRouter.Proofs.Router.Generation

/-!
# Round trips

Matching a path and making a path from the answer brings back the normal form of the path, because
the values of a split, the leads and the literal text cover the whole path. Making a path and
matching it brings back the values if the pattern leaves no choice where a value ends.
-/

namespace PathRouter

open Pattern Request

/-! ## From a path to values and back -/

/-- The root was accepted in place of the empty path. -/
def Pattern.Matcher.AcceptedAsEmpty (m : Matcher) (path : String) : Prop :=
  path = "/" ∧ ∃ e, m = .placeholders e ∧ e.params? "/" = none

/-- The path of the route can be made from the values of a match. -/
def Route.Regenerable (types : TypeRegistry) (route : Route) : Prop :=
  (∃ text, route.matcher = .exact text) ∨
    ∃ e segments, route.matcher = .placeholders e ∧ Segment.scan route.pattern = .ok segments ∧
      BuiltIn types segments ∧ NamedApart segments

theorem normalizePath_ne_nil (path base : String) : (normalizePath path base).toList ≠ [] := by
  rw [normalizePath, String.toList_ofList, normalizePathChars, rooted]
  exact List.cons_ne_nil _ _

theorem orRoot_append (base : String) {path : String} (h : path.toList ≠ []) :
    orRoot (base.toList ++ path.toList) = base ++ path := by
  have hne : (base.toList ++ path.toList).isEmpty = false := by
    rw [List.isEmpty_eq_false_iff]
    exact List.append_ne_nil_of_right_ne_nil _ h
  rw [orRoot, hne, if_neg Bool.false_ne_true, String.ofList_append, String.ofList_toList,
    String.ofList_toList]

/-- A path without special characters loses the base path in front of it. -/
theorem normalizePath_append {base path : String}
    (hplain : Plain (base ++ path).toList) (hrooted : Rooted path.toList) (hpath : path ≠ "") :
    normalizePath (base ++ path) base = path := by
  have hne : base ++ path ≠ "" := by
    intro h
    exact hpath (String.append_eq_empty_iff.1 h).2
  have hspelling : Spelling (base.toList ++ path.toList) (base ++ path).toList := by
    rw [← String.toList_append]
    exact .refl hplain
  calc
    normalizePath (base ++ path) base = normalizePath (orRoot (base ++ path).toList) base := by
      rw [orRoot_toList hne]
    _ = orRoot path.toList := normalizePath_orRoot hspelling hrooted
    _ = path := orRoot_toList hpath

namespace Router
variable {r : Router}

/-- The route behind an answer. -/
theorem Sound.exists_route (hr : r.Sound) {method path : String} {answer : RouteMatch}
    (h : r.match? method path = some answer) {name : String} (hname : answer.name = some name) :
    ∃ route ∈ r.routes, r.namedRoute? name = some route ∧ route.name = some name ∧
      route.match? (normalizeMethod method) (normalizePath path r.basePath) = some answer ∧
      route.matcher.params? (normalizePath path r.basePath) = some answer.params := by
  obtain ⟨route, hroute, hanswer⟩ := List.exists_of_findSome?_eq_some h
  have hanswer' := hanswer
  rw [Route.match?] at hanswer'
  split at hanswer'
  · obtain ⟨params, hparams, rfl⟩ := Option.map_eq_some_iff.1 hanswer'
    exact ⟨route, hroute, hr.namedRoute? hroute hname, hname, hanswer, hparams⟩
  · cases hanswer'

/-- The values of a split make the text that was split. -/
theorem Sound.generate_reported (hr : r.Sound) {route : Route} (hroute : route ∈ r.routes)
    {name : String} (hname : route.name = some name) {segments : List Segment}
    (h : BuiltInPattern r.types route.pattern segments) (hnames : NamedApart segments)
    {text : List Char} {values : Values} (hsplit : Splits r.types segments text values) :
    r.generate name (reported segments values) = .ok (orRoot (r.basePath.toList ++ text)) := by
  rw [hr.generate_eq hroute hname h, expansion_eq hsplit]
  exact givenValues_reported hsplit hnames fun _ _ => rfl

theorem expansion_ofText (values : Dictionary String) (cs : List Char) :
    expansion values (Segment.ofText cs) = cs := by
  cases cs with
  | nil => rfl
  | cons c cs => simp [Segment.ofText, expansion, Segment.expand]

/-- A pattern that is compared as it stands is made as it stands. -/
theorem Sound.generate_exact (hr : r.Sound) {route : Route} (hroute : route ∈ r.routes)
    {name : String} (hname : route.name = some name) {text : String}
    (hmatcher : route.matcher = .exact text) (hnonempty : text.toList ≠ [])
    (given : List (String × String)) : r.generate name given = .ok (r.basePath ++ text) := by
  have hcompile := hr.compile_pattern hroute
  rw [hmatcher] at hcompile
  obtain ⟨-, h⟩ | ⟨-, _, h⟩ | ⟨hstar, hraw, ⟨hbrackets, h⟩ | ⟨-, _, h⟩⟩ := kind_of_compile hcompile
  · cases h
  · cases h
  · obtain rfl := Matcher.exact.inj h
    have hpattern : BuiltInPattern r.types route.pattern (Segment.ofText route.pattern.toList) :=
      ⟨hstar, hraw, Segment.scan_of_not_hasPlaceholders hbrackets, builtIn_ofText _ _⟩
    calc
      r.generate name given = .ok (orRoot (r.basePath.toList ++
          expansion (.ofList given) (Segment.ofText route.pattern.toList))) :=
        hr.generate_eq hroute hname hpattern given
      _ = .ok (r.basePath ++ route.pattern) := by
        rw [expansion_ofText, orRoot_append _ hnonempty]
  · cases h

/-- The pattern of a route with placeholders, and the expression it has. -/
theorem Sound.builtInPattern (hr : r.Sound) {route : Route} (hroute : route ∈ r.routes)
    {e : Expression} (hmatcher : route.matcher = .placeholders e) {segments : List Segment}
    (hscan : Segment.scan route.pattern = .ok segments) (hbuiltIn : BuiltIn r.types segments) :
    BuiltInPattern r.types route.pattern segments ∧ e = patternExpression r.types segments := by
  have hcompile := hr.compile_pattern hroute
  rw [hmatcher] at hcompile
  obtain ⟨-, h⟩ | ⟨-, _, h⟩ | ⟨hstar, hraw, ⟨-, h⟩ | ⟨hbrackets, -⟩⟩ := kind_of_compile hcompile
  · cases h
  · cases h
  · cases h
  · have hpattern : BuiltInPattern r.types route.pattern segments := ⟨hstar, hraw, hscan, hbuiltIn⟩
    refine ⟨hpattern, ?_⟩
    rcases hpattern.matcher_eq hcompile with ⟨h, -⟩ | ⟨-, h⟩
    · rw [hbrackets] at h
      cases h
    · exact Matcher.placeholders.inj h

theorem numbered_regenerable {route : Route}
    (h : (empty.applyAll numbered).namedRoute? "user" = some route) :
    route.Regenerable (empty.applyAll numbered).types := by
  obtain ⟨other, hother, hname, hpattern, -⟩ := numbered_route
  have hr := sound_applyAll numbered
  have hmem := List.mem_of_getElem? hother
  obtain rfl := Option.some.inj ((hr.namedRoute? hmem hname).symm.trans h)
  have hsegments := numbered_builtInPattern hpattern
  rcases hsegments.matcher_eq (hr.compile_pattern hmem) with ⟨hbrackets, -⟩ | ⟨-, hmatcher⟩
  · rw [hpattern] at hbrackets
    exact absurd hbrackets (by decide)
  · exact .inr ⟨_, _, hmatcher, hsegments.scanned, hsegments.builtIn, by decide⟩

/-- The parameters that an expression reports lead back to the path, or to the empty path if that
was accepted. -/
theorem Sound.generate_captured (hr : r.Sound) {route : Route} (hroute : route ∈ r.routes)
    {name : String} (hname : route.name = some name) {segments : List Segment}
    (hpattern : BuiltInPattern r.types route.pattern segments) (hnames : NamedApart segments)
    {path : String} (hpath : path.toList ≠ []) {params : Params}
    (hparams : (Matcher.placeholders (patternExpression r.types segments)).params? path =
      some params) :
    ((Matcher.placeholders (patternExpression r.types segments)).AcceptedAsEmpty path →
      r.generate name params = .ok (orRoot r.basePath.toList)) ∧
    (¬(Matcher.placeholders (patternExpression r.types segments)).AcceptedAsEmpty path →
      r.generate name params = .ok (r.basePath ++ path)) := by
  rw [hpattern.params?_eq] at hparams
  cases hbest : (splits r.types segments path.toList).head? with
  | some values =>
      have hsplit := (head?_splits_eq_some_iff.1 hbest).1
      rw [hbest, Option.map_some, Option.some_or] at hparams
      constructor
      · rintro ⟨rfl, e, he, hnone⟩
        obtain rfl := Matcher.placeholders.inj he
        rw [params?_patternExpression hpattern.builtIn, hbest] at hnone
        cases hnone
      · intro _
        rw [← Option.some.inj hparams, hr.generate_reported hroute hname hpattern hnames hsplit,
          orRoot_append _ hpath]
  | none =>
      rw [hbest, Option.map_none, Option.none_or] at hparams
      split at hparams
      · next hroot =>
          subst hroot
          -- Only the empty path matches here, so its values are reported for the root.
          obtain ⟨values, hempty, hreported⟩ := Option.map_eq_some_iff.1 hparams
          have hsplit := (head?_splits_eq_some_iff.1 hempty).1
          constructor
          · intro _
            rw [← hreported, hr.generate_reported hroute hname hpattern hnames hsplit,
              List.append_nil]
          · intro hnot
            refine absurd ⟨rfl, _, rfl, ?_⟩ hnot
            rw [params?_patternExpression hpattern.builtIn, hbest]
            rfl
      · cases hparams

/-- Making a path from the answer to a request gives the normal form of the path behind the base
path, or the base path alone if the root was accepted in place of the empty path. -/
theorem match_then_generate (edits : List Edit) {method path name : String} {answer : RouteMatch}
    (hmatch : (empty.applyAll edits).match? method path = some answer)
    (hname : answer.name = some name) :
    ∃ route, (empty.applyAll edits).namedRoute? name = some route ∧
      route.match? (normalizeMethod method)
        (normalizePath path (empty.applyAll edits).basePath) = some answer ∧
      (route.Regenerable (empty.applyAll edits).types →
        (route.matcher.AcceptedAsEmpty (normalizePath path (empty.applyAll edits).basePath) →
          (empty.applyAll edits).generate name answer.params =
            .ok (orRoot (empty.applyAll edits).basePath.toList)) ∧
        (¬route.matcher.AcceptedAsEmpty (normalizePath path (empty.applyAll edits).basePath) →
          (empty.applyAll edits).generate name answer.params =
            .ok ((empty.applyAll edits).basePath ++
              normalizePath path (empty.applyAll edits).basePath))) := by
  have hr := sound_applyAll edits
  generalize empty.applyAll edits = r at *
  obtain ⟨route, hroute, hnamed, hname, hanswer, hparams⟩ := hr.exists_route hmatch hname
  have hpath := normalizePath_ne_nil path r.basePath
  generalize normalizePath path r.basePath = path at *
  refine ⟨route, hnamed, hanswer, ?_⟩
  rintro (⟨text, hmatcher⟩ | ⟨e, segments, hmatcher, hscan, hbuiltIn, hnames⟩)
  · rw [hmatcher] at hparams ⊢
    have htext : text = path := by
      rw [Matcher.params?] at hparams
      split at hparams
      · assumption
      · cases hparams
    subst htext
    constructor
    · rintro ⟨-, e, he, -⟩
      cases he
    · intro _
      exact hr.generate_exact hroute hname hmatcher hpath answer.params
  · obtain ⟨hpattern, rfl⟩ := hr.builtInPattern hroute hmatcher hscan hbuiltIn
    rw [hmatcher] at hparams ⊢
    exact hr.generate_captured hroute hname hpattern hnames hpath hparams

/-- The parameters of the answer to `/app/users/72` lead back to that path, base path and all. -/
theorem match_then_generate_numbered :
    ∃ answer, (empty.applyAll numbered).match? "get" "/app/users/72" = some answer ∧
      answer.name = some "user" ∧
      (empty.applyAll numbered).generate "user" answer.params = .ok "/app/users/72" := by
  have hpath : normalizePath "/app/users/72" "/app" = "/users/72" :=
    @normalizePath_append "/app" "/users/72" (by decide) (by decide) (by decide)
  have hanswer : ((empty.applyAll numbered).routes.findSome? fun route =>
      route.match? (normalizeMethod "get") "/users/72") =
      some ⟨"show", [("id", "72")], some "user", "/users/[i:id]?"⟩ := by
    decide +kernel
  have hmatch : (empty.applyAll numbered).match? "get" "/app/users/72" =
      some ⟨"show", [("id", "72")], some "user", "/users/[i:id]?"⟩ := by
    rw [match?, numbered_basePath, hpath]
    exact hanswer
  obtain ⟨route, hnamed, -, hback⟩ := match_then_generate numbered hmatch rfl
  rw [numbered_basePath, hpath] at hback
  have hregenerable : route.Regenerable (empty.applyAll numbered).types :=
    numbered_regenerable hnamed
  have hnot : ¬route.matcher.AcceptedAsEmpty "/users/72" := fun h => absurd h.1 (by decide)
  exact ⟨_, hmatch, rfl, (hback hregenerable).2 hnot⟩

end Router

/-! ## From values to a path and back -/

/-- A pattern in which every value is told apart from what follows. -/
structure Pattern.SeparablePattern (types : TypeRegistry) (pattern : String)
    (segments : List Segment) : Prop where
  slash : pattern.toList.head? = some '/'
  brackets : hasPlaceholders pattern = true
  scanned : Segment.scan pattern = .ok segments
  named : NamedApart segments
  separable : Separable types segments
  plain : PlainLiterals segments

namespace Pattern.SeparablePattern
variable {types : TypeRegistry} {pattern : String} {segments : List Segment}

theorem builtInPattern (h : SeparablePattern types pattern segments) :
    BuiltInPattern types pattern segments where
  notStar := by
    rintro rfl
    exact absurd h.slash (by decide)
  notRaw := by
    rw [h.slash]
    decide
  scanned := h.scanned
  builtIn := h.separable.builtIn

theorem head?_splits (h : SeparablePattern types pattern segments) {text : List Char}
    {values : Values} (hsplit : Splits types segments text values) :
    (splits types segments text).head? = some values := by
  cases hhead : (splits types segments text).head? with
  | none =>
      have := isSome_head?_splits.2 ⟨values, hsplit⟩
      rw [hhead] at this
      cases this
  | some others =>
      have hothers := (head?_splits_eq_some_iff.1 hhead).1
      rw [h.separable.unique hothers hsplit]

/-- The matcher of a separable pattern finds the one split there is. -/
theorem params?_eq (h : SeparablePattern types pattern segments) {text : List Char}
    {values : Values} (hsplit : Splits types segments text values) :
    (Matcher.placeholders (patternExpression types segments)).params? (orRoot text) =
      some (reported segments values) := by
  rw [h.builtInPattern.params?_eq]
  cases text with
  | cons c text =>
      have hpath : (orRoot (c :: text)).toList = c :: text := by simp [orRoot]
      rw [hpath, h.head?_splits hsplit]
      rfl
  | nil =>
      have hslash : (Segment.textOf segments).head? = some '/' := by
        rw [Segment.textOf_scan h.scanned, h.slash]
      have hnone : (splits types segments ['/']).head? = none := by
        rw [← Option.not_isSome_iff_eq_none, isSome_head?_splits]
        rintro ⟨others, hothers⟩
        exact h.separable.not_splits_slash hslash hsplit hothers
      have hpath : (orRoot []).toList = ['/'] := rfl
      rw [hpath, hnone, h.head?_splits hsplit]
      rfl

end Pattern.SeparablePattern

namespace Router

/-- A path that was made from a route with a separable pattern brings back the values it was made
from, unless an earlier route answers the request. -/
theorem generate_then_match_separable (edits : List Edit) {i : Nat} {route : Route} {name : String}
    {segments : List Segment} {given : List (String × String)} {method : String}
    (hroute : (empty.applyAll edits).routes[i]? = some route) (hname : route.name = some name)
    (hpattern : SeparablePattern (empty.applyAll edits).types route.pattern segments)
    (hbase : Plain (empty.applyAll edits).basePath.toList)
    (hkeys : ∀ key, (Dictionary.ofList given).contains key = true → key ∈ parameterNames segments)
    (hfits : Fits (empty.applyAll edits).types segments (.ofList given))
    (hplain : ∀ key value, (Dictionary.ofList given).get? key = some value →
      Plain value.toList)
    (hrooted : Rooted (expansion (.ofList given) segments))
    (hmethod : route.acceptsMethod (normalizeMethod method) = true) :
    ∃ url, (empty.applyAll edits).generate name given = .ok url ∧
      ((∀ k earlier, k < i → (empty.applyAll edits).routes[k]? = some earlier →
        earlier.match? (normalizeMethod method)
          (normalizePath url (empty.applyAll edits).basePath) = none) →
        ∃ answer, (empty.applyAll edits).match? method url = some answer ∧
          answer.name = some name ∧ answer.handler = route.handler ∧
          answer.pattern = route.pattern ∧
          answer.params = (Dictionary.ofList given).select (parameterNames segments) ∧
          answer.paramsMap = .ofList given) := by
  have hr := sound_applyAll edits
  generalize empty.applyAll edits = r at *
  have hmem : route ∈ r.routes := List.mem_of_getElem? hroute
  have hwritten : Respelled (.ofList given) (.ofList given) := by
    intro key
    cases hvalue : (Dictionary.ofList given).get? key with
    | none => exact .none
    | some value => exact .some (.refl (hplain key value hvalue))
  obtain ⟨url, hgenerate, hpath⟩ := hr.generate_normalized hmem hname hpattern.builtInPattern hbase
    hpattern.plain hwritten hrooted
  refine ⟨url, hgenerate, fun hearlier => ?_⟩
  have hmatcher : route.matcher = .placeholders (patternExpression r.types segments) := by
    rcases hpattern.builtInPattern.matcher_eq (hr.compile_pattern hmem) with ⟨h, -⟩ | ⟨-, h⟩
    · rw [hpattern.brackets] at h
      cases h
    · exact h
  have hparams := hpattern.params?_eq hfits.splits
  rw [reported_givenValues _ hpattern.named.1, ← hmatcher, ← hpath] at hparams
  have hanswer : route.match? (normalizeMethod method) (normalizePath url r.basePath) =
      some ⟨route.handler, (Dictionary.ofList given).select (parameterNames segments), route.name,
        route.pattern⟩ := by
    rw [Route.match?, if_pos hmethod, hparams, Option.map_some]
  exact ⟨_, match?_of_first hroute hanswer hearlier, hname, rfl, rfl, rfl,
    Dictionary.ofList_select hpattern.named.2 hkeys⟩

/-- The number may be left out together with its slash, and still a path is split in one way only:
so `72` comes back. -/
theorem generate_then_match_separable_numbered :
    ∃ url, (empty.applyAll numbered).generate "user" [("id", "72")] = .ok url ∧
      ∃ answer, (empty.applyAll numbered).match? "get" url = some answer ∧
        answer.name = some "user" ∧ answer.params = [("id", "72")] := by
  obtain ⟨route, hroute, hname, hpattern, hmethod⟩ := numbered_route
  have hseparable : Separable .builtIn numberedSegments :=
    .literal _ (.placeholder "[0-9]+" (by decide) (by decide +kernel) trivial (fun _ => rfl) .nil)
  have hsegments : SeparablePattern .builtIn "/users/[i:id]?" numberedSegments :=
    ⟨by decide, by decide, rfl, by decide, hseparable, by decide⟩
  rw [← numbered_types, ← hpattern] at hsegments
  have hgiven (key : String) : (Dictionary.ofList [("id", "72")]).get? key =
      if key = "id" then some "72" else none := by
    rw [Dictionary.get?_ofList_cons]
    rfl
  have hkeys : ∀ key, (Dictionary.ofList [("id", "72")]).contains key = true →
      key ∈ parameterNames numberedSegments := by
    intro key hkey
    rw [Dictionary.contains, hgiven] at hkey
    split at hkey
    · next h =>
        rw [h]
        decide
    · cases hkey
  have hplain : ∀ key value, (Dictionary.ofList [("id", "72")]).get? key = some value →
      Plain value.toList := by
    intro key value hvalue
    rw [hgiven] at hvalue
    split at hvalue
    · obtain rfl := Option.some.inj hvalue
      decide
    · cases hvalue
  obtain ⟨url, hgenerate, hmatch⟩ := generate_then_match_separable numbered hroute hname hsegments
    (numbered_basePath ▸ by decide) hkeys (numbered_types ▸ by decide +kernel) hplain
    (by decide +kernel) hmethod
  obtain ⟨answer, hanswer, hanswerName, -, -, hparams, -⟩ :=
    hmatch fun k _ hk => absurd hk (Nat.not_lt_zero k)
  exact ⟨url, hgenerate, answer, hanswer, hanswerName, hparams.trans (by decide +kernel)⟩

end Router

end PathRouter
