import PathRouter.Proofs.Pattern.Exact
import PathRouter.Proofs.Router.Expansion
import PathRouter.Proofs.Router.Reachable

/-!
# Made paths are matched

The path that is made from a named route is accepted by that route, in whatever spelling the values
were given: what is cut off, decoded and taken away from a request path brings back the text that
the pattern became.
-/

namespace PathRouter

open Pattern Request

/-! ## Normal forms of made paths -/

theorem Request.Spelling.eq_nil {text : List Char} (h : Spelling text []) : text = [] := by
  generalize hspelled : ([] : List Char) = spelled at h
  cases h with
  | nil => rfl
  | plain _ _ => cases hspelled
  | @escaped c escapes text spelled hescapes _ =>
      have hnil := (List.append_eq_nil_iff.1 hspelled.symm).1
      subst hnil
      generalize hoctets : String.utf8EncodeChar c = octets at hescapes
      cases hescapes
      exact absurd hoctets String.utf8EncodeChar_ne_nil

theorem ofList_rooted {path : List Char} (h : Rooted path) :
    String.ofList (rooted path) = orRoot path := by
  rcases h with rfl | ⟨rest, rfl, hrest⟩
  · rfl
  · cases rest with
    | nil => rfl
    | cons c rest =>
        have hc : (c == '/') = false := beq_false_of_ne fun h => hrest (congrArg some h)
        simp [rooted, orRoot, hc]

/-- A path that was made under a base path has the normal form that the path has without it. -/
theorem normalizePath_orRoot {base : String} {path spelled : List Char}
    (h : Spelling (base.toList ++ path) spelled) (hpath : Rooted path) :
    normalizePath (orRoot spelled) base = orRoot path := by
  rw [normalizePath, ← ofList_rooted hpath, orRoot]
  split
  · next hempty =>
      rw [List.isEmpty_iff.1 hempty] at h
      obtain ⟨hbase, rfl⟩ := List.append_eq_nil_iff.1 h.eq_nil
      have hslash : Spelling ([] ++ ['/']) ['/'] := Spelling.refl (by decide)
      have hroot : Rooted ['/'] := .inr ⟨[], rfl, nofun⟩
      have hnormal := normalizePathChars_spelling hslash hroot
      rw [hbase]
      exact congrArg String.ofList hnormal
  · rw [String.toList_ofList, normalizePathChars_spelling h hpath]

/-! ## Accepting what was made -/

theorem orRoot_toList {text : String} (h : text ≠ "") : orRoot text.toList = text := by
  have hne : text.toList.isEmpty = false := by
    rw [List.isEmpty_eq_false_iff]
    intro hnil
    exact h (String.toList_injective hnil)
  rw [orRoot, hne, if_neg Bool.false_ne_true, String.ofList_toList]

namespace Pattern.BuiltInPattern
variable {types : TypeRegistry} {pattern : String} {segments : List Segment}

theorem segments_eq (h : BuiltInPattern types pattern segments)
    (hbrackets : hasPlaceholders pattern = false) : segments = Segment.ofText pattern.toList :=
  Except.ok.inj (h.scanned.symm.trans (Segment.scan_of_not_hasPlaceholders hbrackets))

/-- A matcher accepts what can be split along the segments of its pattern. -/
theorem isSome_params? (h : BuiltInPattern types pattern segments) (hpattern : pattern ≠ "")
    {m : Matcher} (hm : compile types pattern = .ok m) {text : List Char} {values : Values}
    (hsplit : Splits types segments text values) : (m.params? (orRoot text)).isSome = true := by
  rcases h.matcher_eq hm with ⟨hbrackets, rfl⟩ | ⟨-, rfl⟩
  · rw [h.segments_eq hbrackets] at hsplit
    rw [hsplit.eq_of_ofText, orRoot_toList hpattern, Matcher.params?, if_pos rfl]
    rfl
  · rw [h.params?_eq, Option.isSome_or, Option.isSome_map, Bool.or_eq_true]
    have hhead := isSome_head?_splits.2 ⟨values, hsplit⟩
    cases text with
    | nil =>
        right
        simpa [orRoot] using hhead
    | cons c text =>
        left
        simpa [orRoot] using hhead

end Pattern.BuiltInPattern

/-! ## The first route that accepts a request -/

/-- Of several elements with an answer the first one counts. -/
theorem findSome?_of_getElem? {α β : Type} {f : α → Option β} {as : List α} {i : Nat} {a : α}
    (h : as[i]? = some a) (ha : (f a).isSome = true) :
    ∃ j b answer, j ≤ i ∧ as[j]? = some b ∧ f b = some answer ∧ as.findSome? f = some answer ∧
      ∀ k c, k < j → as[k]? = some c → f c = none := by
  have hsome : (as.findSome? f).isSome = true := by
    rw [List.findSome?_isSome_iff]
    exact ⟨a, List.mem_of_getElem? h, ha⟩
  obtain ⟨answer, hfind⟩ := Option.isSome_iff_exists.1 hsome
  obtain ⟨before, b, after, rfl, hb, hnone⟩ := List.findSome?_eq_some_iff.1 hfind
  have hfirst : (before ++ b :: after)[before.length]? = some b := by
    rw [List.getElem?_append_right (Nat.le_refl _), Nat.sub_self, List.getElem?_cons_zero]
  refine ⟨before.length, b, answer, ?_, hfirst, hb, hfind, ?_⟩
  · apply Nat.le_of_not_lt
    intro hlt
    rw [List.getElem?_append_left hlt] at h
    rw [hnone a (List.mem_of_getElem? h)] at ha
    cases ha
  · intro k c hk hc
    rw [List.getElem?_append_left hk] at hc
    exact hnone c (List.mem_of_getElem? hc)

namespace Router

/-- A request that some route accepts is answered by the first one that does. -/
theorem match?_of_accepting {r : Router} {i : Nat} {route : Route}
    (hroute : r.routes[i]? = some route) {method path : String}
    (h : (route.match? (normalizeMethod method) (normalizePath path r.basePath)).isSome = true) :
    ∃ j first answer, j ≤ i ∧ r.routes[j]? = some first ∧
      first.match? (normalizeMethod method) (normalizePath path r.basePath) = some answer ∧
      r.match? method path = some answer ∧
      ∀ k earlier, k < j → r.routes[k]? = some earlier →
        earlier.match? (normalizeMethod method) (normalizePath path r.basePath) = none :=
  findSome?_of_getElem? (f := fun route : Route =>
    route.match? (normalizeMethod method) (normalizePath path r.basePath)) hroute h

/-- The answer of a route that no route before it pre-empts. -/
theorem match?_of_first {r : Router} {i : Nat} {route : Route}
    (hroute : r.routes[i]? = some route) {method path : String} {answer : RouteMatch}
    (h : route.match? (normalizeMethod method) (normalizePath path r.basePath) = some answer)
    (hearlier : ∀ k earlier, k < i → r.routes[k]? = some earlier →
      earlier.match? (normalizeMethod method) (normalizePath path r.basePath) = none) :
    r.match? method path = some answer := by
  have hmatch : (route.match? (normalizeMethod method) (normalizePath path r.basePath)).isSome =
      true := by
    rw [h, Option.isSome_some]
  obtain ⟨j, first, other, hj, hfirst, hother, hfind, -⟩ := match?_of_accepting hroute hmatch
  rcases Nat.lt_or_eq_of_le hj with hlt | rfl
  · rw [hearlier j first hlt hfirst] at hother
    cases hother
  · obtain rfl := Option.some.inj (hfirst.symm.trans hroute)
    rw [hfind, ← hother, h]

/-- What is made of a named route. -/
theorem Sound.generate_eq {r : Router} (hr : r.Sound) {route : Route} (hroute : route ∈ r.routes)
    {name : String} (hname : route.name = some name) {segments : List Segment}
    (h : BuiltInPattern r.types route.pattern segments) (given : List (String × String)) :
    r.generate name given =
      .ok (orRoot (r.basePath.toList ++ expansion (.ofList given) segments)) := by
  have hreversible : route.matcher.isReversible = true := by
    rcases h.matcher_eq (hr.compile_pattern hroute) with ⟨-, hm⟩ | ⟨-, hm⟩ <;> rw [hm] <;> rfl
  rw [generate, hr.namedRoute? hroute hname]
  simp only [hreversible, if_true, expand, h.scanned]
  rfl

/-- The path that is made has the normal form of the expansion, in whatever spelling the values
were given. -/
theorem Sound.generate_normalized {r : Router} (hr : r.Sound) {route : Route}
    (hroute : route ∈ r.routes) {name : String} (hname : route.name = some name)
    {segments : List Segment} (h : BuiltInPattern r.types route.pattern segments)
    (hbase : Plain r.basePath.toList) (hliterals : PlainLiterals segments)
    {given written : List (String × String)}
    (hwritten : Respelled (.ofList given) (.ofList written))
    (hrooted : Rooted (expansion (.ofList given) segments)) :
    ∃ url, r.generate name written = .ok url ∧
      normalizePath url r.basePath = orRoot (expansion (.ofList given) segments) := by
  refine ⟨_, hr.generate_eq hroute hname h written, ?_⟩
  have hspelling := (Spelling.refl hbase).append (hwritten.expansion hliterals)
  exact normalizePath_orRoot hspelling hrooted

/-! ## A router with one route -/

/-- A base path, and a number that may be left out. -/
def numbered : List Edit :=
  [.setBasePath "app", .register ⟨"GET", "/users/[i:id]?", "show", some "user"⟩]

/-- The segments of the pattern of the route. -/
def numberedSegments : List Segment :=
  [.literal "/users".toList, .placeholder ⟨.slash, "i:id".toList, true, 6⟩]

theorem numbered_basePath : (empty.applyAll numbered).basePath = "/app" := by decide +kernel

theorem numbered_types : (empty.applyAll numbered).types = .builtIn := by decide +kernel

theorem numbered_route : ∃ route, (empty.applyAll numbered).routes[0]? = some route ∧
    route.name = some "user" ∧ route.pattern = "/users/[i:id]?" ∧
    route.acceptsMethod (normalizeMethod "get") = true := by
  have hfacts : ((empty.applyAll numbered).routes[0]?).any (fun route =>
      route.name == some "user" && route.pattern == "/users/[i:id]?" &&
        route.acceptsMethod (normalizeMethod "get")) = true := by
    decide +kernel
  obtain ⟨route, hroute, hfacts⟩ := (Option.any_eq_true _ _).1 hfacts
  simp only [Bool.and_eq_true, beq_iff_eq] at hfacts
  exact ⟨route, hroute, hfacts.1.1, hfacts.1.2, hfacts.2⟩

theorem numbered_builtInPattern {route : Route} (h : route.pattern = "/users/[i:id]?") :
    BuiltInPattern (empty.applyAll numbered).types route.pattern numberedSegments := by
  rw [numbered_types, h]
  exact ⟨by decide, by decide, rfl, by decide⟩

/-! ## The empty pattern -/

theorem normalizePath_root : normalizePath "/" "" = "/" :=
  @normalizePath_orRoot "" [] [] .nil (.inl rfl)

/-- One named route with the empty pattern. -/
def emptyPattern : List Edit := [.register ⟨"GET", "", "home", some "root"⟩]

/-! ## Making a path and matching it -/

/-- A path that was made from a named route, with values in any spelling, is answered by a route
that does not stand behind the named one, and by the named one if none before it accepts the
request. -/
theorem generate_then_match (edits : List Edit) {i : Nat} {route : Route} {name : String}
    {segments : List Segment} {given written : List (String × String)} {method : String}
    (hroute : (empty.applyAll edits).routes[i]? = some route) (hname : route.name = some name)
    (hpattern : BuiltInPattern (empty.applyAll edits).types route.pattern segments)
    (hempty : route.pattern ≠ "")
    (hbase : Plain (empty.applyAll edits).basePath.toList)
    (hliterals : PlainLiterals segments)
    (hfits : Fits (empty.applyAll edits).types segments (.ofList given))
    (hwritten : Respelled (.ofList given) (.ofList written))
    (hrooted : Rooted (expansion (.ofList given) segments))
    (hmethod : route.acceptsMethod (normalizeMethod method) = true) :
    ∃ url, (empty.applyAll edits).generate name written = .ok url ∧
      ∃ j first answer, j ≤ i ∧ (empty.applyAll edits).routes[j]? = some first ∧
        first.match? (normalizeMethod method)
          (normalizePath url (empty.applyAll edits).basePath) = some answer ∧
        (empty.applyAll edits).match? method url = some answer ∧
        ((∀ k earlier, k < i → (empty.applyAll edits).routes[k]? = some earlier →
          earlier.match? (normalizeMethod method)
            (normalizePath url (empty.applyAll edits).basePath) = none) → first = route) := by
  have hr := sound_applyAll edits
  generalize empty.applyAll edits = r at *
  have hmem : route ∈ r.routes := List.mem_of_getElem? hroute
  obtain ⟨url, hgenerate, hpath⟩ :=
    hr.generate_normalized hmem hname hpattern hbase hliterals hwritten hrooted
  have hmatch : (route.match? (normalizeMethod method) (normalizePath url r.basePath)).isSome =
      true := by
    rw [hpath, Route.match?, if_pos hmethod, Option.isSome_map]
    exact hpattern.isSome_params? hempty (hr.compile_pattern hmem) hfits.splits
  obtain ⟨j, first, answer, hj, hfirst, hanswer, hfind, -⟩ := match?_of_accepting hroute hmatch
  refine ⟨url, hgenerate, j, first, answer, hj, hfirst, hanswer, hfind, fun hnone => ?_⟩
  -- An earlier route that answers contradicts `hnone`; so the first one is the route itself.
  rcases Nat.lt_or_eq_of_le hj with hlt | rfl
  · rw [hnone j first hlt hfirst] at hanswer
    cases hanswer
  · exact Option.some.inj (hfirst.symm.trans hroute)

/-- The value `72` may be written `%372`, and a route answers the path that is made with it behind
the base path. -/
theorem generate_then_match_numbered :
    ∃ url, (empty.applyAll numbered).generate "user" [("id", "%372")] = .ok url ∧
      ∃ first answer, (empty.applyAll numbered).routes[0]? = some first ∧
        first.match? (normalizeMethod "get")
          (normalizePath url (empty.applyAll numbered).basePath) = some answer ∧
        (empty.applyAll numbered).match? "get" url = some answer := by
  obtain ⟨route, hroute, hname, hpattern, hmethod⟩ := numbered_route
  have hwritten : Respelled (.ofList [("id", "72")]) (.ofList [("id", "%372")]) := by
    intro name
    rw [Dictionary.get?_ofList_cons, Dictionary.get?_ofList_cons]
    by_cases hid : name = "id"
    · have hescaped : Spelling ['7', '2'] (['%', '3', '7'] ++ ['2']) :=
        .escaped (.cons (by decide) .nil) (.plain (by decide) .nil)
      rw [if_pos hid, if_pos hid]
      exact .some hescaped
    · rw [if_neg hid, if_neg hid]
      exact .none
  obtain ⟨url, hgenerate, j, first, answer, hj, hfirst, hanswer, hmatch, -⟩ :=
    generate_then_match numbered hroute hname (numbered_builtInPattern hpattern)
      (hpattern ▸ by decide) (numbered_basePath ▸ by decide) (by decide)
      (numbered_types ▸ by decide +kernel) hwritten (by decide +kernel) hmethod
  obtain rfl := Nat.le_zero.1 hj
  exact ⟨url, hgenerate, first, answer, hfirst, hanswer, hmatch⟩

/-- The empty pattern is compared with the path as it stands, which is never empty. -/
theorem generate_then_match_empty :
    ∃ route, (empty.applyAll emptyPattern).routes[0]? = some route ∧ route.name = some "root" ∧
      BuiltInPattern (empty.applyAll emptyPattern).types route.pattern [] ∧
      Plain (empty.applyAll emptyPattern).basePath.toList ∧
      PlainLiterals [] ∧ Fits (empty.applyAll emptyPattern).types [] (.ofList []) ∧
      Respelled (.ofList []) (.ofList []) ∧ Rooted (expansion (.ofList []) []) ∧
      route.acceptsMethod (normalizeMethod "GET") = true ∧
      (empty.applyAll emptyPattern).generate "root" [] = .ok "/" ∧
      (empty.applyAll emptyPattern).match? "GET" "/" = none := by
  have hfacts : ((empty.applyAll emptyPattern).routes[0]?).any (fun route =>
      route.name == some "root" && route.pattern == "" &&
        route.acceptsMethod (normalizeMethod "GET")) = true := by
    decide +kernel
  obtain ⟨route, hroute, hfacts⟩ := (Option.any_eq_true _ _).1 hfacts
  simp only [Bool.and_eq_true, beq_iff_eq] at hfacts
  obtain ⟨⟨hname, hpattern⟩, hmethod⟩ := hfacts
  have hscan : BuiltInPattern (empty.applyAll emptyPattern).types "" [] :=
    ⟨by decide, by decide, rfl, nofun⟩
  have hbase : (empty.applyAll emptyPattern).basePath = "" := by decide +kernel
  have hmatch : ((empty.applyAll emptyPattern).routes.findSome? fun route =>
      route.match? "GET" "/") = none := by
    decide +kernel
  have hgenerate := (sound_applyAll emptyPattern).generate_eq (List.mem_of_getElem? hroute) hname
    (hpattern ▸ hscan) []
  refine ⟨route, hroute, hname, hpattern ▸ hscan, ?_, nofun, ⟨nofun, nofun⟩, fun _ => .none,
    .inl rfl, hmethod, ?_, ?_⟩
  · rw [hbase]
    exact nofun
  · rw [hgenerate, hbase]
    rfl
  · rw [match?, hbase, normalizePath_root]
    exact hmatch

end Router

end PathRouter
