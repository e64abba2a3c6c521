import PathRouter.Proofs.Request.Spelling
import PathRouter.Router.Edit
import PathRouter.Router.Match

/-!
# Requests in other spellings

A request path may be spelled in many ways, and a query or a fragment may follow. Its normal form is
made of the text that was spelled: what of that text remains behind the base path, with one slash in
front. So the answer to a request depends on the text only, and under a base path a text behind it
is answered as the text alone is answered without a base path.
-/

namespace PathRouter

namespace Request

/-- What remains of a path behind a base path. If the path is not the base path and does not
continue it with a slash, all of it remains. -/
def Remains (base path rest : List Char) : Prop :=
  if base ≠ [] ∧ (path = base ∨ base ++ ['/'] <+: path) then path = base ++ rest else rest = path

/-- Nothing is taken away but a base path that ends at a segment boundary. -/
theorem stripBase_eq_self {base path : List Char} (hself : path ≠ base)
    (hcontinued : ¬base ++ ['/'] <+: path) : stripBase base path = path := by
  unfold stripBase
  split
  · next hprefix =>
      obtain ⟨rest, rfl⟩ := List.isPrefixOf_iff_prefix.1 hprefix
      rw [List.drop_left]
      split
      · exact absurd (List.append_nil base) hself
      · next rest =>
          have hslash : base ++ ['/'] <+: base ++ '/' :: rest := ⟨rest, by simp⟩
          exact absurd hslash hcontinued
      · rfl
  · rfl

theorem remains_nil (path : List Char) : Remains [] path path := by
  rw [Remains, if_neg]
  exact fun h => h.1 rfl

/-- What is left of a path when the base path is stripped is what remains behind it. -/
theorem remains_stripBase {base : List Char} (hbase : base ≠ []) (path : List Char) :
    Remains base path (stripBase base path) := by
  unfold Remains
  split
  · next hboundary =>
      rcases hboundary.2 with rfl | ⟨rest, rfl⟩
      · rw [stripBase_self, List.append_nil]
      · have hrest : BehindBase ('/' :: rest) := fun c hc => (Option.some.inj hc).symm
        rw [List.append_assoc, List.singleton_append, stripBase_append base hrest]
  · next hboundary =>
      rw [not_and, not_or] at hboundary
      obtain ⟨hself, hcontinued⟩ := hboundary hbase
      exact stripBase_eq_self hself hcontinued

/-- The normal form of a spelling is what of the spelled path remains, with one slash in front. -/
theorem normalizePathChars_remains {path spelled behind : List Char} (h : Spelling path spelled)
    (hbehind : BehindPath behind) (base : List Char) :
    ∃ rest, Remains base path rest ∧
      normalizePathChars (spelled ++ behind) base = '/' :: rest.dropWhile (· == '/') := by
  rw [normalizePathChars, h.beforeQuery_append hbehind, h.decodeText]
  cases base with
  | nil => exact ⟨path, remains_nil path, rfl⟩
  | cons c base => exact ⟨_, remains_stripBase (List.cons_ne_nil c base) path, rfl⟩

/-- The normal form does not depend on the spelling. -/
theorem normalizePathChars_congr {path spelled behind spelled' behind' : List Char}
    (h : Spelling path spelled) (hbehind : BehindPath behind) (h' : Spelling path spelled')
    (hbehind' : BehindPath behind') (base : List Char) :
    normalizePathChars (spelled ++ behind) base =
      normalizePathChars (spelled' ++ behind') base := by
  simp only [normalizePathChars, h.beforeQuery_append hbehind, h'.beforeQuery_append hbehind',
    h.decodeText, h'.decodeText]

/-- Behind a base path a path has the normal form that it has alone without a base path. -/
theorem normalizePathChars_behindBase {base path spelled behind alone behind' : List Char}
    (h : Spelling (base ++ path) spelled) (hbehind : BehindPath behind)
    (hpath : BehindBase path) (halone : Spelling path alone) (hbehind' : BehindPath behind') :
    normalizePathChars (spelled ++ behind) base = normalizePathChars (alone ++ behind') [] := by
  rw [normalizePathChars, h.beforeQuery_append hbehind, h.decodeText]
  have hbare : normalizePathChars (alone ++ behind') [] = rooted path := by
    rw [normalizePathChars, halone.beforeQuery_append hbehind', halone.decodeText]
    rfl
  cases base with
  | nil => exact hbare.symm
  | cons c base =>
      change rooted (stripBase (c :: base) (c :: base ++ path)) = _
      rw [stripBase_append (c :: base) hpath, hbare]

end Request

namespace Router

open Request

/-- The answer to a request depends on its path only through the normal form. -/
theorem match?_congr_path {r s : Router} {path path' : List Char}
    (hroutes : r.routes = s.routes)
    (hpath : normalizePathChars path r.basePath.toList =
      normalizePathChars path' s.basePath.toList) (method : String) :
    r.match? method (String.ofList path) = s.match? method (String.ofList path') := by
  simp only [match?, normalizePath, String.toList_ofList, hroutes, hpath]

/-- However a path is spelled, and whatever query or fragment follows, its escapes are read once,
its normal form is what remains of it behind the base path, and every router gives it the same
answer. A path behind the base path of a router is answered as the path alone would be if there were
no base path. -/
theorem match?_spelling {path spelled behind : List Char} (h : Spelling path spelled)
    (hbehind : BehindPath behind) :
    Percent.decodeText (beforeQuery (spelled ++ behind)) = path ∧
    (∀ base : String, ∃ rest, Remains base.toList path rest ∧
      normalizePath (String.ofList (spelled ++ behind)) base =
        String.ofList ('/' :: rest.dropWhile (· == '/'))) ∧
    (∀ spelled' behind', Spelling path spelled' → BehindPath behind' →
      ∀ (r : Router) (method : String),
        r.match? method (String.ofList (spelled ++ behind)) =
          r.match? method (String.ofList (spelled' ++ behind'))) ∧
    ∀ (r : Router) (tail spelled' behind' : List Char), path = r.basePath.toList ++ tail →
      BehindBase tail → Spelling tail spelled' → BehindPath behind' → ∀ method : String,
        r.match? method (String.ofList (spelled ++ behind)) =
          (r.setBasePath "").match? method (String.ofList (spelled' ++ behind')) := by
  refine ⟨?_, ?_, ?_, ?_⟩
  · rw [h.beforeQuery_append hbehind, h.decodeText]
  · intro base
    obtain ⟨rest, hrest, hnormal⟩ := normalizePathChars_remains h hbehind base.toList
    refine ⟨rest, hrest, ?_⟩
    rw [normalizePath, String.toList_ofList, hnormal]
  · intro spelled' behind' h' hbehind' r method
    exact match?_congr_path rfl (normalizePathChars_congr h hbehind h' hbehind' _) method
  · intro r tail spelled' behind' hpath htail h' hbehind' method
    have hbare : (r.setBasePath "").basePath.toList = [] := by
      have hempty : normalizeBasePath "" = "" := by decide
      rw [setBasePath, hempty, String.toList_empty]
    have hroutes : r.routes = (r.setBasePath "").routes := rfl
    apply match?_congr_path hroutes
    rw [hbare]
    exact normalizePathChars_behindBase (hpath ▸ h) hbehind htail h' hbehind'

/-- Under the base path `/app` the slash may be an escape, and `%41` is what a route is given when
`%2541` has been read. -/
theorem match?_escapedSlash :
    let r := empty.applyAll [.setBasePath "app", .register ⟨"GET", "/[:x]", "show", none⟩]
    Spelling "/app/%41".toList "/app%2f%2541".toList ∧ BehindPath "?x=%41".toList ∧
    normalizePath (String.ofList ("/app%2f%2541".toList ++ "?x=%41".toList)) "/app" = "/%41" ∧
    r.match? "GET" (String.ofList ("/app%2f%2541".toList ++ "?x=%41".toList)) =
      (r.setBasePath "").match? "GET" (String.ofList ("/%2541".toList ++ "#top".toList)) ∧
    r.match? "GET" (String.ofList ("/app%2f%2541".toList ++ "?x=%41".toList)) =
      some ⟨"show", [("x", "%41")], none, "/[:x]"⟩ := by
  intro r
  have hslash : Escapes [0x2F] ['%', '2', 'f'] := .cons (by decide) .nil
  have hpercent : Escapes [0x25] ['%', '2', '5'] := .cons (by decide) .nil
  have htext : Spelling "%41".toList "%2541".toList :=
    Spelling.escaped (c := '%') hpercent (.refl (by decide))
  have htail : Spelling "/%41".toList "/%2541".toList := .plain (by decide) htext
  have hescaped : Spelling "/%41".toList "%2f%2541".toList :=
    Spelling.escaped (c := '/') hslash htext
  have hbase : Spelling "/app".toList "/app".toList := .refl (by decide)
  have hspelled : Spelling "/app/%41".toList "/app%2f%2541".toList := hbase.append hescaped
  have hbehind : BehindPath "?x=%41".toList := by decide
  obtain ⟨-, hnormal, -, hbare⟩ := match?_spelling hspelled hbehind
  have hnormalized : normalizePath (String.ofList ("/app%2f%2541".toList ++ "?x=%41".toList))
      "/app" = "/%41" := by
    obtain ⟨rest, hrest, hpath⟩ := hnormal "/app"
    have hboundary : "/app".toList ≠ [] ∧ ("/app/%41".toList = "/app".toList ∨
        "/app".toList ++ ['/'] <+: "/app/%41".toList) := by decide
    rw [Remains, if_pos hboundary] at hrest
    have hbehindBase : "/app".toList ++ "/%41".toList = "/app".toList ++ rest := hrest
    obtain rfl := List.append_cancel_left hbehindBase
    exact hpath
  have hbasePath : r.basePath = "/app" := by decide +kernel
  refine ⟨hspelled, hbehind, hnormalized, ?_, ?_⟩
  · apply hbare r "/%41".toList _ _ _ _ htail (by decide)
    · rw [hbasePath]
      rfl
    · exact fun c hc => (Option.some.inj hc).symm
  · have hroute : (r.routes.findSome? fun route => route.match? (normalizeMethod "GET") "/%41") =
        some ⟨"show", [("x", "%41")], none, "/[:x]"⟩ := by decide +kernel
    rw [match?, hbasePath, hnormalized, hroute]

end Router

end PathRouter
