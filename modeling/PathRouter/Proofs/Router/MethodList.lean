import PathRouter.Proofs.Pattern.Meaning
import PathRouter.Proofs.Regex.Alternatives
import PathRouter.Proofs.Router.Anchored
import PathRouter.Proofs.Router.Reachable
import PathRouter.Proofs.Unicode.CaseFolding
import Mathlib.Data.Bool.AllAny

/-!
# Lists of methods

The method of a route may be a list of methods with bars between them. The expression made from it
tries one method after the other and each of them from its beginning. A method that is too short
fails at the anchor for the end of the text, and then the next one is tried: so the order of the
methods makes no difference, and neither does it that one of them begins with another.
-/

namespace PathRouter

open Pattern (literalExprs)
open Regex (Expr Term Cursor Captures Continuation Flags firstOf)
open Regex.Parser (outside Level operators)
open Text (consume)
open Unicode (CharSet SameFolding)

/-- The characters of the methods in a list. -/
def isMethodChar (c : Char) : Bool := c.isAlphanum || c == '-' || c == '_'

theorem not_mem_operators {c : Char} (h : isMethodChar c = true) : c ∉ operators := by
  have hall : operators.all (fun c => !isMethodChar c) = true := by decide
  intro hmem
  have hnot := List.all_eq_true.1 hall c hmem
  rw [h] at hnot
  exact Bool.false_ne_true hnot

theorem isMethodChar_ascii {c : Char} (h : isMethodChar c = true) : c.toNat < 0x80 := by
  simp only [isMethodChar, Bool.or_eq_true, beq_iff_eq] at h
  rcases h with (h | rfl) | rfl
  · have hset := Pattern.ValueClass.contains_set .alphanumerics c
    rw [Pattern.ValueClass.accepts, h] at hset
    simp only [Pattern.ValueClass.set, CharSet.contains, List.any_cons, CharSet.within,
      Bool.or_eq_true, Bool.and_eq_true, decide_eq_true_eq, List.any_nil, Bool.false_eq_true,
      or_false] at hset
    omega
  · decide
  · decide

namespace Regex

/-! ## Reading a list -/

open PathRouter.Regex.Parser in
/-- The methods of a list become the alternatives of the group they are put into. -/
theorem consume_alternatives {texts : List (List Char)} (hne : texts ≠ [])
    (htexts : ∀ text ∈ texts, ∀ c ∈ text, c ∉ operators) (level : Level) (hitems : level.items = [])
    (outer : List Level) (groups : Nat) (names : List String) (rest : List Char) :
    ∃ last : Level, consume step 0 (outside level outer groups names)
        (List.intercalate ['|'] texts ++ rest) =
          consume step 0 (outside last outer groups names) rest ∧
      last.kind = level.kind ∧ last.blanksBehind = level.blanksBehind ∧
      last.expr = .ofBranches (level.branches.reverse ++
        texts.map fun text => .ofItems (literalExprs text)) := by
  induction texts generalizing level with
  | nil => exact absurd rfl hne
  | cons text texts ih =>
      obtain ⟨htext, hlater⟩ := List.forall_mem_cons.1 htexts
      have hread := consume_plain level outer groups names htext
      have hbranch : (level.add (literalExprs text)).items.reverse = literalExprs text := by
        simp [Level.add, hitems]
      cases texts with
      | nil =>
          refine ⟨level.add (literalExprs text), ?_, rfl, rfl, ?_⟩
          · rw [List.intercalate_singleton]
            exact hread rest
          · rw [Level.expr, hbranch]
            rfl
      | cons next texts =>
          let behind : Level := { level.add (literalExprs text) with
            branches := .ofItems (literalExprs text) :: level.branches, items := [] }
          obtain ⟨last, hlast, hkind, hblanks, hexpr⟩ := ih (List.cons_ne_nil _ _) hlater behind rfl
          refine ⟨last, ?_, hkind, hblanks, ?_⟩
          · have hbar : step (outside (level.add (literalExprs text)) outer groups names) '|'
                (List.intercalate ['|'] (next :: texts) ++ rest) =
                .ok (outside behind outer groups names, 0) := by
              change Except.ok (State.nextBranch _, 0) = _
              rw [State.nextBranch, outside, hbranch]
              rfl
            rw [List.intercalate_cons_cons, List.append_assoc, List.append_assoc, hread]
            exact (Text.consume_cons_of_step_zero hbar).trans hlast
          · rw [hexpr]
            simp [behind]

/-! ## Matching a list -/

/-- The terms of the methods of a list. -/
def methodTerm (f : Flags) (text : List Char) : Term :=
  .concat (text.map fun c => .read (f.single c))

theorem terms_methods (f : Flags) (texts : List (List Char)) :
    Expr.terms f (texts.map fun text => .ofItems (literalExprs text)) =
      .ok (texts.map (methodTerm f), f) := by
  induction texts with
  | nil => rfl
  | cons text texts ih =>
      have hfirst := Pattern.term_ofItems (Pattern.terms_foldedExprs f text)
      exact terms_cons_eq_ok_iff.2 ⟨_, _, _, hfirst, ih, rfl⟩

theorem flat_methodTerm (f : Flags) (text : List Char) : (methodTerm f text).Flat := by
  intro u hu
  rw [methodTerm, Term.items_concat] at hu
  obtain ⟨t, ht, hu⟩ := List.mem_flatMap.1 hu
  obtain ⟨c, -, rfl⟩ := List.mem_map.1 ht
  obtain rfl := List.mem_singleton.1 hu
  trivial

theorem simple_methodTerm (f : Flags) (text : List Char) : (methodTerm f text).Simple := by
  apply Term.simple_concat
  intro t ht
  obtain ⟨c, -, rfl⟩ := List.mem_map.1 ht
  trivial

theorem term_ofBranches_methods {f g : Flags} {texts : List (List Char)} (hne : texts ≠ [])
    {t : Term} (h : (Expr.ofBranches (texts.map fun text => .ofItems (literalExprs text))).term f =
      .ok (t, g)) : t = .alternatives (texts.map (methodTerm f)) := by
  match texts with
  | [] => exact absurd rfl hne
  | [text] =>
      have hterm := Pattern.term_ofItems (Pattern.terms_foldedExprs f text)
      obtain ⟨rfl, -⟩ := Prod.mk.inj (Except.ok.inj (h.symm.trans hterm))
      exact (Term.alternatives_singleton (flat_methodTerm f text)).symm
  | text :: next :: texts =>
      obtain ⟨ts, hts, rfl⟩ := term_alternatives_eq_ok_iff.1 h
      have hterms := terms_methods f (text :: next :: texts)
      obtain ⟨rfl, -⟩ := Prod.mk.inj (Except.ok.inj (hts.symm.trans hterms))
      rfl

/-- A method is attempted up to the end as the whole text, character by character. -/
theorem isSome_attempt_method {f : Flags} {text : List Char} {k : Continuation}
    (hk : ∀ s captures, (k s captures).isSome = true) (s : Cursor) (captures : Captures) :
    ((methodTerm f text).attempt ((Term.look .textEnd).attempt k) s captures).isSome = true ↔
      List.Forall₂ (fun c d => (f.single d).contains c = true) s.ahead text := by
  rw [methodTerm, Term.attempt_concat]
  induction text generalizing s with
  | nil =>
      obtain ⟨before, index, ahead⟩ := s
      cases ahead with
      | nil => exact iff_of_true (hk _ _) .nil
      | cons c rest => exact iff_of_false Bool.false_ne_true nofun
  | cons d text ih =>
      obtain ⟨before, index, ahead⟩ := s
      cases ahead with
      | nil => exact iff_of_false Bool.false_ne_true nofun
      | cons c rest =>
          have hlater := ih ⟨some c, index + 1, rest⟩
          rw [List.forall₂_cons, ← hlater]
          change Option.isSome (if (f.single d).contains c = true then _ else none) = true ↔ _
          split
          · next hc => exact ⟨fun h => ⟨hc, h⟩, And.right⟩
          · next hc => exact iff_of_false Bool.false_ne_true fun h => hc h.1

/-- The flags in the expression for whole methods. -/
def methodFlags : Flags := Flags.default.change [(.ignoreCase, true)]

theorem contains_single_iff {c d : Char} (hd : d.toNat < 0x80) :
    (methodFlags.single d).contains c = true ↔ SameFolding c d := by
  rw [← Unicode.mem_caseOrbit_iff hd]
  change (CharSet.ofRanges ((Unicode.caseOrbit d).map fun e => (e.toNat, e.toNat))).contains c =
    true ↔ _
  rw [CharSet.contains_ofRanges, List.any_map, List.any_eq_true]
  constructor
  · rintro ⟨e, he, hwithin⟩
    simp only [Function.comp, CharSet.within, Bool.and_eq_true, decide_eq_true_eq] at hwithin
    obtain rfl := Char.toNat_inj.1 (Nat.le_antisymm hwithin.2 hwithin.1)
    exact he
  · intro hc
    refine ⟨c, hc, ?_⟩
    simp [CharSet.within]

theorem forall₂_contains_iff {cs ds : List Char} (hds : ∀ d ∈ ds, d.toNat < 0x80) :
    List.Forall₂ (fun c d => (methodFlags.single d).contains c = true) cs ds ↔
      List.Forall₂ SameFolding cs ds := by
  induction cs generalizing ds with
  | nil => cases ds <;> simp
  | cons c cs ih =>
      cases ds with
      | nil => simp
      | cons d ds =>
          obtain ⟨hd, hds⟩ := List.forall_mem_cons.1 hds
          rw [List.forall₂_cons, List.forall₂_cons, contains_single_iff hd, ih hds]

open PathRouter.Regex.Parser in
theorem parse_methods {texts : List (List Char)} (hne : texts ≠ [])
    (htexts : ∀ text ∈ texts, ∀ c ∈ text, c ∉ operators) {method : String}
    (hmethod : method.toList = List.intercalate ['|'] texts) {e : Expr}
    (h : parse (methodSource method) = .ok e) :
    e = .concat [.flags [(.ignoreCase, true)], .anchor .lineStart,
      .group (.plain []) (.ofBranches (texts.map fun text => .ofItems (literalExprs text))),
      .anchor .lineEnd] := by
  obtain ⟨v, hread, -, -, rfl⟩ := parse_eq_ok h
  obtain ⟨last, hlast, hkind, hblanks, hexpr⟩ := consume_alternatives hne htexts
    (.opened (.plain [])) rfl
    [(Level.opened (.plain [])).add [.flags [(.ignoreCase, true)], .anchor .lineStart]] 0 []
    ")$".toList
  have hend : ")$".toList = [')', '$'] := by decide
  rw [methodSource_eq, heading_method.consume_wrapped, hmethod, hlast, hend,
    consume_close _ _ _ _ hblanks, consume_lineEnd, Level.add_add, Level.add_add,
    Text.consume_nil, hkind, hexpr] at hread
  obtain rfl := Except.ok.inj hread
  exact Level.expr_add_opened (.plain []) _

/-- What is left of the expression for whole methods when the beginning of the text is found. -/
def methodsTerm (texts : List (List Char)) : Term :=
  .concat [.alternatives (texts.map (methodTerm methodFlags)), .look .textEnd]

theorem term_of_methods {texts : List (List Char)} (hne : texts ≠ [])
    (htexts : ∀ text ∈ texts, ∀ c ∈ text, c ∉ operators) {method : String}
    (hmethod : method.toList = List.intercalate ['|'] texts) {regex : Regex}
    (h : compile (methodSource method) = .ok regex) :
    regex.term = .seq (.look .textStart) ((methodsTerm texts).number 0).1 := by
  obtain ⟨e, t, flags, hparse, hterm, rfl⟩ := compile_eq_ok h
  obtain rfl := parse_methods hne htexts hmethod hparse
  obtain ⟨ts, hts, rfl⟩ := term_concat_eq_ok_iff.1 hterm
  obtain ⟨_, _, us, hflags, hus, rfl⟩ := terms_cons_eq_ok_iff.1 hts
  obtain ⟨rfl, rfl⟩ := Prod.mk.inj (Except.ok.inj hflags)
  obtain ⟨_, _, vs, hstart, hvs, rfl⟩ := terms_cons_eq_ok_iff.1 hus
  obtain ⟨rfl, rfl⟩ := Prod.mk.inj (Except.ok.inj hstart)
  obtain ⟨u, _, ws, hgroup, hws, rfl⟩ := terms_cons_eq_ok_iff.1 hvs
  obtain ⟨body, _, hbody, rfl, rfl⟩ := term_group_eq_ok_iff.1 hgroup
  obtain ⟨_, hlook, rfl⟩ := terms_singleton_eq_ok_iff.1 hws
  obtain ⟨rfl, rfl⟩ := Prod.mk.inj (Except.ok.inj hlook)
  obtain rfl := term_ofBranches_methods hne hbody
  have hconcat : Term.concat (.empty :: .look .textStart ::
      [.alternatives (texts.map (methodTerm methodFlags)), .look .textEnd]) =
      .seq (.look .textStart) (methodsTerm texts) := by
    apply Term.concat_look
    exact Term.concat_ne_empty (List.mem_cons_of_mem _ List.mem_cons_self) Term.noConfusion
  exact congrArg (fun t => (Term.number 0 t).1) hconcat

/-- A list of methods matches a text if one of its methods is the whole text, character by
character. -/
theorem isMatch_methods {texts : List (List Char)} (hne : texts ≠ [])
    (htexts : ∀ text ∈ texts, ∀ c ∈ text, isMethodChar c = true) {method : String}
    (hmethod : method.toList = List.intercalate ['|'] texts) {regex : Regex}
    (h : compile (methodSource method) = .ok regex) (text : String) :
    regex.isMatch text = true ↔
      ∃ name ∈ texts, List.Forall₂ SameFolding text.toList name := by
  have hplain : ∀ text ∈ texts, ∀ c ∈ text, c ∉ operators :=
    fun text ht c hc => not_mem_operators (htexts text ht c hc)
  have hascii : ∀ text ∈ texts, ∀ c ∈ text, c.toNat < 0x80 :=
    fun text ht c hc => isMethodChar_ascii (htexts text ht c hc)
  have hsimple : (methodsTerm texts).Simple := by
    apply Term.simple_concat
    intro t ht
    rcases List.mem_cons.1 ht with rfl | ht
    · exact Term.simple_alternatives (List.forall_mem_map.2 fun name _ => simple_methodTerm _ name)
    · obtain rfl := List.mem_singleton.1 ht
      trivial
  have hflat : ∀ t ∈ texts.map (methodTerm methodFlags), t.Flat :=
    List.forall_mem_map.2 fun name _ => flat_methodTerm _ name
  rw [isMatch, term_of_methods hne hplain hmethod h,
    Term.search_anchored (Term.simple_number hsimple 0), Term.attemptAt, Term.attempt,
    Term.attempt_number, methodsTerm, Term.attempt_concat, List.foldr_cons,
    Term.attempt_alternatives hflat, isSome_firstOf]
  constructor
  · rintro ⟨k, hk, hsome⟩
    obtain ⟨t, ht, rfl⟩ := List.mem_map.1 hk
    obtain ⟨name, hname, rfl⟩ := List.mem_map.1 ht
    have hall := (isSome_attempt_method (fun _ _ => rfl) _ _).1 hsome
    exact ⟨name, hname, (forall₂_contains_iff (hascii name hname)).1 hall⟩
  · rintro ⟨name, hname, hall⟩
    rw [← forall₂_contains_iff (hascii name hname)] at hall
    refine ⟨_, List.mem_map_of_mem (List.mem_map_of_mem hname), ?_⟩
    exact (isSome_attempt_method (fun _ _ => rfl) ⟨none, 0, text.toList⟩ _).2 hall

end Regex

namespace Request

/-- A method without the blank characters at its ends, or the default one if nothing is left. -/
def strippedMethod (method : String) : List Char :=
  match Text.trim Text.isBlank method.toList with
  | [] => defaultMethod.toList
  | c :: cs => c :: cs

theorem toList_normalizeMethod (method : String) :
    (normalizeMethod method).toList = (strippedMethod method).map Char.toUpper := by
  unfold normalizeMethod strippedMethod
  cases Text.trim Text.isBlank method.toList with
  | nil => decide
  | cons c cs => exact String.toList_ofList

theorem strippedMethod_ascii {method : String} (h : ∀ c ∈ method.toList, c.toNat < 0x80) :
    ∀ c ∈ strippedMethod method, c.toNat < 0x80 := by
  unfold strippedMethod
  split
  · exact List.all_iff_forall_prop.1 (by decide)
  · next d cs htrim =>
      obtain ⟨before, behind, heq⟩ := Text.exists_append_trim_append Text.isBlank method.toList
      rw [htrim] at heq
      intro c hc
      apply h
      rw [← heq]
      exact List.mem_append_left _ (List.mem_append_right _ hc)

/-- Where all characters are ASCII, texts are equal up to case if their small letters are. -/
theorem forall₂_sameFolding_iff {cs ds : List Char} (hcs : ∀ c ∈ cs, c.toNat < 0x80)
    (hds : ∀ d ∈ ds, d.toNat < 0x80) : List.Forall₂ SameFolding (cs.map Char.toUpper) ds ↔
      cs.map Char.toLower = ds.map Char.toLower := by
  induction cs generalizing ds with
  | nil => cases ds <;> simp
  | cons c cs ih =>
      cases ds with
      | nil => simp
      | cons d ds =>
          obtain ⟨hc, hcs⟩ := List.forall_mem_cons.1 hcs
          obtain ⟨hd, hds⟩ := List.forall_mem_cons.1 hds
          obtain ⟨hlower, hupper⟩ := Unicode.toLower_toUpper hc
          simp only [List.map_cons, List.forall₂_cons, List.cons.injEq, ih hcs hds,
            Unicode.sameFolding_iff_toLower hupper hd, hlower]

end Request

/-- A route whose method is a list of methods is for those methods that are equal to one of the list
up to case, from the first character to the last. Among ASCII methods these are the ones that have
the same small letters, whatever blank characters stand around them. -/
theorem Router.register_methodList {r s : Router} {d : RouteDef} {listed : List String}
    (hne : listed ≠ []) (hlisted : ∀ name ∈ listed, ∀ c ∈ name.toList, isMethodChar c = true)
    (hmethod : d.method = "|".intercalate listed) (h : r.register d = .ok s) :
    ∃ route : Route, route.toRouteDef = d ∧ s.routes = r.routes ++ [route] ∧ ∀ method : String,
      (route.acceptsMethod (Request.normalizeMethod method) = true ↔ ∃ name ∈ listed,
        List.Forall₂ SameFolding (Request.normalizeMethod method).toList name.toList) ∧
      ((∀ c ∈ method.toList, c.toNat < 0x80) →
        (route.acceptsMethod (Request.normalizeMethod method) = true ↔ ∃ name ∈ listed,
          (Request.strippedMethod method).map Char.toLower = name.toList.map Char.toLower)) := by
  obtain ⟨methods, matcher, -, hmethods, -, rfl⟩ := register_eq_ok h
  have hregex := mapError_eq_ok_iff.1 hmethods
  have hsource : d.method.toList = List.intercalate ['|'] (listed.map String.toList) := by
    rw [hmethod, String.toList_intercalate]
    rfl
  have hne' : listed.map String.toList ≠ [] := fun hnil => hne (List.map_eq_nil_iff.1 hnil)
  have hnames : ∀ text ∈ listed.map String.toList, ∀ c ∈ text, isMethodChar c = true :=
    List.forall_mem_map.2 hlisted
  have hfolding (method : String) : methods.isMatch method = true ↔ ∃ name ∈ listed,
      List.Forall₂ SameFolding method.toList name.toList := by
    rw [Regex.isMatch_methods hne' hnames hsource hregex]
    simp only [List.mem_map, exists_exists_and_eq_and]
  refine ⟨⟨d, methods, matcher⟩, rfl, rfl, fun method => ⟨hfolding _, fun hascii => ?_⟩⟩
  apply (hfolding _).trans
  apply exists_congr
  intro name
  apply and_congr_right
  intro hname
  rw [Request.toList_normalizeMethod]
  apply Request.forall₂_sameFolding_iff (Request.strippedMethod_ascii hascii)
  intro c hc
  exact isMethodChar_ascii (hlisted name hname c hc)

/-- In the list `GET|GETS` the shorter method does not hide the longer one, and neither of them is
for a method that only begins or ends like it. -/
theorem Router.register_methodList_overlapping :
    ∃ s route, Router.empty.register ⟨"GET|GETS", "/", "h", none⟩ = .ok s ∧ s.routes = [route] ∧
      route.acceptsMethod (Request.normalizeMethod " gets ") = true ∧
      route.acceptsMethod (Request.normalizeMethod "GETSX") = false ∧
      route.acceptsMethod (Request.normalizeMethod "XGET") = false := by
  have hok : (Router.empty.register ⟨"GET|GETS", "/", "h", none⟩).isOk = true := by decide +kernel
  have hchars : ∀ name ∈ ["GET", "GETS"], ∀ c ∈ name.toList, isMethodChar c = true := by
    have hall : ["GET", "GETS"].all (fun name => name.toList.all isMethodChar) = true := by decide
    exact fun name hname => List.all_eq_true.1 (List.all_eq_true.1 hall name hname)
  obtain ⟨s, hs⟩ := isOk_iff.1 hok
  obtain ⟨route, -, hroutes, haccepts⟩ :=
    Router.register_methodList (List.cons_ne_nil _ _) hchars (by decide) hs
  refine ⟨s, route, hs, hroutes, ?_, ?_, ?_⟩
  · rw [(haccepts _).2 (List.all_iff_forall_prop.1 (by decide))]
    decide
  · rw [Bool.eq_false_iff, ne_eq, (haccepts _).2 (List.all_iff_forall_prop.1 (by decide))]
    decide
  · rw [Bool.eq_false_iff, ne_eq, (haccepts _).2 (List.all_iff_forall_prop.1 (by decide))]
    decide

end PathRouter
