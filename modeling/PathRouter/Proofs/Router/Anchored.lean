import PathRouter.Proofs.Regex.Closing
import PathRouter.Router.Basic

/-!
# Whole paths and whole methods

An expression behind an at sign is for whole paths and the method of a route for whole methods:
both are put into a group between the two anchors. That is enough if the text is an expression by
itself, whatever alternatives and flags are in it. The text is put there as it is, though, so it can
close the group and divide the whole expression, or turn on a flag under which the second anchor
holds at every line feed. Then a part of a path or of a method is enough for a match.
-/

namespace PathRouter.Regex

/-- Every match in a text is the whole text. -/
def MatchesWhole (r : Regex) : Prop :=
  ∀ (text : String) (captures : Captures), r.captures? text = some captures →
    captures.span? 0 = some (0, text.toList.length)

/-- The expression ends, outside all groups and not as one alternative of several, with the anchor
for the end of a line, and there this is the end of the text. -/
def Sealed (source : String) : Prop :=
  ∃ items ts flags, parse source = .ok (.concat (items ++ [.anchor .lineEnd])) ∧
    Expr.terms .default items = .ok (ts, flags) ∧ flags.multiLine = false

theorem Sealed.undivided {source : String} (h : Sealed source) : Undivided source := by
  obtain ⟨items, _, _, hparse, -, -⟩ := h
  intro branches hbranches
  rw [hparse] at hbranches
  cases Except.ok.inj hbranches

namespace Term

theorem endsText_append (s : Term) {t : Term} (h : t.EndsText) : (s.append t).EndsText := by
  fun_induction append s t with
  | case1 t => exact h
  | case2 a b t ih => exact ih h
  | case3 s => exact h.elim
  | case4 s t => exact h

theorem endsText_concat (ts : List Term) : (concat (ts ++ [.look .textEnd])).EndsText := by
  induction ts with
  | nil => rfl
  | cons t ts ih => exact t.endsText_append ih

theorem endsText_number {t : Term} (h : t.EndsText) (n : Nat) : (t.number n).1.EndsText := by
  induction t generalizing n with
  | look l => exact h
  | seq a b _ ihb => exact ihb h _
  | _ => exact h.elim

end Term

theorem Sealed.endsText {source : String} (h : Sealed source) {e : Expr}
    (hparse : parse source = .ok e) {t : Term} {g : Flags} (hterm : e.term .default = .ok (t, g)) :
    t.EndsText := by
  obtain ⟨items, ts, flags, hparse', hts, hmultiLine⟩ := h
  obtain rfl := Except.ok.inj (hparse.symm.trans hparse')
  obtain ⟨vs, hvs, rfl⟩ := term_concat_eq_ok_iff.1 hterm
  obtain ⟨_, _, us, hts', hus, rfl⟩ := terms_append_eq_ok_iff.1 hvs
  obtain ⟨rfl, rfl⟩ := Prod.mk.inj (Except.ok.inj (hts.symm.trans hts'))
  have hlook : Expr.terms flags [.anchor .lineEnd] = .ok ([.look .textEnd], flags) := by
    simp [Expr.terms, Expr.term, Anchor.look, hmultiLine, bind, Except.bind, pure, Except.pure]
  obtain ⟨rfl, -⟩ := Prod.mk.inj (Except.ok.inj (hus.symm.trans hlook))
  exact Term.endsText_concat _

/-! ## Texts between anchors -/

/-- A text in a group between an opening and the anchor for the end. -/
def wrapped (opening body : List Char) : String :=
  String.ofList (opening ++ ("(?:".toList ++ (body ++ ")$".toList)))

open PathRouter.Regex.Parser Text in
/-- The opening is read as some items, and these ask for the beginning of the text and turn on no
flag under which the anchors would ask for less. -/
structure Heading (opening : List Char) (first : List Expr) : Prop where
  reads : ∀ rest, consume step 0 .initial (opening ++ rest) =
    consume step 0 (outside ((Level.opened (.plain [])).add first) [] 0 []) rest
  anchors : ∃ ts flags, Expr.terms .default first = .ok (ts, flags) ∧
    ts.flatMap Term.items = [.look .textStart] ∧ flags.multiLine = false

theorem ofItems_append_pair (es : List Expr) (a b : Expr) :
    Expr.ofItems (es ++ [a, b]) = .concat (es ++ [a, b]) := by
  match es with
  | [] | [_] | _ :: _ :: _ => rfl

section Wrapped
open PathRouter.Regex.Parser Text
variable {opening : List Char} {first : List Expr} (hopening : Heading opening first)
  {body : List Char} {regex : Regex}
include hopening

theorem Heading.consume_wrapped (body : List Char) :
    consume step 0 .initial (wrapped opening body).toList = consume step 0
      (outside (.opened (.plain [])) [(Level.opened (.plain [])).add first] 0 [])
      (body ++ ")$".toList) := by
  rw [wrapped, String.toList_ofList, hopening.reads, consume_openPlain]

theorem Heading.prefix_items {more : List Expr} {t : Term} {g : Flags}
    (h : (Expr.ofItems (first ++ more)).term .default = .ok (t, g)) :
    [.look .textStart] <+: t.items := by
  obtain ⟨ts, hts, rfl⟩ := term_ofItems_eq_ok_iff.1 h
  obtain ⟨firstTerms, flags, hfirst, hitems, -⟩ := hopening.anchors
  obtain ⟨_, _, us, hfirst', -, rfl⟩ := terms_append_eq_ok_iff.1 hts
  obtain ⟨rfl, -⟩ := Prod.mk.inj (Except.ok.inj (hfirst'.symm.trans hfirst))
  rw [Term.items_concat, List.flatMap_append, hitems]
  exact List.prefix_append _ _

/-- An expression that begins with the anchor for the beginning and is sealed matches whole texts
only. -/
theorem Heading.matchesWhole (h : compile (wrapped opening body) = .ok regex)
    (hsealed : Sealed (wrapped opening body)) : regex.MatchesWhole := by
  obtain ⟨e, t, flags, hparse, hterm, rfl⟩ := compile_eq_ok h
  have hbegins : Begins first [.opened (.plain []), (Level.opened (.plain [])).add first] := by
    apply begins_cons_cons_iff.2
    rintro whole hwhole -
    obtain rfl := Option.some.inj hwhole
    exact ⟨[], List.append_nil _⟩
  obtain ⟨more, rfl⟩ :=
    parse_begins hsealed.undivided hbegins (hopening.consume_wrapped body) hparse
  have hatom : ∀ u ∈ [Term.look .textStart], u.IsAtom := List.forall_mem_singleton.2 trivial
  intro text captures hcaptures
  apply span?_of_search _ _ _ hcaptures
  · exact Term.prefix_items_number hatom (hopening.prefix_items hterm) 0
  · exact Term.endsText_number (hsealed.endsText hparse hterm) 0
  · rw [Term.groups_number]
    intro g hg
    exact positive_parse hparse g (Expr.groups_of_term hterm hg)

/-- A text that is an expression by itself cannot close the group it is put into, and flags that it
turns on hold inside this group only. -/
theorem Heading.sealed (h : compile (wrapped opening body) = .ok regex) {tree : Expr}
    (hbody : parse (String.ofList body) = .ok tree) : Sealed (wrapped opening body) := by
  obtain ⟨e, t, flags, hparse, hterm, -⟩ := compile_eq_ok h
  obtain ⟨v, hread, -, houter, heq⟩ := parse_eq_ok hparse
  rw [hopening.consume_wrapped] at hread
  obtain ⟨lost, groups, added, henclosed⟩ := consume_enclosed hbody
  have hquiet : Quiet lost ['$'] := fun _ => by decide
  obtain ⟨hlost, hclosed⟩ := henclosed 0 [] (.plain []) _ [] ['$'] v hquiet hread
  -- A comment at the end would hide the closing parenthesis, and the whole would not compile.
  cases lost with
  | true =>
      have hlevels := hlost rfl
      rw [houter] at hlevels
      cases hlevels
  | false =>
      let items := first ++ [.group (.plain []) (tree.shift 0)]
      have hend := hclosed rfl
      rw [consume_lineEnd, Level.add_add, Level.add_add, consume_nil] at hend
      obtain rfl := Except.ok.inj hend
      have hitems : e = .concat (items ++ [.anchor .lineEnd]) := by
        rw [heq, List.append_assoc]
        exact (Level.expr_add_opened (.plain []) _).trans (ofItems_append_pair first _ _)
      rw [hitems] at hparse hterm
      obtain ⟨vs, hvs, -⟩ := term_concat_eq_ok_iff.1 hterm
      obtain ⟨ts, itemFlags, _, hts, -, -⟩ := terms_append_eq_ok_iff.1 hvs
      refine ⟨items, ts, itemFlags, hparse, hts, ?_⟩
      obtain ⟨_, firstFlags, us, hfirst, hus, -⟩ := terms_append_eq_ok_iff.1 hts
      obtain ⟨_, _, hfirst', -, hmultiLine⟩ := hopening.anchors
      obtain ⟨-, rfl⟩ := Prod.mk.inj (Except.ok.inj (hfirst'.symm.trans hfirst))
      obtain ⟨_, hgroup, -⟩ := terms_singleton_eq_ok_iff.1 hus
      obtain ⟨_, _, -, -, rfl⟩ := term_group_eq_ok_iff.1 hgroup
      exact hmultiLine

end Wrapped

end PathRouter.Regex

namespace PathRouter

open Pattern (Matcher TypeRegistry)
open Regex (Heading wrapped Sealed)

/-! ## Paths and methods -/

theorem rawSource_eq (body : List Char) : Pattern.rawSource body = wrapped ['^'] body := by
  have hopening : "^(?:".toList = ['^'] ++ "(?:".toList := by decide
  unfold Pattern.rawSource wrapped
  rw [hopening, List.append_assoc, List.append_assoc]

theorem methodSource_eq (method : String) :
    methodSource method = wrapped "(?i)^".toList method.toList := by
  have hopening : "(?i)^(?:".toList = "(?i)^".toList ++ "(?:".toList := by decide
  unfold methodSource wrapped
  rw [hopening, List.append_assoc, List.append_assoc]

theorem heading_raw : Heading ['^'] [.anchor .lineStart] where
  reads := fun rest => Regex.Parser.consume_lineStart _ _ _ _ rest
  anchors := ⟨_, _, rfl, rfl, rfl⟩

open Regex.Parser Text in
theorem heading_method :
    Heading "(?i)^".toList [.flags [(.ignoreCase, true)], .anchor .lineStart] where
  reads := fun rest => by
    have hflags : readOpening 1 [] ("?i)".toList ++ '^' :: rest) =
        .ok (.flags [(.ignoreCase, true)], '^' :: rest) := rfl
    have hstep : step .initial '(' ("?i)".toList ++ '^' :: rest) =
        .ok (outside ((Level.opened (.plain [])).add [.flags [(.ignoreCase, true)]]) [] 0 [],
          "?i)".toList.length) := by
      change (readOpening 1 [] ("?i)".toList ++ '^' :: rest) >>= fun _ => _) = _
      rw [hflags, ← usedUp_append "?i)".toList ('^' :: rest)]
      rfl
    have hread := consume_cons_of_step hstep
    rw [consume_lineStart, Level.add_add] at hread
    exact hread
  anchors := ⟨_, _, rfl, rfl, rfl⟩

theorem compile_raw_eq_ok {types : TypeRegistry} {body : String} {m : Matcher}
    (h : Pattern.compile types ("@" ++ body) = .ok m) :
    ∃ e, m = .raw e ∧ Regex.compile (Pattern.rawSource body.toList) = .ok e.regex := by
  have hlist : ("@" ++ body).toList = '@' :: body.toList := by
    rw [String.toList_append]
    rfl
  unfold Pattern.compile at h
  rw [hlist] at h
  obtain ⟨regex, hregex, hm⟩ := bind_eq_ok_iff.1 h
  obtain rfl := pure_eq_ok_iff.1 hm
  exact ⟨_, rfl, mapError_eq_ok_iff.1 hregex⟩

theorem source_of_compile {source : String} {regex : Regex}
    (h : Regex.compile source = .ok regex) : regex.source = source := by
  obtain ⟨_, _, _, -, -, rfl⟩ := Regex.compile_eq_ok h
  rfl

/-- An expression behind an at sign matches whole paths only, and as the method of a route whole
methods only, if the compiled expression ends with the anchor for the end of the text. It does so
whenever the given text is an expression by itself. -/
theorem anchored_matchesWhole (types : TypeRegistry) (text : String) :
    (∀ m, Pattern.compile types ("@" ++ text) = .ok m → ∃ e, m = .raw e ∧
      ((∃ tree, Regex.parse text = .ok tree) → Sealed e.regex.source) ∧
      (Sealed e.regex.source → e.regex.MatchesWhole)) ∧
    ∀ regex, compileMethods text = .ok regex →
      ((∃ tree, Regex.parse text = .ok tree) → Sealed regex.source) ∧
      (Sealed regex.source → regex.MatchesWhole) := by
  have hbody {tree : Regex.Expr} (htree : Regex.parse text = .ok tree) :
      Regex.parse (String.ofList text.toList) = .ok tree := by
    rwa [String.ofList_toList]
  constructor
  · intro m hm
    obtain ⟨e, rfl, hregex⟩ := compile_raw_eq_ok hm
    have hsource := source_of_compile hregex
    rw [rawSource_eq] at hregex hsource
    refine ⟨e, rfl, ?_⟩
    rw [hsource]
    refine ⟨?_, heading_raw.matchesWhole hregex⟩
    rintro ⟨tree, htree⟩
    exact heading_raw.sealed hregex (hbody htree)
  · intro regex hmethods
    have hregex := mapError_eq_ok_iff.1 hmethods
    have hsource := source_of_compile hregex
    rw [methodSource_eq] at hregex hsource
    rw [hsource]
    refine ⟨?_, heading_method.matchesWhole hregex⟩
    rintro ⟨tree, htree⟩
    exact heading_method.sealed hregex (hbody htree)

/-- Alternatives outside all groups of the text end up in the group that is put around it. -/
theorem anchored_matchesWhole_alternatives :
    (∃ e, Pattern.compile .builtIn ("@" ++ "/en|/fr") = .ok (.raw e) ∧ e.regex.MatchesWhole ∧
      (Matcher.raw e).params? "/fr" = some []) ∧
    ∃ regex, compileMethods "GET|POST" = .ok regex ∧ regex.MatchesWhole ∧
      regex.isMatch "post" = true := by
  constructor
  · have hfacts : (Pattern.compile .builtIn ("@" ++ "/en|/fr")).toOption.any (fun m =>
        m.params? "/fr" == some []) = true := by
      decide +kernel
    have hparse : (Regex.parse "/en|/fr").isOk = true := by decide +kernel
    obtain ⟨m, hm, hparams⟩ := exists_ok_of_any hfacts
    obtain ⟨e, rfl, hsealed, hwhole⟩ := (anchored_matchesWhole _ _).1 m hm
    exact ⟨e, hm, hwhole (hsealed (isOk_iff.1 hparse)), beq_iff_eq.1 hparams⟩
  · have hfacts : (compileMethods "GET|POST").toOption.any (·.isMatch "post") = true := by
      decide +kernel
    have hparse : (Regex.parse "GET|POST").isOk = true := by decide +kernel
    obtain ⟨regex, hregex, hmatch⟩ := exists_ok_of_any hfacts
    obtain ⟨hsealed, hwhole⟩ := (anchored_matchesWhole .builtIn _).2 regex hregex
    exact ⟨regex, hregex, hwhole (hsealed (isOk_iff.1 hparse)), hmatch⟩

theorem not_matchesWhole {regex : Regex} {text : String} {span : Nat × Nat}
    (h : (regex.captures? text).any (·.span? 0 == some span) = true)
    (hspan : span ≠ (0, text.toList.length)) : ¬regex.MatchesWhole := by
  intro hwhole
  obtain ⟨captures, hcaptures, hnoted⟩ := (Option.any_eq_true _ _).1 h
  have hall := hwhole text captures hcaptures
  rw [beq_iff_eq.1 hnoted] at hall
  exact hspan (Option.some.inj hall)

/-- The text closes the group around it, so the expression is a choice between two alternatives, and
each of them has only one of the anchors. A path of which only the beginning is asked for is
matched, and so is a method. -/
theorem not_matchesWhole_of_divided :
    (∃ e, Pattern.compile .builtIn ("@" ++ "/a)|(?:/b") = .ok (.raw e) ∧ ¬e.regex.MatchesWhole ∧
      (Matcher.raw e).params? "/ax" = some []) ∧
    ∃ regex, compileMethods "GET)|(?:POST" = .ok regex ∧ ¬regex.MatchesWhole ∧
      regex.isMatch "GETS" = true := by
  constructor
  · have hfacts : (Pattern.compile .builtIn ("@" ++ "/a)|(?:/b")).toOption.any (fun m =>
        m.params? "/ax" == some [] && m.expression?.all fun e =>
          (e.regex.captures? "/ax").any (·.span? 0 == some (0, 2))) = true := by
      decide +kernel
    obtain ⟨m, hm, hfacts⟩ := exists_ok_of_any hfacts
    obtain ⟨e, rfl, -⟩ := compile_raw_eq_ok hm
    obtain ⟨hparams, hspan⟩ := Bool.and_eq_true_iff.1 hfacts
    rw [Matcher.expression?, Option.all_some] at hspan
    exact ⟨e, hm, not_matchesWhole hspan (by decide), beq_iff_eq.1 hparams⟩
  · have hfacts : (compileMethods "GET)|(?:POST").toOption.any (fun regex =>
        regex.isMatch "GETS" && (regex.captures? "GETS").any (·.span? 0 == some (0, 3))) =
        true := by
      decide +kernel
    obtain ⟨regex, hregex, hfacts⟩ := exists_ok_of_any hfacts
    obtain ⟨hmatch, hspan⟩ := Bool.and_eq_true_iff.1 hfacts
    exact ⟨regex, hregex, not_matchesWhole hspan (by decide), hmatch⟩

end PathRouter
