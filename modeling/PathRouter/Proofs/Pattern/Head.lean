import PathRouter.Proofs.Pattern.Canonical
import PathRouter.Proofs.Pattern.Compilation
import PathRouter.Proofs.Regex.Levels
import PathRouter.Proofs.Regex.Opening

/-!
# The text before the first placeholder

A path that does not begin with the text before the first placeholder is refused before its
expression is asked. No match is lost by that as long as the expression is not divided by a bar
outside all of its groups: it then begins with the anchor for the beginning and with that text. The
expressions that placeholders stand for are put into the expression as they are, so one of them can
close the groups around it and divide the expression, and then matches are lost.
-/

namespace PathRouter.Pattern

open Regex (Expr Term Undivided readText)

/-- The parameters of a path, or else of the empty path in place of the root, whatever the path
begins with. -/
def Expression.rootedParams? (e : Expression) (path : String) : Option Params :=
  e.params? path <|> if path = "/" then e.params? "" else none

/-- A path matches, or it is the root and the empty path matches. -/
def Expression.Accepts (e : Expression) (path : String) : Prop :=
  e.regex.isMatch path = true ∨ path = "/" ∧ e.regex.isMatch "" = true

theorem Expression.accepts_of_rootedParams? {e : Expression} {path : String} {params : Params}
    (h : e.rootedParams? path = some params) : e.Accepts path := by
  have hmatch {text : String} {params : Params} (h : e.params? text = some params) :
      e.regex.isMatch text = true := by
    obtain ⟨captures, hcaptures, -⟩ := Option.map_eq_some_iff.1 h
    exact Option.isSome_iff_exists.2 ⟨captures, hcaptures⟩
  cases hpath : e.params? path with
  | some _ => exact .inl (hmatch hpath)
  | none =>
      rw [rootedParams?, hpath] at h
      change (if path = "/" then e.params? "" else none) = some params at h
      split at h
      · next hroot => exact .inr ⟨hroot, hmatch h⟩
      · cases h

/-- If literal text comes first in a pattern with placeholders, a placeholder stands behind it. -/
theorem placeholder_behind_literal {pattern : String} {text : List Char} {rest : List Segment}
    (hbrackets : hasPlaceholders pattern = true)
    (hscan : Segment.scan pattern = .ok (.literal text :: rest)) :
    ∃ p later, rest = .placeholder p :: later := by
  obtain ⟨hliteral, hnext, -⟩ := Segment.canonical_cons_iff.1 (Segment.canonical_scan hscan)
  match rest with
  | [] =>
      have htext : text = pattern.toList := by
        rw [← Segment.textOf_scan hscan]
        exact (List.append_nil text).symm
      have hmem : '[' ∈ text := by
        rw [htext]
        exact List.contains_iff_mem.1 hbrackets
      exact absurd hmem hliteral.2
  | .literal _ :: _ => exact (hnext _ rfl).elim
  | .placeholder p :: later => exact ⟨p, later, rfl⟩

section Reading
open Regex.Parser Text

/-- The anchor and literal text are read outside all groups, and then a group is opened. -/
theorem consume_head (types : TypeRegistry) (text : List Char) (p : Placeholder)
    (later : List Segment) :
    ∃ rest, consume step 0 .initial
        (expressionSource types (.literal text :: .placeholder p :: later)).toList =
      consume step 0 (outside (.opened (.plain []))
        [(Level.opened (.plain [])).add (.anchor .lineStart :: literalExprs text)] 0 []) rest := by
  have hopening : '^' :: (Regex.escapeChars text ++ "(?:".toList) <+:
      '^' :: segmentsSource types 0 (.literal text :: .placeholder p :: later) ++ ['$'] := by
    rw [segmentsSource, segmentsSource, List.cons_append, List.append_assoc, List.append_assoc,
      source_append, ← List.append_assoc, List.cons_prefix_cons]
    exact ⟨rfl, List.prefix_append _ _⟩
  obtain ⟨rest, hsource⟩ := hopening
  refine ⟨rest, ?_⟩
  rw [expressionSource, String.toList_ofList, ← hsource, List.cons_append, List.append_assoc]
  change consume step 0 (outside (.opened (.plain [])) [] 0 []) _ = _
  rw [consume_lineStart, consume_escapeChars, Level.add_add, consume_openPlain]
  rfl

/-- Unless it is divided, the expression of a pattern begins with the anchor and the literal text
that comes first. -/
theorem parse_head {types : TypeRegistry} {text : List Char} {p : Placeholder}
    {later : List Segment}
    (hwhole : Undivided (expressionSource types (.literal text :: .placeholder p :: later)))
    {e : Expr}
    (h : Regex.parse (expressionSource types (.literal text :: .placeholder p :: later)) = .ok e) :
    ∃ more, e = .ofItems (.anchor .lineStart :: literalExprs text ++ more) := by
  obtain ⟨rest, hread⟩ := consume_head types text p later
  refine Regex.parse_begins hwhole ?_ hread h
  apply begins_cons_cons_iff.2
  rintro whole hwhole -
  obtain rfl := Option.some.inj hwhole
  exact ⟨[], by simp [Level.add, Level.opened]⟩

end Reading

/-- The term of an expression that begins with the anchor and literal text begins with them too. -/
theorem prefix_items_of_term {text : List Char} {more : List Expr} {t : Term} {g : Regex.Flags}
    (h : (Expr.ofItems (.anchor .lineStart :: literalExprs text ++ more)).term .default =
      .ok (t, g)) : .look .textStart :: readText text <+: t.items := by
  obtain ⟨ts, hts, rfl⟩ := Regex.term_ofItems_eq_ok_iff.1 h
  have hstart : Expr.terms .default [.anchor .lineStart] = .ok ([.look .textStart], .default) :=
    rfl
  obtain ⟨first, _, us, hfirst, -, rfl⟩ := Regex.terms_append_eq_ok_iff.1 hts
  obtain ⟨rfl, rfl⟩ := Prod.mk.inj (Except.ok.inj
    (hfirst.symm.trans (terms_append hstart (terms_literalExprs text))))
  have hread : (readText text).flatMap Term.items = readText text := by
    rw [readText, List.flatMap_map]
    exact List.map_eq_flatMap.symm
  rw [Term.items_concat, List.flatMap_append]
  change .look .textStart :: readText text <+:
    .look .textStart :: (readText text).flatMap Term.items ++ us.flatMap Term.items
  rw [hread]
  exact List.prefix_append _ _

/-- What is compiled from such an expression matches only texts that begin with the literal text. -/
theorem prefix_of_isMatch {types : TypeRegistry} {text : List Char} {p : Placeholder}
    {later : List Segment}
    (hwhole : Undivided (expressionSource types (.literal text :: .placeholder p :: later)))
    {regex : Regex}
    (h : Regex.compile (expressionSource types (.literal text :: .placeholder p :: later)) =
      .ok regex) {path : String} (hmatch : regex.isMatch path = true) : text <+: path.toList := by
  obtain ⟨e, t, flags, hparse, hterm, rfl⟩ := Regex.compile_eq_ok h
  obtain ⟨more, rfl⟩ := parse_head hwhole hparse
  have hatoms : ∀ u ∈ Term.look .textStart :: readText text, u.IsAtom := by
    simp [readText, Term.IsAtom]
  have hitems := Term.prefix_items_number hatoms (prefix_items_of_term hterm) 0
  exact Regex.prefix_of_search hitems (Option.isSome_iff_ne_none.1 hmatch)

/-! ## Matchers -/

/-- From what an expression with placeholders was compiled. -/
theorem compile_eq_placeholders {types : TypeRegistry} {pattern : String} {e : Expression}
    (h : compile types pattern = .ok (.placeholders e)) :
    hasPlaceholders pattern = true ∧ ∃ segments, Segment.scan pattern = .ok segments ∧
      Regex.compile (expressionSource types segments) = .ok e.regex ∧
      e.slots = placeholderSlots (parameterNames segments) e.regex.namedGroups ∧
      e.head = headText segments := by
  unfold compile at h
  split at h
  · cases h
  · obtain ⟨regex, -, hm⟩ := bind_eq_ok_iff.1 h
    cases hm
  · split at h
    · next hbrackets =>
        simp only [bind_eq_ok_iff, pure_eq_ok_iff, mapError_eq_ok_iff] at h
        obtain ⟨segments, hscan, regex, hregex, hm⟩ := h
        obtain rfl := Matcher.placeholders.inj hm
        exact ⟨hbrackets, segments, hscan, mapError_eq_ok_iff.1 hregex, rfl, rfl⟩
    · cases h

/-- A path that an undivided expression accepts begins with the text before the first
placeholder. -/
theorem head_of_accepts {types : TypeRegistry} {pattern : String} {e : Expression}
    (h : compile types pattern = .ok (.placeholders e)) (hwhole : Undivided e.regex.source)
    {path : String} (haccepts : e.Accepts path) : e.head.toList <+: path.toList := by
  obtain ⟨hbrackets, segments, hscan, hregex, -, hhead⟩ := compile_eq_placeholders h
  have hsource : e.regex.source = expressionSource types segments := by
    obtain ⟨_, _, _, -, -, heq⟩ := Regex.compile_eq_ok hregex
    rw [heq]
  rw [hsource] at hwhole
  rw [hhead]
  have hnoText : "".toList <+: path.toList := by simp
  cases segments with
  | nil => exact hnoText
  | cons segment rest =>
      cases segment with
      | placeholder _ => exact hnoText
      | literal text =>
          obtain ⟨p, later, rfl⟩ := placeholder_behind_literal hbrackets hscan
          rw [headText, String.toList_ofList]
          rcases haccepts with hpath | ⟨-, hempty⟩
          · exact prefix_of_isMatch hwhole hregex hpath
          · have hnil : text = [] := List.prefix_nil.1 (prefix_of_isMatch hwhole hregex hempty)
            rw [hnil]
            exact List.nil_prefix

/-- Built-in classes divide nothing. -/
theorem undivided_of_builtIn {types : TypeRegistry} {segments : List Segment}
    (h : BuiltIn types segments) : Undivided (expressionSource types segments) := by
  have hsequence (es branches : List Expr) :
      Expr.ofItems (.anchor .lineStart :: es ++ [.anchor .lineEnd]) ≠ .alternatives branches := by
    cases es <;> exact Expr.noConfusion
  intro branches hbranches
  rw [parse_expressionSource h] at hbranches
  exact hsequence _ _ (Except.ok.inj hbranches)

/-- If the expression of a pattern is not divided, no match is lost by looking at the text before
the first placeholder: a path is given the parameters that it would be given without that, and all
paths that the expression accepts begin with that text. -/
theorem params?_of_undivided {types : TypeRegistry} {pattern : String} {e : Expression}
    (h : compile types pattern = .ok (.placeholders e)) (hwhole : Undivided e.regex.source)
    (path : String) :
    (Matcher.placeholders e).params? path = e.rootedParams? path ∧
      (e.Accepts path → e.head.toList <+: path.toList) := by
  refine ⟨?_, head_of_accepts h hwhole⟩
  rw [Matcher.params?]
  split
  · rfl
  · next hhead =>
      cases hparams : e.rootedParams? path with
      | none => rfl
      | some params =>
          have haccepts := Expression.accepts_of_rootedParams? hparams
          exact absurd (List.isPrefixOf_iff_prefix.2 (head_of_accepts h hwhole haccepts)) hhead

/-- The expression of a pattern with placeholders, if it can be compiled. -/
def compiledExpression? (types : TypeRegistry) (pattern : String) : Option Expression :=
  match compile types pattern with
  | .ok (.placeholders e) => some e
  | _ => none

theorem compiledExpression?_eq_some_iff {types : TypeRegistry} {pattern : String}
    {e : Expression} :
    compiledExpression? types pattern = some e ↔ compile types pattern = .ok (.placeholders e) := by
  unfold compiledExpression?
  split
  · next e' hcompile => simp [hcompile]
  · next hother => exact iff_of_false (Option.some_ne_none e).symm (hother e)

/-- A choice between two words within its group does not divide the expression. -/
theorem params?_of_undivided_language :
    ∃ e, compile .builtIn "/x[en|fr:lang]" = .ok (.placeholders e) ∧
      Undivided e.regex.source ∧ e.head = "/x" ∧
      (Matcher.placeholders e).params? "/xfr" = some [("lang", "fr")] := by
  have hfacts : (compiledExpression? .builtIn "/x[en|fr:lang]").any (fun e =>
      !Regex.isDivided e.regex.source && e.head == "/x" &&
        e.rootedParams? "/xfr" == some [("lang", "fr")]) = true := by
    decide +kernel
  obtain ⟨e, he, hfacts⟩ := (Option.any_eq_true _ _).1 hfacts
  simp only [Bool.and_eq_true, Bool.not_eq_true', beq_iff_eq] at hfacts
  obtain ⟨⟨hwhole, hhead⟩, hparams⟩ := hfacts
  have hcompile := compiledExpression?_eq_some_iff.1 he
  have hundivided : Undivided e.regex.source := Regex.undivided_iff.2 hwhole
  refine ⟨e, hcompile, hundivided, hhead, ?_⟩
  rw [(params?_of_undivided hcompile hundivided "/xfr").1, hparams]

/-- The text of the placeholder closes the groups around it, so the expression is a choice between
two alternatives, and the second one need not begin with the text before the placeholder. A path
that it matches is refused. -/
theorem params?_of_divided :
    ∃ e, compile .builtIn "/x[a))|((b:n]" = .ok (.placeholders e) ∧
      e.regex.source = "^/x(?:(?P<__bkt0>a))|((b))$" ∧ e.rootedParams? "/b" = some [] ∧
      e.Accepts "/b" ∧ ¬e.head.toList <+: "/b".toList ∧
      (Matcher.placeholders e).params? "/b" = none := by
  have hfacts : (compiledExpression? .builtIn "/x[a))|((b:n]").any (fun e =>
      e.regex.source == "^/x(?:(?P<__bkt0>a))|((b))$" &&
        e.rootedParams? "/b" == some [] && !e.head.toList.isPrefixOf "/b".toList) = true := by
    decide +kernel
  obtain ⟨e, he, hfacts⟩ := (Option.any_eq_true _ _).1 hfacts
  simp only [Bool.and_eq_true, Bool.not_eq_true', beq_iff_eq] at hfacts
  obtain ⟨⟨hsource, hparams⟩, hhead⟩ := hfacts
  refine ⟨e, compiledExpression?_eq_some_iff.1 he, hsource, hparams,
    Expression.accepts_of_rootedParams? hparams, ?_, ?_⟩
  · rwa [← List.isPrefixOf_iff_prefix, Bool.not_eq_true]
  · rw [Matcher.params?, hhead]
    rfl

end PathRouter.Pattern
