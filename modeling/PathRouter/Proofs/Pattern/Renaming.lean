import PathRouter.Proofs.Pattern.Compilation
import Mathlib.Data.List.Forall2

/-!
# Names of placeholders

Two patterns that differ only in the names of their placeholders are compiled into the same
expression: its groups have numbers for names, and which placeholders have a number at all depends
only on which have a name. So they match the same paths and find the same values, each under the two
names of one placeholder.
-/

namespace PathRouter.Pattern

/-- Two placeholders that differ at most in their names and in where they stand. -/
structure Placeholder.Renamed (p q : Placeholder) : Prop where
  lead : p.lead = q.lead
  tag : p.tag = q.tag
  optional : p.optional = q.optional
  anonymous : p.isAnonymous = q.isAnonymous

/-- Two segments that differ at most in the names of placeholders. -/
inductive Segment.Renamed : Segment → Segment → Prop where
  | literal (text : List Char) : Renamed (.literal text) (.literal text)
  | placeholder {p q : Placeholder} : p.Renamed q → Renamed (.placeholder p) (.placeholder q)

/-- Two patterns that differ at most in the names of their placeholders. -/
abbrev Renamed : List Segment → List Segment → Prop := List.Forall₂ Segment.Renamed

instance (p q : Placeholder) : Decidable (p.Renamed q) :=
  decidable_of_iff (p.lead = q.lead ∧ p.tag = q.tag ∧ p.optional = q.optional ∧
      p.isAnonymous = q.isAnonymous)
    ⟨fun ⟨hlead, htag, hoptional, hanonymous⟩ => ⟨hlead, htag, hoptional, hanonymous⟩,
      fun h => ⟨h.lead, h.tag, h.optional, h.anonymous⟩⟩

instance : (segment segment' : Segment) → Decidable (segment.Renamed segment')
  | .literal text, .literal text' =>
    decidable_of_iff (text = text') ⟨fun h => h ▸ .literal text, fun h => by cases h; rfl⟩
  | .placeholder p, .placeholder q =>
    decidable_of_iff (p.Renamed q) ⟨.placeholder, fun h => by cases h; assumption⟩
  | .literal _, .placeholder _ => isFalse nofun
  | .placeholder _, .literal _ => isFalse nofun

/-! ## Expressions -/

theorem Placeholder.Renamed.source_eq {p q : Placeholder} (h : p.Renamed q) (types : TypeRegistry)
    (ordinal : Nat) : p.source types ordinal = q.source types ordinal := by
  unfold Placeholder.source
  rw [h.lead, h.tag, h.optional, h.anonymous]

/-- No name is left in the expression of a pattern. -/
theorem segmentsSource_renamed {segments segments' : List Segment} (h : Renamed segments segments')
    (types : TypeRegistry) (ordinal : Nat) :
    segmentsSource types ordinal segments = segmentsSource types ordinal segments' := by
  induction h generalizing ordinal with
  | nil => rfl
  | cons hfirst _ ih =>
      cases hfirst with
      | literal text => rw [segmentsSource, segmentsSource, ih]
      | placeholder hp =>
          rw [segmentsSource, segmentsSource, hp.source_eq, hp.anonymous, ih]

theorem expressionSource_renamed {segments segments' : List Segment}
    (h : Renamed segments segments') (types : TypeRegistry) :
    expressionSource types segments = expressionSource types segments' := by
  rw [expressionSource, expressionSource, segmentsSource_renamed h]

theorem headText_renamed {segments segments' : List Segment} (h : Renamed segments segments') :
    headText segments = headText segments' := by
  cases h with
  | nil => rfl
  | cons hfirst _ => cases hfirst <;> rfl

/-! ## Parameters -/

/-- Two names belong to the placeholders at one place of two patterns. -/
def Paired (segments segments' : List Segment) (name name' : String) : Prop :=
  ∃ (place : Nat) (p q : Placeholder), segments[place]? = some (.placeholder p) ∧
    segments'[place]? = some (.placeholder q) ∧ p.isAnonymous = false ∧ q.isAnonymous = false ∧
    name = p.name ∧ name' = q.name

/-- Two answers to one path are none, or have as many parameters with the same values in the same
order, each under the names of one placeholder. -/
abbrev RenamedParams (segments segments' : List Segment) : Option Params → Option Params → Prop :=
  Option.Rel (List.Forall₂ fun param param' =>
    Paired segments segments' param.1 param'.1 ∧ param.2 = param'.2)

theorem Paired.cons {segments segments' : List Segment} {name name' : String}
    (h : Paired segments segments' name name') (first first' : Segment) :
    Paired (first :: segments) (first' :: segments') name name' := by
  obtain ⟨place, p, q, hp, hq, hnames⟩ := h
  exact ⟨place + 1, p, q, hp, hq, hnames⟩

theorem paired_parameterNames {segments segments' : List Segment} (h : Renamed segments segments') :
    List.Forall₂ (Paired segments segments') (parameterNames segments)
      (parameterNames segments') := by
  induction h with
  | nil => exact .nil
  | @cons first first' segments segments' hfirst _ ih =>
      have hlater := ih.imp fun _ _ hpaired => hpaired.cons first first'
      cases hfirst with
      | literal text => exact hlater
      | @placeholder p q hp =>
          have hanonymous := hp.anonymous
          cases hq : q.isAnonymous with
          | true =>
              rw [hq] at hanonymous
              rw [parameterNames_of_anonymous hanonymous, parameterNames_of_anonymous hq]
              exact hlater
          | false =>
              rw [hq] at hanonymous
              rw [parameterNames_of_named hanonymous, parameterNames_of_named hq]
              exact .cons ⟨0, p, q, rfl, rfl, hanonymous, hq, rfl, rfl⟩ hlater

section Parameters
variable {α β : Type} {R : String → String → Prop}

theorem rel_getElem? {names names' : List String} (h : List.Forall₂ R names names') (k : Nat) :
    Option.Rel R names[k]? names'[k]? := by
  induction h generalizing k with
  | nil => exact .none
  | cons hname _ ih =>
      cases k with
      | zero => exact .some hname
      | succ k => exact ih k

/-- Which groups are slots depends on the number of the names only. -/
theorem rel_placeholderSlots {names names' : List String} (h : List.Forall₂ R names names')
    (groups : List (Nat × String)) :
    List.Forall₂ (fun slot slot' => R slot.1 slot'.1 ∧ slot.2 = slot'.2)
      (placeholderSlots names groups) (placeholderSlots names' groups) := by
  apply List.rel_filterMap (R := Eq) _ (List.forall₂_refl groups)
  rintro ⟨index, group⟩ _ rfl
  dsimp only
  cases groupOrdinal? group.toList with
  | none => exact .none
  | some ordinal =>
      have hname := rel_getElem? h ordinal
      change Option.Rel _ (names[ordinal]?.bind fun name => some (name, index))
        (names'[ordinal]?.bind fun name => some (name, index))
      generalize names[ordinal]? = name? at hname
      generalize names'[ordinal]? = name'? at hname
      cases hname with
      | none => exact .none
      | some hname => exact .some ⟨hname, rfl⟩

/-- With one expression, the values of paired slots are the same. -/
theorem rel_params? {e e' : Expression} (hregex : e.regex = e'.regex)
    (h : List.Forall₂ (fun slot slot' => R slot.1 slot'.1 ∧ slot.2 = slot'.2) e.slots e'.slots)
    (path : String) :
    Option.Rel (List.Forall₂ fun param param' => R param.1 param'.1 ∧ param.2 = param'.2)
      (e.params? path) (e'.params? path) := by
  rw [Expression.params?, Expression.params?, hregex]
  cases e'.regex.captures? path with
  | none => exact .none
  | some captures =>
      refine .some (List.rel_filterMap ?_ h)
      rintro ⟨name, index⟩ ⟨name', _⟩ ⟨hname, rfl⟩
      dsimp only
      cases captures.span? index with
      | none => exact .none
      | some span => exact .some ⟨hname, rfl⟩

theorem rel_orElse {S : α → β → Prop} {a b : Option α} {a' b' : Option β} (h : Option.Rel S a a')
    (h' : Option.Rel S b b') : Option.Rel S (a <|> b) (a' <|> b') := by
  cases h with
  | none => exact h'
  | some hvalue => exact .some hvalue

/-- Two matchers with the same expression and the same head, whose slots are paired. -/
theorem rel_matcher_params? {e e' : Expression} (hregex : e.regex = e'.regex)
    (hhead : e.head = e'.head)
    (h : List.Forall₂ (fun slot slot' => R slot.1 slot'.1 ∧ slot.2 = slot'.2) e.slots e'.slots)
    (path : String) :
    Option.Rel (List.Forall₂ fun param param' => R param.1 param'.1 ∧ param.2 = param'.2)
      ((Matcher.placeholders e).params? path) ((Matcher.placeholders e').params? path) := by
  rw [Matcher.params?, Matcher.params?, hhead]
  split
  · apply rel_orElse (rel_params? hregex h path)
    split
    · exact rel_params? hregex h ""
    · exact .none
  · exact .none

end Parameters

/-! ## Matchers -/

/-- Patterns that differ only in the names of their placeholders are refused for the same fault of
their expression, or are compiled into the same expression with the same head. Then they match the
same paths, with the same values in the same order, each under the names of one placeholder. The
expressions alone do so too. -/
theorem compile_renamed {types : TypeRegistry} {pattern pattern' : String}
    {segments segments' : List Segment} (hbrackets : hasPlaceholders pattern = true)
    (hbrackets' : hasPlaceholders pattern' = true) (hraw : pattern.toList.head? ≠ some '@')
    (hraw' : pattern'.toList.head? ≠ some '@') (hscan : Segment.scan pattern = .ok segments)
    (hscan' : Segment.scan pattern' = .ok segments') (h : Renamed segments segments') :
    (∃ cause, compile types pattern = .error (.expression cause) ∧
      compile types pattern' = .error (.expression cause)) ∨
    ∃ e e', compile types pattern = .ok (.placeholders e) ∧
      compile types pattern' = .ok (.placeholders e') ∧ e.regex = e'.regex ∧ e.head = e'.head ∧
      ∀ path, RenamedParams segments segments' (e.params? path) (e'.params? path) ∧
        RenamedParams segments segments' ((Matcher.placeholders e).params? path)
          ((Matcher.placeholders e').params? path) := by
  rw [compile_of_hasPlaceholders hbrackets hraw, compile_of_hasPlaceholders hbrackets' hraw', hscan,
    hscan']
  simp only [Except.mapError, bind, Except.bind, pure, Except.pure, compileExpression,
    ← expressionSource_renamed h]
  cases Regex.compile (expressionSource types segments) with
  | error cause => exact .inl ⟨cause, rfl, rfl⟩
  | ok regex =>
      let e : Expression := ⟨regex, placeholderSlots (parameterNames segments) regex.namedGroups,
        headText segments⟩
      let e' : Expression := ⟨regex, placeholderSlots (parameterNames segments') regex.namedGroups,
        headText segments'⟩
      have hregex : e.regex = e'.regex := rfl
      have hhead : e.head = e'.head := headText_renamed h
      have hslots := rel_placeholderSlots (paired_parameterNames h) regex.namedGroups
      exact .inr ⟨e, e', rfl, rfl, hregex, hhead, fun path =>
        ⟨rel_params? hregex hslots path, rel_matcher_params? hregex hhead hslots path⟩⟩

/-- A digit, a dot and a colon in a name, a name that occurs twice, and one that is a group's. -/
theorem compile_renamed_digits :
    ∃ segments segments', Segment.scan "/u/[i:id]/[i:][h:0]?.[:__bkt0]" = .ok segments ∧
      Segment.scan "/u/[i:x.1:y]/[i:][h:z]?.[:z]" = .ok segments' ∧ Renamed segments segments' ∧
      ∃ e e', compile .builtIn "/u/[i:id]/[i:][h:0]?.[:__bkt0]" = .ok (.placeholders e) ∧
        compile .builtIn "/u/[i:x.1:y]/[i:][h:z]?.[:z]" = .ok (.placeholders e') ∧
        e.regex = e'.regex ∧
        (Matcher.placeholders e).params? "/u/12/345.a" = some [("id", "12"), ("__bkt0", "a")] ∧
        RenamedParams segments segments' (some [("id", "12"), ("__bkt0", "a")])
          ((Matcher.placeholders e').params? "/u/12/345.a") := by
  have hscanned : (Segment.scan "/u/[i:id]/[i:][h:0]?.[:__bkt0]").toOption.any (fun segments =>
      (Segment.scan "/u/[i:x.1:y]/[i:][h:z]?.[:z]").toOption.any fun segments' =>
        decide (Renamed segments segments')) = true := by
    decide +kernel
  have hcompiled : (compile .builtIn "/u/[i:id]/[i:][h:0]?.[:__bkt0]").toOption.any (fun m =>
      m.params? "/u/12/345.a" == some [("id", "12"), ("__bkt0", "a")]) = true := by
    decide +kernel
  obtain ⟨segments, hscan, hscanned⟩ := exists_ok_of_any hscanned
  obtain ⟨segments', hscan', hrenamed⟩ := exists_ok_of_any hscanned
  obtain ⟨m, hm, hparams⟩ := exists_ok_of_any hcompiled
  have hrenamed := of_decide_eq_true hrenamed
  refine ⟨segments, segments', hscan, hscan', hrenamed, ?_⟩
  rcases @compile_renamed .builtIn _ _ _ _ (by decide) (by decide) (by decide) (by decide) hscan
    hscan' hrenamed with ⟨cause, herror, -⟩ | ⟨e, e', he, he', hregex, -, hrel⟩
  · cases hm.symm.trans herror
  · obtain rfl := Except.ok.inj (hm.symm.trans he)
    have hparams := beq_iff_eq.1 hparams
    exact ⟨e, e', he, he', hregex, hparams, hparams ▸ (hrel "/u/12/345.a").2⟩

end PathRouter.Pattern
