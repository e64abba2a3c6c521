import PathRouter.Proofs.Pattern.Head
import PathRouter.Proofs.Regex.Groups

/-!
# One slot for each name

The parameters of a pattern are found again by the names of groups, and what a placeholder stands
for may have groups and names of its own. If it is an expression by itself, it is read within the
group of its placeholder, and its own groups come after that group. So there is one slot for each
parameter, in order, unless one of these names can be read as the number of a parameter: zeros or a
plus sign before the digits make further names for the same number.
-/

namespace PathRouter.Pattern

open Regex (Expr Term GroupKind Standalone)

/-! ## What placeholders stand for -/

/-- No name of a group can be read as the number of one of `count` parameters. -/
def Foreign (count : Nat) (groups : List (Nat × Option String)) : Prop :=
  ∀ g ∈ groups, ∀ name ∈ g.2, ∀ ordinal ∈ groupOrdinal? name.toList, count ≤ ordinal

instance (count : Nat) (groups : List (Nat × Option String)) : Decidable (Foreign count groups) :=
  inferInstanceAs (Decidable (∀ g ∈ groups, ∀ name ∈ g.2, ∀ ordinal ∈ groupOrdinal? name.toList,
    count ≤ ordinal))

/-- The expression is one by itself, and its groups have no names of parameters. -/
structure Contained (count : Nat) (fragment : String) : Prop where
  standalone : Standalone fragment.toList
  foreign : ∀ e, Regex.parse fragment = .ok e → Foreign count e.groups

instance (count : Nat) (fragment : String) : Decidable (Contained count fragment) :=
  decidable_of_iff (Standalone fragment.toList ∧
      ∀ e ∈ (Regex.parse fragment).toOption, Foreign count e.groups) (by
    constructor
    · rintro ⟨hstandalone, hforeign⟩
      refine ⟨hstandalone, fun e he => hforeign e ?_⟩
      rw [he]
      rfl
    · intro h
      refine ⟨h.standalone, fun e he => h.foreign e ?_⟩
      cases hparse : Regex.parse fragment with
      | ok e' =>
          rw [hparse] at he
          rw [Option.some.inj he]
      | error _ =>
          rw [hparse] at he
          cases he)

/-- All placeholders stand for contained expressions. -/
def AllContained (types : TypeRegistry) (count : Nat) (segments : List Segment) : Prop :=
  ∀ p, .placeholder p ∈ segments → Contained count (types.resolve p.tag).fragment

instance (types : TypeRegistry) (count : Nat) (segments : List Segment) :
    Decidable (AllContained types count segments) :=
  decidable_of_iff (∀ p ∈ Segment.placeholders segments,
    Contained count (types.resolve p.tag).fragment)
    (forall_congr' fun _ => imp_congr Segment.mem_placeholders_iff Iff.rfl)

theorem AllContained.tail {types : TypeRegistry} {count : Nat} {segment : Segment}
    {segments : List Segment} (h : AllContained types count (segment :: segments)) :
    AllContained types count segments :=
  fun p hp => h p (List.mem_cons_of_mem _ hp)

/-- Built-in classes have no groups. -/
theorem ValueClass.contained_fragment (k : ValueClass) (count : Nat) :
    Contained count k.fragment where
  standalone := by cases k <;> decide +kernel
  foreign := fun e he => by
    have hgroups : (Regex.parse k.fragment).toOption.any (·.groups.isEmpty) = true := by
      cases k <;> decide +kernel
    obtain ⟨e', he', hempty⟩ := exists_ok_of_any hgroups
    obtain rfl := Except.ok.inj (he.symm.trans he')
    rw [List.isEmpty_iff.1 hempty]
    nofun

theorem allContained_of_builtIn {types : TypeRegistry} {segments : List Segment}
    (h : BuiltIn types segments) (count : Nat) : AllContained types count segments := by
  intro p hp
  obtain ⟨k, hk⟩ := ValueClass.mem_builtInTypes_iff.1 (h p hp)
  rw [ValueClass.ofFragment?_eq_some_iff.1 hk]
  exact k.contained_fragment count

/-! ## Reading -/

namespace Placeholder

/-- The kind of the group for the value of a placeholder, before which `n` groups stand. -/
def kindAt (p : Placeholder) (ordinal n : Nat) : GroupKind :=
  if p.isAnonymous then .plain [] else .capture (n + 1) (some (String.ofList (groupName ordinal)))

/-- The syntax tree of a placeholder whose value has the tree `value`. -/
def surround (p : Placeholder) (value : Expr) : Expr :=
  let required := .group (.plain []) (.ofItems (literalExprs p.lead.text ++ [value]))
  if p.optional then .repetition 0 (some 1) false required else required

end Placeholder

/-- The items that segments are read as: each placeholder is a group around what it stands for, the
groups of which are numbered behind this one. -/
inductive Laid (types : TypeRegistry) : Nat → List Segment → List Expr → Prop
  | nil (ordinal : Nat) : Laid types ordinal [] []
  | literal {ordinal : Nat} (text : List Char) {segments : List Segment} {es : List Expr} :
    Laid types ordinal segments es →
    Laid types ordinal (.literal text :: segments) (literalExprs text ++ es)
  | placeholder {ordinal : Nat} (n : Nat) (p : Placeholder) {value : Expr}
    {segments : List Segment} {es : List Expr} :
    Regex.parse (types.resolve p.tag).fragment = .ok value →
    Laid types (p.nextOrdinal ordinal) segments es →
    Laid types ordinal (.placeholder p :: segments)
      (p.surround (.group (p.kindAt ordinal n) (value.shift (p.nextOrdinal n))) :: es)

section Reading
open Regex.Parser Text
variable (level : Level) (outer : List Level)

/-- If the expression is read, the group for a value is opened, and no other group has its name. -/
theorem consume_valueGroup_of_ok (p : Placeholder) {ordinal n : Nat} {names : List String}
    {text : List Char} {v : State}
    (h : consume step 0 (outside level outer n names)
      (valueGroup p.isAnonymous ordinal ++ text) = .ok v) :
    ∃ names', consume step 0 (outside (.opened (p.kindAt ordinal n)) (level :: outer)
      (p.nextOrdinal n) names') text = .ok v := by
  cases hp : p.isAnonymous with
  | true =>
      rw [hp] at h
      refine ⟨names, ?_⟩
      simp only [Placeholder.kindAt, Placeholder.nextOrdinal, hp, if_true]
      rw [← consume_openPlain]
      exact h
  | false =>
      refine ⟨String.ofList (groupName ordinal) :: names, ?_⟩
      simp only [Placeholder.kindAt, Placeholder.nextOrdinal, hp]
      have hname := isGroupName_groupName ordinal
      have hend := not_mem_groupName ordinal
      have hnamed : consume step 0 (outside level outer n names)
          ("(?P<".toList ++ (groupName ordinal ++ '>' :: text)) = .ok v := by
        simpa [valueGroup, groupName, hp] using h
      by_cases htaken : String.ofList (groupName ordinal) ∈ names
      · rw [consume_openNamed_taken level outer n names hname hend htaken] at hnamed
        cases hnamed
      · rwa [consume_openNamed level outer n names hname hend htaken] at hnamed

/-- A placeholder is read as a group around what it stands for. -/
theorem consume_contained {types : TypeRegistry} {p : Placeholder}
    (h : Standalone (types.resolve p.tag).fragment.toList) :
    ∃ value, Regex.parse (types.resolve p.tag).fragment = .ok value ∧
      ∀ (level : Level) (outer : List Level) (ordinal n : Nat) (names : List String)
        (text : List Char) (v : State), text.head? ≠ some '?' →
        consume step 0 (outside level outer n names) (p.source types ordinal ++ text) = .ok v →
        ∃ n' names', consume step 0 (outside (level.add
          [p.surround (.group (p.kindAt ordinal n) (value.shift (p.nextOrdinal n)))]) outer n'
          names') text = .ok v := by
  obtain ⟨value, groups, added, hvalue, hread⟩ := Regex.consume_standalone h
  rw [String.ofList_toList] at hvalue
  refine ⟨value, hvalue, ?_⟩
  intro level outer ordinal n names text v htext hsource
  rw [source_append, consume_openPlain, consume_escapeChars] at hsource
  obtain ⟨names', hgroup⟩ := consume_valueGroup_of_ok _ _ p hsource
  have hclosed := hread _ _ _ _ _ (')' :: ((if p.optional then ['?'] else []) ++ text)) v hgroup
  rw [consume_close _ _ _ _ rfl, Level.add_add, Level.expr_add_opened] at hclosed
  refine ⟨p.nextOrdinal n + groups, added ++ names', ?_⟩
  unfold Placeholder.surround
  cases hp : p.optional with
  | false =>
      rw [hp] at hclosed
      exact hclosed
  | true =>
      rw [hp] at hclosed
      rw [if_pos rfl, ← consume_optional level outer _ _ (fun _ => Expr.noConfusion) htext]
      exact hclosed

/-- Segments whose placeholders stand for contained expressions are read one after the other. -/
theorem consume_laid {types : TypeRegistry} {segments : List Segment}
    (h : ∀ p, .placeholder p ∈ segments → Standalone (types.resolve p.tag).fragment.toList)
    {ordinal n : Nat} {names : List String} {text : List Char} (htext : text.head? ≠ some '?')
    {v : State} (hread : consume step 0 (outside level outer n names)
      (segmentsSource types ordinal segments ++ text) = .ok v) :
    ∃ es n' names', Laid types ordinal segments es ∧
      consume step 0 (outside (level.add es) outer n' names') text = .ok v := by
  induction segments generalizing level ordinal n names with
  | nil => exact ⟨[], n, names, .nil ordinal, hread⟩
  | cons segment segments ih =>
      have htail := fun p hp => h p (List.mem_cons_of_mem segment hp)
      cases segment with
      | literal literal =>
          rw [segmentsSource, List.append_assoc, consume_escapeChars] at hread
          obtain ⟨es, n', names', hlaid, hrest⟩ := ih (level.add (literalExprs literal)) htail hread
          rw [Level.add_add] at hrest
          exact ⟨_, n', names', .literal literal hlaid, hrest⟩
      | placeholder p =>
          obtain ⟨value, hvalue, hplaceholder⟩ := consume_contained (h p List.mem_cons_self)
          have hhead := head?_append_ne
            (head?_segmentsSource types (p.nextOrdinal ordinal) segments) htext
          rw [segmentsSource, List.append_assoc] at hread
          obtain ⟨n', names', hbehind⟩ := hplaceholder level outer ordinal n names _ v hhead hread
          obtain ⟨es, n'', names'', hlaid, hrest⟩ := ih _ htail hbehind
          rw [Level.add_add] at hrest
          exact ⟨_, n'', names'', .placeholder n p hvalue hlaid, hrest⟩

/-- The expression of a pattern is what its segments are read as, between the two anchors. -/
theorem parse_laid {types : TypeRegistry} {segments : List Segment}
    (h : ∀ p, .placeholder p ∈ segments → Standalone (types.resolve p.tag).fragment.toList)
    {e : Expr} (hparse : Regex.parse (expressionSource types segments) = .ok e) :
    ∃ es, Laid types 0 segments es ∧
      e = .ofItems ([.anchor .lineStart] ++ es ++ [.anchor .lineEnd]) := by
  obtain ⟨v, hread, -, -, rfl⟩ := Regex.parse_eq_ok hparse
  have hsource : consume step 0 (outside (.opened (.plain [])) [] 0 [])
      ('^' :: (segmentsSource types 0 segments ++ ['$'])) = .ok v := by
    rw [expressionSource, String.toList_ofList] at hread
    exact hread
  rw [consume_lineStart] at hsource
  obtain ⟨es, n, names, hlaid, hrest⟩ := consume_laid _ _ h (by decide) hsource
  rw [consume_lineEnd, Level.add_add, Level.add_add, consume_nil] at hrest
  obtain rfl := Except.ok.inj hrest
  exact ⟨es, hlaid, Level.expr_add_opened (.plain []) _⟩

end Reading

/-! ## Groups -/

theorem groups_of_literalExprs {text : List Char} {f g : Regex.Flags} {ts : List Term}
    (h : Expr.terms f (literalExprs text) = .ok (ts, g)) : ts.flatMap Term.groups = [] := by
  have hgroups : Expr.groupsAll (literalExprs text) = [] := by
    simp [Expr.groupsAll_eq, literalExprs, List.flatMap_map, Expr.groups]
  have hsubset := Expr.groups_of_terms h
  rw [hgroups] at hsubset
  exact List.subset_nil.1 hsubset

/-- The first group of a placeholder is the one for its value, and behind it come only groups of
what the placeholder stands for. -/
theorem groups_of_surround {p : Placeholder} {kind : GroupKind} {value : Expr}
    {f g : Regex.Flags} {t : Term} (h : (p.surround (.group kind value)).term f = .ok (t, g)) :
    ∃ inner, t.groups = kind.groups ++ inner ∧ inner ⊆ value.groups := by
  have hrequired {t : Term} {g : Regex.Flags} (h : (Expr.group (.plain [])
      (.ofItems (literalExprs p.lead.text ++ [.group kind value]))).term f = .ok (t, g)) :
      ∃ inner, t.groups = kind.groups ++ inner ∧ inner ⊆ value.groups := by
    obtain ⟨u, _, hu, rfl, -⟩ := Regex.term_group_eq_ok_iff.1 h
    obtain ⟨ts, hts, rfl⟩ := Regex.term_ofItems_eq_ok_iff.1 hu
    obtain ⟨leadTerms, _, valueTerms, hlead, hvalue, rfl⟩ := Regex.terms_append_eq_ok_iff.1 hts
    obtain ⟨_, hgroup, rfl⟩ := Regex.terms_singleton_eq_ok_iff.1 hvalue
    obtain ⟨body, _, hbody, rfl, -⟩ := Regex.term_group_eq_ok_iff.1 hgroup
    refine ⟨body.groups, ?_, Expr.groups_of_term hbody⟩
    rw [Term.groups_concat, List.flatMap_append, groups_of_literalExprs hlead, List.nil_append,
      List.flatMap_singleton, GroupKind.groups_term]
  unfold Placeholder.surround at h
  dsimp only at h
  split at h
  · obtain ⟨u, hu, rfl⟩ := Regex.term_repetition_eq_ok_iff.1 h
    rw [Term.groups_repetition_optional]
    exact hrequired hu
  · exact hrequired h

theorem Foreign.subset {count : Nat} {as bs : List (Nat × Option String)} (h : Foreign count bs)
    (hsubset : as ⊆ bs) : Foreign count as :=
  fun g hg => h g (hsubset hg)

theorem Foreign.shift {count : Nat} {e : Expr} (h : Foreign count e.groups) (n : Nat) :
    Foreign count (e.shift n).groups := by
  rw [Expr.groups_shift]
  intro g hg
  obtain ⟨g', hg', rfl⟩ := List.mem_map.1 hg
  exact h g' hg'

/-! ## Slots -/

theorem named_append (as bs : List (Nat × Option String)) :
    named (as ++ bs) = named as ++ named bs := List.filterMap_append

theorem mem_named_iff {groups : List (Nat × Option String)} {index : Nat} {name : String} :
    (index, name) ∈ named groups ↔ (index, some name) ∈ groups := by
  constructor
  · intro h
    obtain ⟨⟨_, _⟩, hg, hname⟩ := List.mem_filterMap.1 h
    obtain ⟨_, rfl, heq⟩ := Option.map_eq_some_iff.1 hname
    obtain ⟨rfl, rfl⟩ := Prod.mk.inj heq
    exact hg
  · intro h
    exact List.mem_filterMap.2 ⟨_, h, rfl⟩

theorem placeholderSlots_append (names : List String) (as bs : List (Nat × String)) :
    placeholderSlots names (as ++ bs) = placeholderSlots names as ++ placeholderSlots names bs :=
  List.filterMap_append

/-- Foreign groups stand for no parameters. -/
theorem placeholderSlots_foreign {names : List String} {groups : List (Nat × Option String)}
    (h : Foreign names.length groups) : placeholderSlots names (named groups) = [] := by
  apply List.filterMap_eq_nil_iff.2
  rintro ⟨index, name⟩ hmem
  have hgroup := mem_named_iff.1 hmem
  cases hordinal : groupOrdinal? name.toList with
  | none => simp [hordinal]
  | some ordinal =>
      have hcount := h _ hgroup name rfl ordinal hordinal
      simp [hordinal, List.getElem?_eq_none hcount]

/-- There is one slot for each of the names, and it leads to the group with the number of the
name. -/
structure Slotted (ordinal : Nat) (names : List String) (groups : List (Nat × String))
    (slots : List (String × Nat)) : Prop where
  names : slots.map (·.1) = names
  groups : ∀ k name index, slots[k]? = some (name, index) →
    (index, String.ofList (groupName (ordinal + k))) ∈ groups

theorem Slotted.behind {ordinal : Nat} {names : List String} {groups : List (Nat × String)}
    {slots : List (String × Nat)} (h : Slotted ordinal names groups slots)
    (first : List (Nat × String)) : Slotted ordinal names (first ++ groups) slots where
  names := h.names
  groups := fun k name index hk => List.mem_append_right first (h.groups k name index hk)

theorem Slotted.cons {ordinal : Nat} {names : List String} {groups : List (Nat × String)}
    {slots : List (String × Nat)} (h : Slotted (ordinal + 1) names groups slots) (name : String)
    (index : Nat) : Slotted ordinal (name :: names)
      ((index, String.ofList (groupName ordinal)) :: groups) ((name, index) :: slots) where
  names := congrArg (name :: ·) h.names
  groups := fun k name' index' hk => by
    cases k with
    | zero =>
        obtain ⟨rfl, rfl⟩ := Prod.mk.inj (Option.some.inj hk)
        exact List.mem_cons_self
    | succ k =>
        have hgroup := h.groups k name' index' hk
        rw [Nat.add_right_comm] at hgroup
        exact List.mem_cons_of_mem _ hgroup

theorem slotted_laid {types : TypeRegistry} {ordinal : Nat} {segments : List Segment}
    {es : List Expr} (hlaid : Laid types ordinal segments es) {names earlier : List String}
    (hnames : names = earlier ++ parameterNames segments) (hearlier : earlier.length = ordinal)
    (h : AllContained types names.length segments) {f g : Regex.Flags} {ts : List Term}
    (hts : Expr.terms f es = .ok (ts, g)) :
    Slotted ordinal (parameterNames segments) (named (ts.flatMap Term.groups))
      (placeholderSlots names (named (ts.flatMap Term.groups))) := by
  induction hlaid generalizing earlier f g ts with
  | nil ordinal =>
      obtain ⟨rfl, -⟩ := Regex.terms_nil_eq_ok_iff.1 hts
      exact ⟨rfl, nofun⟩
  | literal text _ ih =>
      obtain ⟨us, _, vs, hus, hvs, rfl⟩ := Regex.terms_append_eq_ok_iff.1 hts
      rw [List.flatMap_append, groups_of_literalExprs hus, List.nil_append]
      exact ih hnames hearlier h.tail hvs
  | @placeholder ordinal n p value segments es hvalue _ ih =>
      obtain ⟨t, _, us, ht, hus, rfl⟩ := Regex.terms_cons_eq_ok_iff.1 hts
      obtain ⟨inner, hgroups, hinner⟩ := groups_of_surround ht
      -- The groups inside the value fill no slot; the group around it is the slot of its parameter.
      have hforeign := ((h p List.mem_cons_self).foreign value hvalue).shift (p.nextOrdinal n)
      have hinnerSlots := placeholderSlots_foreign (hforeign.subset hinner)
      rw [List.flatMap_cons, hgroups, List.append_assoc, named_append, named_append,
        placeholderSlots_append, placeholderSlots_append, hinnerSlots, List.nil_append]
      unfold Placeholder.kindAt
      cases hp : p.isAnonymous with
      | true =>
          have hnext : p.nextOrdinal ordinal = ordinal := by simp [Placeholder.nextOrdinal, hp]
          rw [parameterNames_of_anonymous hp] at hnames ⊢
          have hlater := ih hnames (hearlier.trans hnext.symm) h.tail hus
          rw [hnext] at hlater
          exact hlater.behind _
      | false =>
          have hnext : p.nextOrdinal ordinal = ordinal + 1 := by simp [Placeholder.nextOrdinal, hp]
          rw [parameterNames_of_named hp] at hnames ⊢
          have hnames' : names = (earlier ++ [p.name]) ++ parameterNames segments := by
            rw [hnames, List.append_assoc]
            rfl
          have hearlier' : (earlier ++ [p.name]).length = p.nextOrdinal ordinal := by
            rw [List.length_append, hearlier, hnext]
            rfl
          have hlater := ih hnames' hearlier' h.tail hus
          rw [hnext] at hlater
          have hname : names[ordinal]? = some p.name := by
            simp [hnames, ← hearlier]
          have hfirst : placeholderSlots names
              (named [(n + 1, some (String.ofList (groupName ordinal)))]) = [(p.name, n + 1)] := by
            simp [placeholderSlots, named, groupOrdinal?_groupName, hname]
          have hvalueGroups : (GroupKind.capture (n + 1)
              (some (String.ofList (groupName ordinal)))).groups =
              [(n + 1, some (String.ofList (groupName ordinal)))] := rfl
          rw [if_neg Bool.false_ne_true, hvalueGroups, hfirst]
          exact (hlater.behind (named inner)).cons p.name (n + 1)

/-- The parameters of a compiled pattern are those of its placeholders that have a name, in order:
each of them once, and no group of what a placeholder stands for among them. The slot of a parameter
leads to the group with its number. -/
theorem paramNames_of_contained {types : TypeRegistry} {pattern : String} {e : Expression}
    (h : compile types pattern = .ok (.placeholders e)) {segments : List Segment}
    (hscan : Segment.scan pattern = .ok segments)
    (hcontained : AllContained types (parameterNames segments).length segments) :
    e.paramNames = parameterNames segments ∧
      ∀ k name index, e.slots[k]? = some (name, index) →
        (index, String.ofList (groupName k)) ∈ e.regex.namedGroups := by
  obtain ⟨-, segments', hscan', hregex, hslots, -⟩ := compile_eq_placeholders h
  obtain rfl := Except.ok.inj (hscan.symm.trans hscan')
  obtain ⟨tree, t, flags, hparse, hterm, hregex⟩ := Regex.compile_eq_ok hregex
  have hstandalone (p : Placeholder) (hp : .placeholder p ∈ segments) :
      Standalone (types.resolve p.tag).fragment.toList := (hcontained p hp).standalone
  obtain ⟨es, hlaid, rfl⟩ := parse_laid hstandalone hparse
  obtain ⟨_, hterms, rfl⟩ := Regex.term_ofItems_eq_ok_iff.1 hterm
  obtain ⟨_, _, _, hfirst, hlast, rfl⟩ := Regex.terms_append_eq_ok_iff.1 hterms
  obtain ⟨_, _, ts, hstart, hsegments, rfl⟩ := Regex.terms_append_eq_ok_iff.1 hfirst
  obtain ⟨rfl, rfl⟩ := Prod.mk.inj (Except.ok.inj hstart)
  obtain ⟨rfl, -⟩ := Prod.mk.inj (Except.ok.inj hlast)
  have hgroups : e.regex.namedGroups = named (ts.flatMap Term.groups) := by
    simp [hregex, Regex.namedGroups, Term.groups_number, Term.groups_concat, Term.groups, named]
  have hnames : parameterNames segments = [] ++ parameterNames segments := rfl
  have hslotted := slotted_laid hlaid hnames rfl hcontained hsegments
  rw [← hgroups, ← hslots] at hslotted
  refine ⟨hslotted.names, fun k name index hk => ?_⟩
  have hgroup := hslotted.groups k name index hk
  rwa [Nat.zero_add] at hgroup

/-- A name and a number of groups in what a placeholder stands for are no parameters. -/
theorem paramNames_of_contained_locale :
    ∃ e, compile .builtIn "/[(?P<lang>en|fr)(-us)?:locale]/[i:id]" = .ok (.placeholders e) ∧
      e.paramNames = ["locale", "id"] ∧
      e.params? "/fr-us/7" = some [("locale", "fr-us"), ("id", "7")] := by
  have hcompiled : (compiledExpression? .builtIn "/[(?P<lang>en|fr)(-us)?:locale]/[i:id]").any
      (fun e => e.params? "/fr-us/7" == some [("locale", "fr-us"), ("id", "7")]) = true := by
    decide +kernel
  have hscanned : (Segment.scan "/[(?P<lang>en|fr)(-us)?:locale]/[i:id]").toOption.any
      (fun segments => decide (AllContained .builtIn (parameterNames segments).length segments) &&
        parameterNames segments == ["locale", "id"]) = true := by
    decide +kernel
  obtain ⟨e, he, hparams⟩ := (Option.any_eq_true _ _).1 hcompiled
  obtain ⟨segments, hscan, hfacts⟩ := exists_ok_of_any hscanned
  obtain ⟨hcontained, hnames⟩ := Bool.and_eq_true_iff.1 hfacts
  have hcompile := compiledExpression?_eq_some_iff.1 he
  refine ⟨e, hcompile, ?_, beq_iff_eq.1 hparams⟩
  rw [(paramNames_of_contained hcompile hscan (of_decide_eq_true hcontained)).1]
  exact beq_iff_eq.1 hnames

/-- The name of a group in what the placeholder stands for can be read as the number of the
placeholder, so the one parameter is reported twice. -/
theorem paramNames_of_alias :
    ∃ e segments, compile .builtIn "/[(?P<__bkt00>a):x]" = .ok (.placeholders e) ∧
      Segment.scan "/[(?P<__bkt00>a):x]" = .ok segments ∧ parameterNames segments = ["x"] ∧
      e.paramNames = ["x", "x"] ∧ e.params? "/a" = some [("x", "a"), ("x", "a")] := by
  have hcompiled : (compiledExpression? .builtIn "/[(?P<__bkt00>a):x]").any (fun e =>
      e.paramNames == ["x", "x"] && e.params? "/a" == some [("x", "a"), ("x", "a")]) = true := by
    decide +kernel
  have hscanned : (Segment.scan "/[(?P<__bkt00>a):x]").toOption.any
      (fun segments => parameterNames segments == ["x"]) = true := by
    decide +kernel
  obtain ⟨e, he, hfacts⟩ := (Option.any_eq_true _ _).1 hcompiled
  obtain ⟨segments, hscan, hnames⟩ := exists_ok_of_any hscanned
  obtain ⟨hparamNames, hparams⟩ := Bool.and_eq_true_iff.1 hfacts
  exact ⟨e, segments, compiledExpression?_eq_some_iff.1 he, hscan, beq_iff_eq.1 hnames,
    beq_iff_eq.1 hparamNames, beq_iff_eq.1 hparams⟩

end PathRouter.Pattern
