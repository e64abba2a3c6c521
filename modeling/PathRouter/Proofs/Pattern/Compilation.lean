import PathRouter.Proofs.Pattern.Meaning

/-!
# Compiled patterns

A pattern whose placeholders stand for built-in classes is compiled into a matcher unless the
automaton would be too large, and that matcher accepts the texts that can be split along the
segments of the pattern. The parameters are read off the best split.
-/

namespace PathRouter.Pattern

open Regex (Term Captures lookup_note_of_ne span?_note)

/-! ## Slots -/

/-- The parameters of segments with the indices of their groups. -/
def slots (ordinal : Nat) : List Segment → List (String × Nat)
  | [] => []
  | .literal _ :: segments => slots ordinal segments
  | .placeholder p :: segments =>
    if p.isAnonymous then slots ordinal segments
    else (p.name, ordinal + 1) :: slots (ordinal + 1) segments

theorem parameterNames_of_anonymous {p : Placeholder} (h : p.isAnonymous = true)
    (segments : List Segment) :
    parameterNames (.placeholder p :: segments) = parameterNames segments := by
  simp [parameterNames, h]

theorem parameterNames_of_named {p : Placeholder} (h : p.isAnonymous = false)
    (segments : List Segment) :
    parameterNames (.placeholder p :: segments) = p.name :: parameterNames segments := by
  simp [parameterNames, h]

/-- The groups with a name. -/
def named (groups : List (Nat × Option String)) : List (Nat × String) :=
  groups.filterMap fun (index, name) => name.map (index, ·)

theorem placeholderSlots_segmentTerms {types : TypeRegistry} {segments : List Segment}
    (h : BuiltIn types segments) (earlier : List String) :
    placeholderSlots (earlier ++ parameterNames segments)
      (named ((segmentTerms types earlier.length segments).flatMap Term.groups)) =
      slots earlier.length segments := by
  induction segments generalizing earlier with
  | nil => rfl
  | cons segment segments ih =>
      cases segment with
      | literal text =>
          have hliteral : (literalTerms text).flatMap Term.groups = [] := by
            simp [literalTerms, List.flatMap_map, Term.groups]
          rw [segmentTerms, List.flatMap_append, hliteral, List.nil_append, slots]
          exact ih h.tail earlier
      | placeholder p =>
          obtain ⟨k, hk⟩ := h.valueClass
          simp only [segmentTerms, hk, Option.elim_some, List.flatMap_cons, p.groups_term, slots,
            Placeholder.nextOrdinal]
          cases hp : p.isAnonymous with
          | true =>
              simp only [if_true, List.nil_append, parameterNames_of_anonymous hp]
              exact ih h.tail earlier
          | false =>
              have hlater := ih h.tail (earlier ++ [p.name])
              rw [List.append_assoc, List.singleton_append, List.length_append] at hlater
              simp only [Bool.false_eq_true, if_false, List.singleton_append,
                parameterNames_of_named hp]
              simp only [placeholderSlots, named, List.filterMap_cons, Option.map_some,
                String.toList_ofList, groupOrdinal?_groupName] at hlater ⊢
              simpa using hlater

/-! ## Parameters -/

/-- No group behind the first `ordinal` ones has been noted. -/
def Fresh (ordinal : Nat) (captures : Captures) : Prop :=
  ∀ group stop, ordinal < group → captures.lookup (group, stop) = none

theorem Fresh.mono {m n : Nat} {captures : Captures} (h : Fresh m captures) (hmn : m ≤ n) :
    Fresh n captures :=
  fun group stop hgroup => h group stop (Nat.lt_of_le_of_lt hmn hgroup)

theorem Fresh.note {ordinal : Nat} {captures : Captures} (h : Fresh ordinal captures) {group : Nat}
    (hgroup : group ≤ ordinal) (stop : Bool) (index : Nat) :
    Fresh ordinal (captures.note group stop index) := by
  intro other stop' hother
  have hne : other ≠ group := by omega
  rw [lookup_note_of_ne hne]
  exact h other stop' hother

/-- Later values leave what was noted of earlier groups as it is. -/
theorem lookup_noteValues {group : Nat} (hgroup : group ≠ 0) (stop : Bool) (ordinal index : Nat)
    (segments : List Segment) (values : Values) (captures : Captures) (hle : group ≤ ordinal) :
    (noteValues ordinal index segments values captures).lookup (group, stop) =
      captures.lookup (group, stop) := by
  induction segments generalizing ordinal index values captures with
  | nil => exact lookup_note_of_ne hgroup true stop index
  | cons segment segments ih =>
      cases segment with
      | literal text => exact ih ordinal _ values captures hle
      | placeholder p =>
          have hnext : group ≤ p.nextOrdinal ordinal := by
            unfold Placeholder.nextOrdinal
            split <;> omega
          match values with
          | [] => exact lookup_note_of_ne hgroup true stop index
          | none :: values => exact ih _ index values captures hnext
          | some value :: values =>
              rw [noteValues, ih _ _ values _ hnext]
              split
              · rfl
              · have hne : group ≠ ordinal + 1 := by omega
                rw [lookup_note_of_ne hne, lookup_note_of_ne hne]

theorem span?_noteValues {group ordinal : Nat} (hgroup : group ≠ 0) (hle : group ≤ ordinal)
    (index : Nat) (segments : List Segment) (values : Values) (captures : Captures) :
    (noteValues ordinal index segments values captures).span? group = captures.span? group := by
  rw [Captures.span?, lookup_noteValues hgroup false ordinal index segments values captures hle,
    lookup_noteValues hgroup true ordinal index segments values captures hle]
  rfl

theorem Fresh.span? {ordinal group : Nat} {captures : Captures} (h : Fresh ordinal captures)
    (hgroup : ordinal < group) : captures.span? group = none := by
  rw [Captures.span?, h group false hgroup]
  rfl

theorem spanText_append {path : String} {before value behind : List Char}
    (h : path.toList = before ++ (value ++ behind)) :
    Regex.spanText path (before.length, before.length + value.length) = String.ofList value := by
  rw [Regex.spanText, h, List.drop_left, Nat.add_sub_cancel_left, List.take_left]

/-- The slots give the values that were noted. -/
theorem params_noteValues {types : TypeRegistry} {path : String} {segments : List Segment}
    {text : List Char} {values : Values} (h : Splits types segments text values) {ordinal : Nat}
    {before : List Char} {captures : Captures} (hpath : path.toList = before ++ text)
    (hfresh : Fresh ordinal captures) :
    (slots ordinal segments).filterMap (fun (name, index) =>
      ((noteValues ordinal before.length segments values captures).span? index).map
        fun span => (name, Regex.spanText path span)) = reported segments values := by
  induction h generalizing ordinal before captures with
  | nil => rfl
  | @literal literal segments text values _ ih =>
      have hpath' : path.toList = (before ++ literal) ++ text := by rw [hpath, List.append_assoc]
      have hlater := ih hpath' hfresh
      rw [List.length_append] at hlater
      exact hlater
  | @absent p segments text values _ _ ih =>
      simp only [slots, noteValues, reported, Placeholder.nextOrdinal]
      split
      · exact ih hpath hfresh
      · have hnone := span?_noteValues (Nat.succ_ne_zero ordinal) (Nat.le_refl _) before.length
          segments values captures
        rw [hfresh.span? (Nat.lt_succ_self _)] at hnone
        rw [List.filterMap_cons, hnone]
        exact ih hpath (hfresh.mono (Nat.le_succ _))
  | @present p value segments text values hne hall _ ih =>
      have hpath' : path.toList = (before ++ p.lead.text) ++ (value ++ text) := by
        rw [hpath, List.append_assoc]
      have hpath'' : path.toList = ((before ++ p.lead.text) ++ value) ++ text := by
        rw [hpath', List.append_assoc (before ++ p.lead.text)]
      have hvalue := spanText_append hpath'
      have hlater (captures : Captures) := @ih (p.nextOrdinal ordinal)
        ((before ++ p.lead.text) ++ value) captures hpath''
      simp only [List.length_append] at hlater hvalue
      simp only [slots, noteValues, reported, Placeholder.nextOrdinal] at hlater ⊢
      split
      · next hp =>
          simp only [hp, if_true] at hlater
          exact hlater captures hfresh
      · next hp =>
          simp only [hp] at hlater
          -- The group of this value is noted first; what later segments note leaves it as it is.
          let start := before.length + p.lead.text.length
          let stop := start + value.length
          let noted := (captures.note (ordinal + 1) false start).note (ordinal + 1) true stop
          have hnoted : Fresh (ordinal + 1) noted :=
            ((hfresh.mono (Nat.le_succ _)).note (Nat.le_refl _) false start).note
              (Nat.le_refl _) true stop
          have hspan := span?_noteValues (Nat.succ_ne_zero ordinal) (Nat.le_refl _) stop segments
            values noted
          rw [span?_note] at hspan
          rw [List.filterMap_cons, hspan, Option.map_some, hvalue]
          exact congrArg _ (hlater noted hnoted)

/-! ## Matchers -/

def patternTerm (types : TypeRegistry) (segments : List Segment) : Term :=
  .seq (.look .textStart) ((Term.concat (patternTerms types segments)).number 0).1

/-- The expression of a pattern with its parameters. -/
def patternExpression (types : TypeRegistry) (segments : List Segment) : Expression :=
  ⟨⟨expressionSource types segments, patternTerm types segments⟩, slots 0 segments,
    headText segments⟩

section BuiltIn
variable {types : TypeRegistry} {segments : List Segment} (h : BuiltIn types segments)
include h

theorem placeholderSlots_patternTerm (source : String) :
    placeholderSlots (parameterNames segments)
      (Regex.namedGroups ⟨source, patternTerm types segments⟩) = slots 0 segments := by
  have hgroups : (patternTerm types segments).groups =
      (segmentTerms types 0 segments).flatMap Term.groups := by
    simp [patternTerm, Term.groups, Term.groups_number, Term.groups_concat, patternTerms]
  rw [Regex.namedGroups, hgroups]
  exact placeholderSlots_segmentTerms h []

/-- The machine finds the best split. -/
theorem captures?_patternTerm (source path : String) :
    Regex.captures? ⟨source, patternTerm types segments⟩ path =
      (splits types segments path.toList).head?.map fun values =>
        noteValues 0 0 segments values (Captures.note [] 0 false 0) := by
  have hsimple : ((Term.concat (patternTerms types segments)).number 0).1.Simple := by
    apply Term.simple_number
    apply Term.simple_concat
    intro t ht
    rcases List.mem_append.1 ht with ht | ht
    · exact simple_segmentTerms 0 segments t ht
    · rw [List.mem_singleton.1 ht]
      trivial
  rw [Regex.captures?, patternTerm, Term.search_anchored hsimple, Term.attemptAt, Term.attempt,
    Term.attempt_number, Term.attempt_concat, patternTerms, List.foldr_append]
  exact attempt_segments h 0 ⟨none, 0, path.toList⟩ _

/-- The machine accepts a path if there is any split. -/
theorem isMatch_patternTerm_iff (source path : String) :
    Regex.isMatch ⟨source, patternTerm types segments⟩ path = true ↔
      ∃ values, Splits types segments path.toList values := by
  have hmatch : Regex.isMatch ⟨source, patternTerm types segments⟩ path =
      (splits types segments path.toList).head?.isSome :=
    (congrArg Option.isSome (captures?_patternTerm h source path)).trans Option.isSome_map
  rw [hmatch, isSome_head?_splits]

/-- The expression of a pattern is refused only if its automaton is too large. -/
theorem compile_expressionSource :
    Regex.compile (expressionSource types segments) =
      if (patternTerm types segments).isTooLarge then .error .tooLarge
      else .ok ⟨expressionSource types segments, patternTerm types segments⟩ := by
  rw [Regex.compile, termOf_expressionSource h]
  rfl

/-- The expression of a pattern gives the parameters of the best split. -/
theorem params?_patternExpression (path : String) :
    (patternExpression types segments).params? path =
      (splits types segments path.toList).head?.map (reported segments) := by
  rw [Expression.params?, patternExpression, captures?_patternTerm h, Option.map_map]
  apply Option.map_congr
  intro values hvalues
  have hsplit := (head?_splits_eq_some_iff.1 hvalues).1
  have hpath : path.toList = [] ++ path.toList := rfl
  have hfresh : Fresh 0 (Captures.note [] 0 false 0) := by
    intro group stop hgroup
    exact lookup_note_of_ne (Nat.ne_of_gt hgroup) false stop 0
  exact params_noteValues hsplit hpath hfresh

end BuiltIn

theorem isPrefixOf_headText {types : TypeRegistry} {segments : List Segment} {text : List Char}
    {values : Values} (h : Splits types segments text values) :
    (headText segments).toList.isPrefixOf text = true := by
  cases h with
  | literal h => simp [headText]
  | _ => simp [headText]

/-- Which kind of matcher a pattern gets. -/
theorem kind_of_compile {types : TypeRegistry} {pattern : String} {m : Matcher}
    (h : compile types pattern = .ok m) :
    (pattern = "*" ∧ m = .catchAll) ∨
      (pattern.toList.head? = some '@' ∧ ∃ e, m = .raw e) ∨
      (pattern ≠ "*" ∧ pattern.toList.head? ≠ some '@' ∧
        (hasPlaceholders pattern = false ∧ m = .exact pattern ∨
          hasPlaceholders pattern = true ∧ ∃ e, m = .placeholders e)) := by
  unfold compile at h
  split at h
  · next heq =>
      refine .inl ⟨String.toList_injective heq, ?_⟩
      exact (Except.ok.inj h).symm
  · next body heq =>
      have hhead : pattern.toList.head? = some '@' := by
        rw [heq]
        rfl
      refine .inr (.inl ⟨hhead, ?_⟩)
      obtain ⟨regex, -, hm⟩ := bind_eq_ok_iff.1 h
      exact ⟨_, (pure_eq_ok_iff.1 hm).symm⟩
  · next hstar hraw =>
      refine .inr (.inr ⟨?_, ?_, ?_⟩)
      · rintro rfl
        exact hstar rfl
      · intro hhead
        obtain ⟨body, heq⟩ := List.head?_eq_some_iff.1 hhead
        exact hraw body heq
      · split at h
        · next hbrackets =>
            refine .inr ⟨hbrackets, ?_⟩
            simp only [bind_eq_ok_iff, pure_eq_ok_iff] at h
            obtain ⟨segments, -, regex, -, hm⟩ := h
            exact ⟨_, hm.symm⟩
        · next hbrackets =>
            exact .inl ⟨Bool.eq_false_iff.2 hbrackets, (Except.ok.inj h).symm⟩

theorem compile_star (types : TypeRegistry) : compile types "*" = .ok .catchAll := rfl

/-- How an expression behind an at sign is compiled. -/
theorem compile_of_raw {pattern : String} {body : List Char} (h : pattern.toList = '@' :: body)
    (types : TypeRegistry) :
    compile types pattern = (do
      let regex ← compileExpression (rawSource body)
      pure (.raw ⟨regex, regex.namedGroups.map fun (index, name) => (name, index), ""⟩)) := by
  unfold compile
  split
  · next hstar => cases h.symm.trans hstar
  · next hbody =>
      cases h.symm.trans hbody
      rfl
  · next hraw => exact absurd h (hraw body)

/-- How a pattern with brackets is compiled. -/
theorem compile_of_hasPlaceholders {types : TypeRegistry} {pattern : String}
    (hbrackets : hasPlaceholders pattern = true) (hraw : pattern.toList.head? ≠ some '@') :
    compile types pattern = (do
      let segments ← (Segment.scan pattern).mapError .brackets
      let regex ← compileExpression (expressionSource types segments)
      pure (.placeholders ⟨regex, placeholderSlots (parameterNames segments) regex.namedGroups,
        headText segments⟩)) := by
  unfold compile
  split
  · next heq => exact absurd hbrackets (by simp [hasPlaceholders, heq])
  · next heq => exact absurd (congrArg List.head? heq) hraw
  · rw [if_pos hbrackets]

/-- A pattern that is made of segments, the placeholders among which stand for built-in classes. -/
structure BuiltInPattern (types : TypeRegistry) (pattern : String) (segments : List Segment) :
    Prop where
  notStar : pattern ≠ "*"
  notRaw : pattern.toList.head? ≠ some '@'
  scanned : Segment.scan pattern = .ok segments
  builtIn : BuiltIn types segments

namespace BuiltInPattern
variable {types : TypeRegistry} {pattern : String} {segments : List Segment}

/-- What becomes of a pattern when it is compiled. -/
theorem compile_eq (h : BuiltInPattern types pattern segments)
    (hbrackets : hasPlaceholders pattern = true) :
    compile types pattern =
      if (patternTerm types segments).isTooLarge then .error (.expression .tooLarge)
      else .ok (.placeholders (patternExpression types segments)) := by
  have hcompile : compileExpression (expressionSource types segments) =
      if (patternTerm types segments).isTooLarge then .error (.expression .tooLarge)
      else .ok ⟨expressionSource types segments, patternTerm types segments⟩ := by
    rw [compileExpression, compile_expressionSource h.builtIn]
    split <;> rfl
  rw [compile_of_hasPlaceholders hbrackets h.notRaw, h.scanned]
  change (compileExpression (expressionSource types segments) >>= fun _ => _) = _
  rw [hcompile]
  split
  · rfl
  · exact congrArg (fun s => Except.ok (Matcher.placeholders ⟨_, s, _⟩))
      (placeholderSlots_patternTerm h.builtIn _)

/-- What becomes of a pattern without placeholders. -/
theorem compile_exact (h : BuiltInPattern types pattern segments)
    (hbrackets : hasPlaceholders pattern = false) :
    compile types pattern = .ok (.exact pattern) := by
  unfold compile
  split
  · next heq => exact absurd (String.toList_injective heq) h.notStar
  · next heq => exact absurd (congrArg List.head? heq) h.notRaw
  · rw [hbrackets]
    rfl

/-- The two kinds of matchers that patterns have. -/
theorem matcher_eq (h : BuiltInPattern types pattern segments) {m : Matcher}
    (hm : compile types pattern = .ok m) :
    (hasPlaceholders pattern = false ∧ m = .exact pattern) ∨
      (hasPlaceholders pattern = true ∧ m = .placeholders (patternExpression types segments)) := by
  cases hbrackets : hasPlaceholders pattern with
  | false =>
      rw [h.compile_exact hbrackets] at hm
      exact .inl ⟨rfl, (Except.ok.inj hm).symm⟩
  | true =>
      rw [h.compile_eq hbrackets] at hm
      split at hm
      · cases hm
      · exact .inr ⟨rfl, (Except.ok.inj hm).symm⟩

/-- What the matcher of a pattern says of a path. -/
theorem params?_eq (h : BuiltInPattern types pattern segments) (path : String) :
    (Matcher.placeholders (patternExpression types segments)).params? path =
      ((splits types segments path.toList).head?.map (reported segments)).or
        (if path = "/" then (splits types segments []).head?.map (reported segments)
          else none) := by
  simp only [Matcher.params?, params?_patternExpression h.builtIn, String.toList_empty]
  split
  · exact Option.orElse_eq_or
  · next hhead =>
      have hnone {text : List Char} (hbegins : text <+: path.toList) :
          (splits types segments text).head? = none := by
        cases hbest : (splits types segments text).head? with
        | none => rfl
        | some values =>
            have hsplit := (head?_splits_eq_some_iff.1 hbest).1
            have htext := List.isPrefixOf_iff_prefix.1 (isPrefixOf_headText hsplit)
            exact absurd (List.isPrefixOf_iff_prefix.2 (htext.trans hbegins)) hhead
      rw [hnone (List.prefix_refl _), hnone List.nil_prefix]
      split <;> rfl

end BuiltInPattern

/-- Compiling a pattern with built-in placeholders fails only if the automaton is too large. The
matcher accepts a path if the path, or the empty text in place of the root, can be split along the
segments; the parameters are those of the best split, the path coming before the empty text. -/
theorem compile_matches_splits {types : TypeRegistry} {pattern : String} {segments : List Segment}
    (h : BuiltInPattern types pattern segments) (hbrackets : hasPlaceholders pattern = true) :
    ∃ term, Regex.termOf (expressionSource types segments) = .ok term ∧
      ((term.isTooLarge = true ∧ compile types pattern = .error (.expression .tooLarge)) ∨
        (term.isTooLarge = false ∧ ∃ m, compile types pattern = .ok m ∧ ∀ path,
          ((m.params? path).isSome = true ↔
            (∃ values, Splits types segments path.toList values) ∨
              path = "/" ∧ ∃ values, Splits types segments [] values) ∧
          ∀ params, m.params? path = some params ↔
            (∃ values, IsBest types segments path.toList values ∧
              params = reported segments values) ∨
            (path = "/" ∧ (¬∃ values, Splits types segments path.toList values) ∧
              ∃ values, IsBest types segments [] values ∧ params = reported segments values))) := by
  refine ⟨patternTerm types segments, termOf_expressionSource h.builtIn, ?_⟩
  have hcompile := h.compile_eq hbrackets
  cases hlarge : (patternTerm types segments).isTooLarge with
  | true => exact .inl ⟨rfl, by rw [hcompile, hlarge, if_pos rfl]⟩
  | false =>
      refine .inr ⟨rfl, _, by rw [hcompile, hlarge, if_neg Bool.false_ne_true], fun path => ?_⟩
      have hreported (text : List Char) (params : Params) :
          (splits types segments text).head?.map (reported segments) = some params ↔
            ∃ values, IsBest types segments text values ∧ params = reported segments values := by
        rw [Option.map_eq_some_iff]
        exact exists_congr fun values => and_congr head?_splits_eq_some_iff eq_comm
      have hnone (text : List Char) :
          (splits types segments text).head?.map (reported segments) = none ↔
            ¬∃ values, Splits types segments text values := by
        rw [← isSome_head?_splits, Option.map_eq_none_iff, Option.not_isSome_iff_eq_none]
      constructor
      · rw [h.params?_eq, ← isSome_head?_splits, ← isSome_head?_splits, Option.isSome_or,
          Option.isSome_map, Bool.or_eq_true]
        by_cases hroot : path = "/" <;> simp [hroot]
      · intro params
        rw [h.params?_eq, Option.or_eq_some_iff, hreported, hnone]
        by_cases hroot : path = "/" <;> simp [hroot, hreported]

/-- A number behind a slash that may be left out with it. -/
theorem compile_matches_splits_users :
    let segments := [.literal "/users".toList, .placeholder ⟨.slash, "i:id".toList, true, 6⟩]
    BuiltInPattern .builtIn "/users/[i:id]?" segments ∧ hasPlaceholders "/users/[i:id]?" = true ∧
      ∃ m, compile .builtIn "/users/[i:id]?" = .ok m ∧
        m.params? "/users/7" = some [("id", "7")] ∧ m.params? "/users" = some [] := by
  intro segments
  have h : BuiltInPattern .builtIn "/users/[i:id]?" segments := by
    refine ⟨by decide, by decide, rfl, ?_⟩
    intro p hp
    simp only [segments, List.mem_cons, Segment.placeholder.injEq, List.not_mem_nil, or_false,
      reduceCtorEq, false_or] at hp
    subst hp
    decide
  have hbrackets : hasPlaceholders "/users/[i:id]?" = true := by decide
  refine ⟨h, hbrackets, ?_⟩
  obtain ⟨term, hterm, ⟨hlarge, -⟩ | ⟨-, m, hm, hpaths⟩⟩ := compile_matches_splits h hbrackets
  · rw [termOf_expressionSource h.builtIn] at hterm
    have hsmall : (patternTerm .builtIn segments).isTooLarge = false := by decide +kernel
    rw [← Except.ok.inj hterm] at hlarge
    exact absurd (hsmall.symm.trans hlarge) Bool.false_ne_true
  · refine ⟨m, hm, ?_, ?_⟩
    · rw [(hpaths _).2]
      exact .inl ⟨[some ['7']], head?_splits_eq_some_iff.1 (by decide), by decide⟩
    · rw [(hpaths _).2]
      exact .inl ⟨[none], head?_splits_eq_some_iff.1 (by decide), by decide⟩

end PathRouter.Pattern
