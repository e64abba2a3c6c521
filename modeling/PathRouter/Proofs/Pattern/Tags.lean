import PathRouter.Proofs.Pattern.Exact
import PathRouter.Proofs.Dictionary

/-!
# Tags that patterns use

A pattern is compiled with regard to the types of its own placeholders only. So its matcher stays as
it is when other types are added, and when types are added that it uses, its kind stays: all that
may happen is that its expression is at fault.
-/

namespace PathRouter.Pattern

/-- A pattern that is no text with placeholders: the star, or an expression behind an at sign. -/
def Irreversible (pattern : String) : Prop :=
  pattern = "*" ∨ pattern.toList.head? = some '@'

instance (pattern : String) : Decidable (Irreversible pattern) :=
  inferInstanceAs (Decidable (_ ∨ _))

/-- The tags of the placeholders of a pattern. An expression behind an at sign has no placeholders,
whatever brackets stand in it. -/
def tags (pattern : String) : List String :=
  if Irreversible pattern then []
  else
    match Segment.scan pattern with
    | .ok segments => (Segment.placeholders segments).map Placeholder.tag
    | .error _ => []

theorem tags_of_irreversible {pattern : String} (h : Irreversible pattern) : tags pattern = [] :=
  if_pos h

theorem tags_of_scan {pattern : String} {segments : List Segment} (h : ¬Irreversible pattern)
    (hscan : Segment.scan pattern = .ok segments) :
    tags pattern = (Segment.placeholders segments).map Placeholder.tag := by
  rw [tags, if_neg h, hscan]

/-- A pattern without brackets has no tags. -/
theorem tags_of_not_hasPlaceholders {pattern : String} (h : hasPlaceholders pattern = false) :
    tags pattern = [] := by
  by_cases hirreversible : Irreversible pattern
  · exact tags_of_irreversible hirreversible
  · rw [tags_of_scan hirreversible (Segment.scan_of_not_hasPlaceholders h)]
    cases pattern.toList <;> rfl

/-! ## Compiling with other types -/

/-- An added type makes no difference to another tag, whether that is registered or stands for
itself. -/
theorem TypeRegistry.resolve_extend {tag : String} {more : List (String × String)}
    (h : tag ∉ more.map (·.1)) (types : TypeRegistry) :
    (types.extend more).resolve tag = types.resolve tag := by
  have hlookup : more.reverse.lookup tag = none := by
    apply Dictionary.lookup_eq_none
    rwa [List.map_reverse, List.mem_reverse]
  have hget : (types.extend more).get? tag = types.get? tag := by
    calc
      (types.extend more).get? tag = (more.reverse.lookup tag).or (types.get? tag) :=
        Dictionary.get?_insertAll types.types more tag
      _ = types.get? tag := by rw [hlookup, Option.none_or]
  rw [resolve, hget, resolve]

theorem Placeholder.source_congr {types types' : TypeRegistry} {p : Placeholder}
    (h : types'.resolve p.tag = types.resolve p.tag) (ordinal : Nat) :
    p.source types' ordinal = p.source types ordinal := by
  unfold Placeholder.source
  rw [h]

/-- The expression of segments depends on what their tags stand for. -/
theorem segmentsSource_congr {types types' : TypeRegistry} {segments : List Segment}
    (h : ∀ p ∈ Segment.placeholders segments, types'.resolve p.tag = types.resolve p.tag)
    (ordinal : Nat) :
    segmentsSource types' ordinal segments = segmentsSource types ordinal segments := by
  induction segments generalizing ordinal with
  | nil => rfl
  | cons segment segments ih =>
      cases segment with
      | literal text => rw [segmentsSource, segmentsSource, ih h]
      | placeholder p =>
          have hp := h p List.mem_cons_self
          have hlater := ih fun q hq => h q (List.mem_cons_of_mem _ hq)
          rw [segmentsSource, segmentsSource, Placeholder.source_congr hp, hlater]

/-- The types make no difference to a pattern that is no text with placeholders. -/
theorem compile_of_irreversible {pattern : String} (h : Irreversible pattern)
    (types types' : TypeRegistry) : compile types' pattern = compile types pattern := by
  rcases h with rfl | hraw
  · rw [compile_star, compile_star]
  · obtain ⟨body, hbody⟩ := List.head?_eq_some_iff.1 hraw
    rw [compile_of_raw hbody, compile_of_raw hbody]

/-- A text without brackets is compiled into the matcher for itself. -/
theorem compile_of_not_hasPlaceholders {pattern : String} (hreversible : ¬Irreversible pattern)
    (h : hasPlaceholders pattern = false) (types : TypeRegistry) :
    compile types pattern = .ok (.exact pattern) := by
  have hpattern : BuiltInPattern types pattern (Segment.ofText pattern.toList) :=
    ⟨(not_or.1 hreversible).1, (not_or.1 hreversible).2, Segment.scan_of_not_hasPlaceholders h,
      builtIn_ofText types pattern.toList⟩
  exact hpattern.compile_exact h

/-- With its brackets in order, a pattern is refused only if its expression is. -/
theorem compile_of_scan {types : TypeRegistry} {pattern : String} {segments : List Segment}
    (hbrackets : hasPlaceholders pattern = true) (hraw : pattern.toList.head? ≠ some '@')
    (hscan : Segment.scan pattern = .ok segments) :
    compile types pattern = (do
      let regex ← compileExpression (expressionSource types segments)
      pure (.placeholders ⟨regex, placeholderSlots (parameterNames segments) regex.namedGroups,
        headText segments⟩)) := by
  rw [compile_of_hasPlaceholders hbrackets hraw, hscan]
  simp only [Except.mapError, bind, Except.bind]

/-- A pattern is compiled into the same matcher, or refused for the same fault, as long as its tags
stand for the same. -/
theorem compile_congr {types types' : TypeRegistry} {pattern : String}
    (h : ∀ tag ∈ tags pattern, types'.resolve tag = types.resolve tag) :
    compile types' pattern = compile types pattern := by
  by_cases hirreversible : Irreversible pattern
  · exact compile_of_irreversible hirreversible types types'
  · have hraw := (not_or.1 hirreversible).2
    cases hbrackets : hasPlaceholders pattern with
    | false =>
        rw [compile_of_not_hasPlaceholders hirreversible hbrackets,
          compile_of_not_hasPlaceholders hirreversible hbrackets]
    | true =>
        cases hscan : Segment.scan pattern with
        | error cause =>
            rw [compile_of_hasPlaceholders hbrackets hraw,
              compile_of_hasPlaceholders hbrackets hraw, hscan]
            simp only [Except.mapError, bind, Except.bind]
        | ok segments =>
            have hsource : expressionSource types' segments = expressionSource types segments := by
              rw [expressionSource, expressionSource, segmentsSource_congr]
              intro p hp
              apply h
              rw [tags_of_scan hirreversible hscan]
              exact List.mem_map_of_mem hp
            rw [compile_of_scan hbrackets hraw hscan, compile_of_scan hbrackets hraw hscan, hsource]

/-- A pattern that uses none of the added types stays as it is. -/
theorem compile_extend {pattern : String} {more : List (String × String)}
    (h : ∀ tag ∈ tags pattern, tag ∉ more.map (·.1)) (types : TypeRegistry) :
    compile (types.extend more) pattern = compile types pattern :=
  compile_congr fun tag htag => TypeRegistry.resolve_extend (h tag htag) types

/-- The kind of the matcher that a pattern gets if it compiles. -/
def kindOf (pattern : String) : String :=
  if pattern = "*" then "catch_all"
  else if pattern.toList.head? = some '@' then "raw"
  else if hasPlaceholders pattern then "placeholders"
  else "exact"

section Compiled
variable {types types' : TypeRegistry} {pattern : String} {m : Matcher}

/-- The kind of a matcher follows from the pattern alone. -/
theorem kind_eq_kindOf (h : compile types pattern = .ok m) : m.kind = kindOf pattern := by
  rcases kind_of_compile h with ⟨rfl, rfl⟩ | ⟨hraw, e, rfl⟩ | ⟨hstar, hraw, hkind⟩
  · rfl
  · have hstar : pattern ≠ "*" := by
      rintro rfl
      exact absurd hraw (by decide)
    rw [kindOf, if_neg hstar, if_pos hraw]
    rfl
  · rw [kindOf, if_neg hstar, if_neg hraw]
    rcases hkind with ⟨hbrackets, rfl⟩ | ⟨hbrackets, e, rfl⟩
    · rw [hbrackets]
      rfl
    · rw [hbrackets]
      rfl

/-- Whether a pattern is reversible can be told from its matcher. -/
theorem isReversible_eq_false_iff (h : compile types pattern = .ok m) :
    m.isReversible = false ↔ Irreversible pattern := by
  rcases kind_of_compile h with ⟨hstar, rfl⟩ | ⟨hraw, e, rfl⟩ | ⟨hstar, hraw, hkind⟩
  · exact iff_of_true rfl (.inl hstar)
  · exact iff_of_true rfl (.inr hraw)
  · have hreversible : m.isReversible = true := by
      rcases hkind with ⟨-, rfl⟩ | ⟨-, e, rfl⟩
      · rfl
      · rfl
    rw [hreversible]
    exact iff_of_false nofun (not_or.2 ⟨hstar, hraw⟩)

/-- The brackets of a reversible pattern are in order if it compiles. -/
theorem exists_scan_of_compile (h : compile types pattern = .ok m)
    (hreversible : ¬Irreversible pattern) :
    ∃ segments, Segment.scan pattern = .ok segments := by
  cases hbrackets : hasPlaceholders pattern with
  | false => exact ⟨_, Segment.scan_of_not_hasPlaceholders hbrackets⟩
  | true =>
      rw [compile_of_hasPlaceholders hbrackets (not_or.1 hreversible).2] at h
      obtain ⟨segments, hscan, -⟩ := bind_eq_ok_iff.1 h
      exact ⟨segments, mapError_eq_ok_iff.1 hscan⟩

/-- With other types a pattern that compiled can only have a fault in its expression. -/
theorem exists_expression_of_compile_error {e : Error} (h : compile types pattern = .ok m)
    (h' : compile types' pattern = .error e) : ∃ cause, e = .expression cause := by
  by_cases hirreversible : Irreversible pattern
  · rw [compile_of_irreversible hirreversible types types', h] at h'
    cases h'
  · obtain ⟨segments, hscan⟩ := exists_scan_of_compile h hirreversible
    cases hbrackets : hasPlaceholders pattern with
    | false =>
        rw [compile_of_not_hasPlaceholders hirreversible hbrackets] at h'
        cases h'
    | true =>
        rw [compile_of_scan hbrackets (not_or.1 hirreversible).2 hscan] at h'
        have herror := bind_pure_eq_error_iff.1 h'
        obtain ⟨cause, -, he⟩ := mapError_eq_error_iff.1 herror
        exact ⟨cause, he⟩

end Compiled

end PathRouter.Pattern
