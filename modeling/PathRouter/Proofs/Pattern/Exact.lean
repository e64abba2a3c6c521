import PathRouter.Proofs.Pattern.Compilation

/-!
# Patterns without placeholders

A pattern without brackets is compared with the path itself. It could as well be made into an
expression like any other pattern. Main statement: that expression is always read, and it matches
the same paths, which is the text of the pattern alone. So characters with a meaning of their own in
expressions have none in a pattern, and nothing may stand before or behind the text.
-/

namespace PathRouter.Pattern

/-- A text without brackets has no placeholder that would have to stand for a built-in class. -/
theorem builtIn_ofText (types : TypeRegistry) (cs : List Char) :
    BuiltIn types (Segment.ofText cs) := by
  intro p hp
  cases cs with
  | nil => cases hp
  | cons c cs => cases List.mem_singleton.1 hp

/-- Literal text can only be split into itself. -/
theorem Splits.eq_of_ofText {types : TypeRegistry} {cs text : List Char} {values : Values}
    (h : Splits types (Segment.ofText cs) text values) : text = cs := by
  cases cs with
  | nil =>
      cases h
      rfl
  | cons c cs =>
      cases h with
      | literal h =>
          cases h
          exact List.append_nil _

theorem splits_ofText (types : TypeRegistry) (cs : List Char) :
    Splits types (Segment.ofText cs) cs [] := by
  cases cs with
  | nil => exact .nil
  | cons c cs =>
      have h : Splits types [.literal (c :: cs)] ((c :: cs) ++ []) [] := .literal .nil
      rwa [List.append_nil] at h

/-- The expression of a text without brackets matches that text and no other. -/
theorem isMatch_ofText_iff (types : TypeRegistry) (source text path : String) :
    Regex.isMatch ⟨source, patternTerm types (Segment.ofText text.toList)⟩ path = true ↔
      path = text := by
  rw [isMatch_patternTerm_iff (builtIn_ofText types text.toList)]
  constructor
  · rintro ⟨values, h⟩
    exact String.toList_injective h.eq_of_ofText
  · rintro rfl
    exact ⟨[], splits_ofText types path.toList⟩

theorem exact_accepts_iff {text path : String} :
    ((Matcher.exact text).params? path).isSome = true ↔ path = text := by
  rw [Matcher.params?]
  split
  · next h => exact iff_of_true rfl h.symm
  · next h => exact iff_of_false Bool.false_ne_true (Ne.symm h)

/-- A pattern without brackets gets the matcher for its own text. The expression that its segments
make is read all the same, and it is refused only if its automaton is too large; otherwise it
matches exactly the paths that the matcher accepts. -/
theorem exact_accepts_iff_isMatch {types : TypeRegistry} {pattern : String}
    (hbrackets : hasPlaceholders pattern = false) (hstar : pattern ≠ "*")
    (hraw : pattern.toList.head? ≠ some '@') :
    ∃ segments term, Segment.scan pattern = .ok segments ∧
      compile types pattern = .ok (.exact pattern) ∧
      (∀ path, ((Matcher.exact pattern).params? path).isSome = true ↔ path = pattern) ∧
      Regex.termOf (expressionSource types segments) = .ok term ∧
      ((term.isTooLarge = true ∧
          Regex.compile (expressionSource types segments) = .error .tooLarge) ∨
        ∃ regex, Regex.compile (expressionSource types segments) = .ok regex ∧ ∀ path,
          ((Matcher.exact pattern).params? path).isSome = true ↔ regex.isMatch path = true) := by
  have hscan := Segment.scan_of_not_hasPlaceholders hbrackets
  have hbuiltIn := builtIn_ofText types pattern.toList
  have hpattern : BuiltInPattern types pattern (Segment.ofText pattern.toList) :=
    ⟨hstar, hraw, hscan, hbuiltIn⟩
  refine ⟨_, _, hscan, hpattern.compile_exact hbrackets, fun path => exact_accepts_iff,
    termOf_expressionSource hbuiltIn, ?_⟩
  have hcompile := compile_expressionSource hbuiltIn
  cases hlarge : (patternTerm types (Segment.ofText pattern.toList)).isTooLarge with
  | true =>
      left
      rw [hlarge, if_pos rfl] at hcompile
      exact ⟨hlarge, hcompile⟩
  | false =>
      right
      rw [hlarge, if_neg Bool.false_ne_true] at hcompile
      refine ⟨_, hcompile, fun path => ?_⟩
      rw [exact_accepts_iff, isMatch_ofText_iff]

/-- Characters with a meaning in expressions, one of two octets, and a line feed at the end. -/
theorem exact_accepts_iff_isMatch_metaChars :
    let pattern := "/a.b*(é|$)\n"
    hasPlaceholders pattern = false ∧ pattern ≠ "*" ∧ pattern.toList.head? ≠ some '@' ∧
      ∃ segments regex, Segment.scan pattern = .ok segments ∧
        Regex.compile (expressionSource .builtIn segments) = .ok regex ∧
        regex.isMatch "/a.b*(é|$)\n" = true ∧ regex.isMatch "/a.b*(é|$)" = false ∧
        regex.isMatch "/axbb(é|$)\n" = false := by
  intro pattern
  have hbrackets : hasPlaceholders pattern = false := by decide
  have hstar : pattern ≠ "*" := by decide
  have hraw : pattern.toList.head? ≠ some '@' := by decide
  have hsmall : ((Segment.scan pattern).toOption.any fun segments =>
      (Regex.compile (expressionSource .builtIn segments)).isOk) = true := by
    decide +kernel
  obtain ⟨segments, term, hscan, -, hexact, -, hregex⟩ :=
    @exact_accepts_iff_isMatch .builtIn pattern hbrackets hstar hraw
  rw [hscan] at hsmall
  obtain ⟨regex, hcompile⟩ := isOk_iff.1 hsmall
  refine ⟨hbrackets, hstar, hraw, segments, regex, hscan, hcompile, ?_⟩
  rcases hregex with ⟨-, hlarge⟩ | ⟨regex', hcompile', hmatch⟩
  · cases hcompile.symm.trans hlarge
  · obtain rfl := Except.ok.inj (hcompile.symm.trans hcompile')
    have hiff (path : String) : regex.isMatch path = true ↔ path = pattern :=
      (hmatch path).symm.trans (hexact path)
    refine ⟨(hiff _).2 rfl, ?_, ?_⟩
    · exact Bool.eq_false_iff.2 (mt (hiff _).1 (by decide))
    · exact Bool.eq_false_iff.2 (mt (hiff _).1 (by decide))

end PathRouter.Pattern
