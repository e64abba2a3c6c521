import PathRouter.Proofs.Pattern.Canonical
import PathRouter.Proofs.Pattern.Exact

/-!
# The rest of a path

A placeholder with two stars behind a literal text is given all that follows the text and a slash,
be there slashes in it or the text once more. Main statement: this is so for every path but those
with a line feed behind the text; they are refused.
-/

namespace PathRouter.Pattern

open Text (Utf8.size)

/-! ## Segments -/

/-- The placeholder with a name for the rest of a path. -/
def restPlaceholder (offset : Nat) (name : List Char) : Placeholder :=
  ⟨.slash, '*' :: '*' :: ':' :: name, false, offset⟩

/-- The segments of a text and a placeholder for the rest of a path. -/
def restSegments (text name : List Char) : List Segment :=
  Segment.ofText text ++ [.placeholder (restPlaceholder (Utf8.size text) name)]

theorem tag_restPlaceholder (offset : Nat) (name : List Char) :
    (restPlaceholder offset name).tag = "**" := rfl

theorem name_restPlaceholder (offset : Nat) (name : List Char) :
    (restPlaceholder offset name).name = String.ofList name := rfl

theorem isAnonymous_restPlaceholder (offset : Nat) {name : List Char} (h : name ≠ []) :
    (restPlaceholder offset name).isAnonymous = false :=
  List.isEmpty_eq_false_iff.2 h

/-- The text and the placeholder are found as they were put together, colons in the name
included. -/
theorem scan_rest {pattern : String} {text name : List Char}
    (hpattern : pattern.toList = text ++ ("/[**:".toList ++ name ++ [']'])) (htext : '[' ∉ text)
    (hopening : '[' ∉ name) (hclosing : ']' ∉ name) :
    Segment.scan pattern = .ok (restSegments text name) := by
  let p := restPlaceholder (Utf8.size text) name
  have hwritten : p.WellWritten := by
    apply Placeholder.wellWritten
    · exact List.cons_ne_nil _ _
    · simpa [p, restPlaceholder] using hopening
    · simpa [p, restPlaceholder] using hclosing
  have hp : (Segment.placeholder p).CanonicalAt (0 + Utf8.size text) := by
    rw [Nat.zero_add]
    exact ⟨rfl, rfl, hwritten⟩
  have hfull : pattern.toList = text ++ (p.full ++ []) := by
    rw [hpattern, List.append_nil]
    rfl
  have hlead : p.lead ≠ .none := Lead.noConfusion
  have hend : ([] : List Char).head? ≠ some '?' := by decide
  rw [Segment.scan, hfull, Segment.scanText_placeholder htext (fun h => absurd h hlead) hp
    fun _ => hend]
  rfl

theorem accepts_rest (c : Char) : TypeRegistry.builtIn.accepts "**" c = (c != '\n') := by
  have hclass : TypeRegistry.builtIn.valueClass? "**" = some .rest := by decide
  rw [TypeRegistry.accepts, hclass]
  rfl

/-! ## Splits -/

theorem splits_ofText_append {types : TypeRegistry} {cs text : List Char} {segments : List Segment}
    {values : Values} : Splits types (Segment.ofText cs ++ segments) (cs ++ text) values ↔
      Splits types segments text values := by
  cases cs with
  | nil => exact Iff.rfl
  | cons c cs =>
      constructor
      · intro h
        generalize hwhole : c :: cs ++ text = whole at h
        cases h with
        | literal h => exact List.append_cancel_left hwhole ▸ h
      · exact .literal

/-- A placeholder at the end that must be there takes all that is left. -/
theorem splits_last_iff {types : TypeRegistry} {p : Placeholder} (hp : p.optional = false)
    {tail : List Char} {values : Values} :
    Splits types [.placeholder p] (p.lead.text ++ tail) values ↔
      tail ≠ [] ∧ (∀ c ∈ tail, types.accepts p.tag c = true) ∧ values = [some tail] := by
  constructor
  · intro h
    generalize hwhole : p.lead.text ++ tail = whole at h
    cases h with
    | present hne hall hlater =>
        cases hlater
        obtain rfl := List.append_cancel_left hwhole
        rw [List.append_nil]
        exact ⟨hne, hall, rfl⟩
    | absent hoptional => exact absurd (hp.symm.trans hoptional) Bool.false_ne_true
  · rintro ⟨hne, hall, rfl⟩
    have h := Splits.present hne hall (@Splits.nil types)
    rwa [List.append_nil] at h

theorem reported_ofText_append (cs : List Char) (segments : List Segment) (values : Values) :
    reported (Segment.ofText cs ++ segments) values = reported segments values := by
  cases cs with
  | nil => rfl
  | cons c cs => rfl

section Rest
variable {text name tail : List Char}

/-- A line feed cannot be split off, and without one there is a single split. -/
theorem splits_rest_iff {values : Values} :
    Splits .builtIn (restSegments text name) (text ++ '/' :: tail) values ↔
      tail ≠ [] ∧ '\n' ∉ tail ∧ values = [some tail] := by
  have hplain : (∀ c ∈ tail, TypeRegistry.builtIn.accepts "**" c = true) ↔ '\n' ∉ tail := by
    simp only [accepts_rest, bne_iff_ne]
    exact ⟨fun h hmem => h _ hmem rfl, fun h c hc heq => h (heq ▸ hc)⟩
  rw [← hplain, restSegments, splits_ofText_append]
  exact splits_last_iff rfl

theorem head?_splits_rest (htail : tail ≠ []) :
    (splits .builtIn (restSegments text name) (text ++ '/' :: tail)).head? =
      if '\n' ∈ tail then none else some [some tail] := by
  split
  · next hfeed =>
      apply Option.not_isSome_iff_eq_none.1
      rw [isSome_head?_splits]
      rintro ⟨values, h⟩
      exact (splits_rest_iff.1 h).2.1 hfeed
  · next hplain =>
      apply head?_splits_eq_some_iff.2
      refine ⟨splits_rest_iff.2 ⟨htail, hplain, rfl⟩, fun others h => ?_⟩
      exact .inl (splits_rest_iff.1 h).2.2

theorem reported_rest (hname : name ≠ []) :
    reported (restSegments text name) [some tail] = [(String.ofList name, String.ofList tail)] := by
  rw [restSegments, reported_ofText_append, reported, isAnonymous_restPlaceholder _ hname,
    if_neg Bool.false_ne_true, name_restPlaceholder]
  rfl

end Rest

/-! ## Patterns -/

theorem builtInPattern_rest {pattern : String} {text name : List Char}
    (hpattern : pattern.toList = text ++ ("/[**:".toList ++ name ++ [']'])) (htext : '[' ∉ text)
    (hraw : text.head? ≠ some '@') (hopening : '[' ∉ name) (hclosing : ']' ∉ name) :
    BuiltInPattern .builtIn pattern (restSegments text name) where
  notStar := by
    rintro rfl
    have hmem : '[' ∈ "*".toList := by
      rw [hpattern]
      simp
    exact absurd hmem (by decide)
  notRaw := by
    rw [hpattern, List.head?_append]
    cases text with
    | nil => simp
    | cons c text => exact hraw
  scanned := scan_rest hpattern htext hopening hclosing
  builtIn p hp := by
    rcases List.mem_append.1 hp with hp | hp
    · exact builtIn_ofText .builtIn text p hp
    · obtain rfl := Segment.placeholder.inj (List.mem_singleton.1 hp)
      rw [tag_restPlaceholder]
      decide

/-- A pattern that ends in a placeholder for the rest of the path accepts a path that goes on
behind the text and the slash, and gives the placeholder all that follows, unless there is a line
feed in it. Such a path is refused. -/
theorem params?_rest {text name tail : String} (htext : '[' ∉ text.toList)
    (hraw : text.toList.head? ≠ some '@') (hname : name ≠ "") (hopening : '[' ∉ name.toList)
    (hclosing : ']' ∉ name.toList) (htail : tail ≠ "") {m : Matcher}
    (h : compile .builtIn (text ++ "/[**:" ++ name ++ "]") = .ok m) :
    m.params? (text ++ "/" ++ tail) =
      if '\n' ∈ tail.toList then none else some [(name, tail)] := by
  let pattern := text ++ "/[**:" ++ name ++ "]"
  let segments := restSegments text.toList name.toList
  have hpattern : pattern.toList = text.toList ++ ("/[**:".toList ++ name.toList ++ [']']) := by
    simp [pattern, String.toList_append]
  have hbuiltIn := builtInPattern_rest hpattern htext hraw hopening hclosing
  have hbrackets : hasPlaceholders pattern = true := by
    rw [hasPlaceholders, hpattern]
    simp
  have hpath : (text ++ "/" ++ tail).toList = text.toList ++ '/' :: tail.toList := by
    simp [String.toList_append]
  have hempty {s : String} (hs : s ≠ "") : s.toList ≠ [] := mt String.toList_eq_nil_iff.1 hs
  have hroot : text ++ "/" ++ tail ≠ "/" := by
    intro heq
    have hlength := congrArg List.length (hpath.symm.trans (congrArg String.toList heq))
    have hpos := List.length_pos_iff.2 (hempty htail)
    have hone : "/".toList.length = 1 := rfl
    rw [List.length_append, List.length_cons, hone] at hlength
    omega
  rcases hbuiltIn.matcher_eq h with ⟨hplain, -⟩ | ⟨-, rfl⟩
  · cases hplain.symm.trans hbrackets
  · rw [hbuiltIn.params?_eq, if_neg hroot, Option.or_none, hpath, head?_splits_rest (hempty htail)]
    split
    · rfl
    · rw [Option.map_some, reported_rest (hempty hname), String.ofList_toList,
        String.ofList_toList]

/-- A path in which the text and the slash stand more than once. -/
theorem params?_rest_files :
    '[' ∉ "/files".toList ∧ "/files".toList.head? ≠ some '@' ∧ "a:b" ≠ "" ∧ '[' ∉ "a:b".toList ∧
      ']' ∉ "a:b".toList ∧ "/x/files//y" ≠ "" ∧
      ∃ m, compile .builtIn ("/files" ++ "/[**:" ++ "a:b" ++ "]") = .ok m ∧
        m.params? ("/files" ++ "/" ++ "/x/files//y") = some [("a:b", "/x/files//y")] := by
  have htext : '[' ∉ "/files".toList := by decide
  have hraw : "/files".toList.head? ≠ some '@' := by decide
  have hname : "a:b" ≠ "" := by decide
  have hopening : '[' ∉ "a:b".toList := by decide
  have hclosing : ']' ∉ "a:b".toList := by decide
  have htail : "/x/files//y" ≠ "" := by decide
  have hcompiles : (compile .builtIn ("/files" ++ "/[**:" ++ "a:b" ++ "]")).isOk = true := by
    decide +kernel
  obtain ⟨m, hm⟩ := isOk_iff.1 hcompiles
  refine ⟨htext, hraw, hname, hopening, hclosing, htail, m, hm, ?_⟩
  rw [params?_rest htext hraw hname hopening hclosing htail hm]
  decide

/-- A path with a line feed is refused. -/
theorem params?_rest_lineFeed :
    ∃ m, compile .builtIn ("/files" ++ "/[**:" ++ "path" ++ "]") = .ok m ∧
      m.params? ("/files" ++ "/" ++ "a\nb") = none := by
  have hcompiles : (compile .builtIn ("/files" ++ "/[**:" ++ "path" ++ "]")).toOption.any
      (fun m => m.params? ("/files" ++ "/" ++ "a\nb") == none) = true := by
    decide +kernel
  obtain ⟨m, hm, hparams⟩ := exists_ok_of_any hcompiles
  exact ⟨m, hm, beq_iff_eq.1 hparams⟩

end PathRouter.Pattern
