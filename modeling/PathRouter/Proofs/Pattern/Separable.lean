import PathRouter.Proofs.Pattern.Split

/-!
# Separable patterns

In a separable pattern something follows every value that cannot belong to it: a slash, a dot where
the value has none, or the end. So there is one way at most to split a text along the segments.
-/

namespace PathRouter.Pattern

/-- The tags whose values hold neither slashes nor dots. -/
def dotlessTags : List String := ["i", "a", "h", ""]

/-- What follows a placeholder cannot be taken for a part of its value. -/
def FollowedApart (p : Placeholder) : List Segment → Prop
  | [] => True
  | .literal text :: _ => text.head? = some '/'
  | .placeholder q :: _ => q.lead = .slash ∨ q.lead = .dot ∧ p.tag ∈ dotlessTags

/-- Every placeholder stands for the built-in expression of its tag and is told apart from what
follows; the rest of a path is taken by the last segment only, and only the last segment may be
left out. -/
structure Separable (types : TypeRegistry) (segments : List Segment) : Prop where
  tags : ∀ p, .placeholder p ∈ segments → ∃ fragment,
    (p.tag, fragment) ∈ TypeRegistry.builtInTypes ∧ types.get? p.tag = some fragment
  followed : ∀ before p after, segments = before ++ .placeholder p :: after → FollowedApart p after
  last : ∀ before p after, segments = before ++ .placeholder p :: after →
    p.tag = "**" ∨ p.optional = true → after = []

variable {types : TypeRegistry} {segments : List Segment}

namespace Separable

theorem tail {segment : Segment} (h : Separable types (segment :: segments)) :
    Separable types segments where
  tags := fun p hp => h.tags p (List.mem_cons_of_mem _ hp)
  followed := fun before p after hsplit =>
    h.followed (segment :: before) p after (congrArg (segment :: ·) hsplit)
  last := fun before p after hsplit =>
    h.last (segment :: before) p after (congrArg (segment :: ·) hsplit)

theorem nil : Separable types [] where
  tags := nofun
  followed := fun before p after hsplit => by
    cases before <;> cases hsplit
  last := fun before p after hsplit => by
    cases before <;> cases hsplit

theorem literal (text : List Char) (h : Separable types segments) :
    Separable types (.literal text :: segments) where
  tags := fun p hp => h.tags p ((List.mem_cons.1 hp).resolve_left nofun)
  followed := fun before p after hsplit => by
    cases before with
    | nil => cases (List.cons.inj hsplit).1
    | cons segment before => exact h.followed before p after (List.cons.inj hsplit).2
  last := fun before p after hsplit => by
    cases before with
    | nil => cases (List.cons.inj hsplit).1
    | cons segment before => exact h.last before p after (List.cons.inj hsplit).2

theorem placeholder {p : Placeholder} (fragment : String)
    (hmem : (p.tag, fragment) ∈ TypeRegistry.builtInTypes) (hget : types.get? p.tag = some fragment)
    (hfollowed : FollowedApart p segments)
    (hlast : p.tag = "**" ∨ p.optional = true → segments = []) (h : Separable types segments) :
    Separable types (.placeholder p :: segments) where
  tags := fun q hq => by
    rcases List.mem_cons.1 hq with hq | hq
    · obtain rfl := Segment.placeholder.inj hq
      exact ⟨fragment, hmem, hget⟩
    · exact h.tags q hq
  followed := fun before q after hsplit => by
    cases before with
    | nil =>
        obtain ⟨hq, rfl⟩ := List.cons.inj hsplit
        obtain rfl := Segment.placeholder.inj hq
        exact hfollowed
    | cons segment before => exact h.followed before q after (List.cons.inj hsplit).2
  last := fun before q after hsplit => by
    cases before with
    | nil =>
        obtain ⟨hq, rfl⟩ := List.cons.inj hsplit
        obtain rfl := Segment.placeholder.inj hq
        exact hlast
    | cons segment before => exact h.last before q after (List.cons.inj hsplit).2

theorem builtIn (h : Separable types segments) : BuiltIn types segments := by
  intro p hp
  obtain ⟨fragment, hmem, hget⟩ := h.tags p hp
  have hresolve : (types.resolve p.tag).fragment = fragment := by
    rw [TypeRegistry.resolve, hget]
    rfl
  rw [hresolve]
  exact List.mem_map.2 ⟨_, hmem, rfl⟩

end Separable

/-! ## Values end where they must -/

/-- The classes of the tags: only the rest of a path holds slashes, and some hold no dots. -/
theorem accepts_separator {tag fragment : String}
    (hmem : (tag, fragment) ∈ TypeRegistry.builtInTypes) (hget : types.get? tag = some fragment) :
    (tag ≠ "**" → types.accepts tag '/' = false) ∧
      (tag ∈ dotlessTags → types.accepts tag '.' = false) := by
  have haccepts (c : Char) :
      types.accepts tag c = (ValueClass.ofFragment? fragment).any fun k => k.accepts c := by
    rw [TypeRegistry.accepts, TypeRegistry.valueClass?, TypeRegistry.resolve, hget]
    rfl
  rw [haccepts, haccepts]
  simp only [TypeRegistry.builtInTypes, List.mem_cons, Prod.mk.injEq, List.not_mem_nil,
    or_false] at hmem
  rcases hmem with ⟨rfl, rfl⟩ | ⟨rfl, rfl⟩ | ⟨rfl, rfl⟩ | ⟨rfl, rfl⟩ | ⟨rfl, rfl⟩ | ⟨rfl, rfl⟩ <;>
    decide

/-- A text does not go on with a character that is accepted. -/
def Stops (accepts : Char → Bool) (text : List Char) : Prop :=
  ∀ c, text.head? = some c → accepts c = false

theorem takeWhile_append_stops {accepts : Char → Bool} {value rest : List Char}
    (hvalue : ∀ c ∈ value, accepts c = true) (hrest : Stops accepts rest) :
    (value ++ rest).takeWhile accepts = value := by
  rw [List.takeWhile_append_of_pos hvalue]
  cases rest with
  | nil => simp
  | cons c rest => simp [hrest c rfl]

/-- A value is found again if what follows cannot belong to it. -/
theorem append_eq_of_stops {accepts : Char → Bool} {v w rest rest' : List Char}
    (hv : ∀ c ∈ v, accepts c = true) (hw : ∀ c ∈ w, accepts c = true) (hrest : Stops accepts rest)
    (hrest' : Stops accepts rest') (h : v ++ rest = w ++ rest') : v = w ∧ rest = rest' := by
  have hvalue : v = w := by
    rw [← takeWhile_append_stops hv hrest, h, takeWhile_append_stops hw hrest']
  subst hvalue
  exact ⟨rfl, List.append_cancel_left h⟩

theorem Splits.text_eq_nil {text : List Char} {values : Values} (h : Splits types [] text values) :
    text = [] := by
  cases h
  rfl

/-- What is split behind a placeholder does not go on with a character of its value. -/
theorem Separable.stops {p : Placeholder} (h : Separable types (.placeholder p :: segments))
    {text : List Char} {values : Values} (hsplit : Splits types segments text values) :
    Stops (types.accepts p.tag) text := by
  obtain ⟨fragment, hmem, hget⟩ := h.tags p List.mem_cons_self
  obtain ⟨hslash, hdot⟩ := accepts_separator hmem hget
  have hfollowed := h.followed [] p segments rfl
  intro c hc
  cases hsplit with
  | nil => cases hc
  | @literal literal _ _ _ hlater =>
      have hp : p.tag ≠ "**" := fun htag => nomatch h.last [] p _ rfl (.inl htag)
      have hhead : literal.head? = some '/' := hfollowed
      obtain ⟨rest, rfl⟩ := List.head?_eq_some_iff.1 hhead
      obtain rfl : '/' = c := Option.some.inj hc
      exact hslash hp
  | @present q value _ _ _ hne hall hlater =>
      have hp : p.tag ≠ "**" := fun htag => nomatch h.last [] p _ rfl (.inl htag)
      rcases hfollowed with hlead | ⟨hlead, htag⟩
      · rw [hlead] at hc
        obtain rfl : '/' = c := Option.some.inj hc
        exact hslash hp
      · rw [hlead] at hc
        obtain rfl : '.' = c := Option.some.inj hc
        exact hdot htag
  | @absent q later _ _ hoptional hlater =>
      obtain rfl := h.tail.last [] q later rfl (.inr hoptional)
      rw [hlater.text_eq_nil] at hc
      cases hc

/-- A text can be split along separable segments in one way at most. -/
theorem Separable.unique (h : Separable types segments) {text : List Char} {vs ws : Values}
    (hv : Splits types segments text vs) (hw : Splits types segments text ws) : vs = ws := by
  induction hv generalizing ws with
  | nil =>
      cases hw
      rfl
  | @literal literal segments text vs _ ih =>
      generalize htext : literal ++ text = whole at hw
      cases hw with
      | literal hw =>
          obtain rfl := List.append_cancel_left htext
          exact ih h.tail hw
  | @present p value segments text vs hne hall hv ih =>
      generalize htext : p.lead.text ++ (value ++ text) = whole at hw
      cases hw with
      | present hne' hall' hw =>
          obtain ⟨rfl, rfl⟩ := append_eq_of_stops hall hall' (h.stops hv) (h.stops hw)
            (List.append_cancel_left htext)
          rw [ih h.tail hw]
      | absent hoptional hw =>
          obtain rfl := h.last [] p segments rfl (.inr hoptional)
          rw [hw.text_eq_nil] at htext
          exact absurd (List.append_eq_nil_iff.1 (List.append_eq_nil_iff.1 htext).2).1 hne
  | @absent p segments text vs hoptional hv ih =>
      obtain rfl := h.last [] p segments rfl (.inr hoptional)
      have htext := hv.text_eq_nil
      cases hw with
      | present hne hall hw =>
          exact absurd (List.append_eq_nil_iff.1 (List.append_eq_nil_iff.1 htext).2).1 hne
      | absent _ hw => rw [ih h.tail hw]

/-- If separable segments that begin with a slash can all be left out, the slash alone cannot be
split along them. -/
theorem Separable.not_splits_slash (h : Separable types segments)
    (hslash : (Segment.textOf segments).head? = some '/') {vs ws : Values}
    (hempty : Splits types segments [] vs) : ¬Splits types segments ['/'] ws := by
  induction segments generalizing vs with
  | nil => cases hslash
  | cons segment segments ih =>
      intro hw
      generalize htext : ([] : List Char) = empty at hempty
      generalize hroot : ['/'] = root at hw
      cases hempty with
      | literal hempty =>
          obtain ⟨rfl, rfl⟩ := List.append_eq_nil_iff.1 htext.symm
          cases hw with
          | literal hw =>
              subst hroot
              exact ih h.tail hslash hempty hw
      | @present p value _ _ _ hne _ _ =>
          exact hne (List.append_eq_nil_iff.1 (List.append_eq_nil_iff.1 htext.symm).2).1
      | @absent p _ _ _ hoptional hempty =>
          obtain rfl := h.last [] p segments rfl (.inr hoptional)
          cases hw with
          | absent _ hw =>
              rw [hw.text_eq_nil] at hroot
              cases hroot
          | @present _ value _ _ _ hne _ _ =>
              have hlead : p.lead.text ≠ [] := by
                intro hnil
                simp [Segment.textOf, Segment.text, Placeholder.full, hnil] at hslash
              obtain ⟨c, cs, hlead⟩ := List.exists_cons_of_ne_nil hlead
              rw [hlead] at hroot
              have hrest := (List.append_eq_nil_iff.1 (List.cons.inj hroot).2.symm).2
              exact hne (List.append_eq_nil_iff.1 hrest).1

end PathRouter.Pattern
