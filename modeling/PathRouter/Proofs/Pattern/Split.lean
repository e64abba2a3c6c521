import PathRouter.Pattern.Matcher
import PathRouter.Proofs.Pattern.Source

/-!
# Splits

How a text can be split along the segments of a pattern, and which of the splits is preferred. A
split says of each placeholder which value it has, if it is there at all. The splits of a text are
listed from the preferred one on, so that there is a best split as soon as there is any.
-/

namespace PathRouter.Pattern

/-- The values of the placeholders of a pattern, in their order. -/
abbrev Values := List (Option (List Char))

/-- Whether a value of a placeholder with a tag may hold a character. -/
def TypeRegistry.accepts (types : TypeRegistry) (tag : String) (c : Char) : Bool :=
  (types.valueClass? tag).any fun k => k.accepts c

/-- A text is put together of the segments of a pattern and the values of its placeholders. A
placeholder that is not there takes its lead along. -/
inductive Splits (types : TypeRegistry) : List Segment → List Char → Values → Prop where
  | nil : Splits types [] [] []
  | literal {literal : List Char} {segments : List Segment} {text : List Char} {values : Values} :
      Splits types segments text values →
      Splits types (.literal literal :: segments) (literal ++ text) values
  | present {p : Placeholder} {value : List Char} {segments : List Segment} {text : List Char}
      {values : Values} : value ≠ [] → (∀ c ∈ value, types.accepts p.tag c = true) →
      Splits types segments text values →
      Splits types (.placeholder p :: segments) (p.lead.text ++ (value ++ text))
        (some value :: values)
  | absent {p : Placeholder} {segments : List Segment} {text : List Char} {values : Values} :
      p.optional = true → Splits types segments text values →
      Splits types (.placeholder p :: segments) text (none :: values)

/-- The order of splits: the first difference counts, and there a placeholder is rather taken than
left out, and its value is rather longer than shorter. -/
inductive Preferred : Values → Values → Prop where
  | taken {value : List Char} {vs ws : Values} : Preferred (some value :: vs) (none :: ws)
  | longer {v w : List Char} {vs ws : Values} : w.length < v.length →
      Preferred (some v :: vs) (some w :: ws)
  | later {v : Option (List Char)} {vs ws : Values} : Preferred vs ws →
      Preferred (v :: vs) (v :: ws)

/-- A split of a text that is preferred to all others. -/
def IsBest (types : TypeRegistry) (segments : List Segment) (text : List Char) (values : Values) :
    Prop :=
  Splits types segments text values ∧
    ∀ others, Splits types segments text others → others = values ∨ Preferred values others

theorem Preferred.asymm {vs ws : Values} (h : Preferred vs ws) : ¬Preferred ws vs := by
  induction h with
  | taken => exact nofun
  | longer hlt =>
      intro h
      cases h with
      | longer hgt => exact Nat.lt_asymm hlt hgt
      | later h => exact Nat.lt_irrefl _ hlt
  | later hvw ih =>
      intro h
      cases h with
      | longer hlt => exact Nat.lt_irrefl _ hlt
      | later h => exact ih h

/-- There is one best split at most. -/
theorem IsBest.unique {types : TypeRegistry} {segments : List Segment} {text : List Char}
    {vs ws : Values} (hv : IsBest types segments text vs) (hw : IsBest types segments text ws) :
    vs = ws := by
  rcases hv.2 ws hw.1 with h | h
  · exact h.symm
  · rcases hw.2 vs hv.1 with h' | h'
    · exact h'
    · exact absurd h' h.asymm

/-! ## Listing the splits -/

/-- The ways to read a value at the beginning of a text, each with the text behind it, the longest
value first. -/
def readings (accepts : Char → Bool) : List Char → List (List Char × List Char)
  | [] => []
  | c :: rest =>
    if accepts c then
      (readings accepts rest).map (fun (value, behind) => (c :: value, behind)) ++ [([c], rest)]
    else []

theorem append_of_mem_readings {accepts : Char → Bool} {text value behind : List Char}
    (h : (value, behind) ∈ readings accepts text) :
    value ≠ [] ∧ (∀ c ∈ value, accepts c = true) ∧ text = value ++ behind := by
  induction text generalizing value with
  | nil => cases h
  | cons c rest ih =>
      rw [readings] at h
      split at h
      · next hc =>
          rcases List.mem_append.1 h with h | h
          · obtain ⟨⟨v, b⟩, hmem, heq⟩ := List.mem_map.1 h
            obtain ⟨rfl, rfl⟩ := Prod.mk.inj heq
            obtain ⟨-, hall, hrest⟩ := ih hmem
            refine ⟨List.cons_ne_nil _ _, ?_, ?_⟩
            · intro d hd
              rcases List.mem_cons.1 hd with rfl | hd
              · exact hc
              · exact hall d hd
            · rw [hrest, List.cons_append]
          · obtain ⟨rfl, rfl⟩ := Prod.mk.inj (List.mem_singleton.1 h)
            refine ⟨List.cons_ne_nil _ _, ?_, rfl⟩
            intro d hd
            rw [List.mem_singleton.1 hd]
            exact hc
      · cases h

theorem mem_readings {accepts : Char → Bool} {value : List Char} (hne : value ≠ [])
    (hall : ∀ c ∈ value, accepts c = true) (behind : List Char) :
    (value, behind) ∈ readings accepts (value ++ behind) := by
  induction value with
  | nil => exact absurd rfl hne
  | cons c value ih =>
      rw [List.cons_append, readings, if_pos (hall c List.mem_cons_self)]
      apply List.mem_append.2
      cases value with
      | nil => exact .inr List.mem_cons_self
      | cons d value =>
          left
          apply List.mem_map.2
          refine ⟨(d :: value, behind), ih (List.cons_ne_nil _ _) ?_, rfl⟩
          intro x hx
          exact hall x (List.mem_cons_of_mem _ hx)

theorem pairwise_readings (accepts : Char → Bool) (text : List Char) :
    (readings accepts text).Pairwise fun a b => b.1.length < a.1.length := by
  induction text with
  | nil => exact .nil
  | cons c rest ih =>
      rw [readings]
      split
      · rw [List.pairwise_append]
        refine ⟨?_, List.pairwise_singleton _ _, ?_⟩
        · rw [List.pairwise_map]
          exact ih.imp fun h => Nat.succ_lt_succ h
        · intro a ha b hb
          obtain ⟨⟨value, behind⟩, hmem, rfl⟩ := List.mem_map.1 ha
          rw [List.mem_singleton.1 hb]
          exact Nat.succ_lt_succ (List.length_pos_iff.2 (append_of_mem_readings hmem).1)
      · exact .nil

/-- All splits of a text, the preferred ones first. -/
def splits (types : TypeRegistry) : List Segment → List Char → List Values
  | [], text => if text.isEmpty then [[]] else []
  | .literal literal :: segments, text =>
    if literal.isPrefixOf text then splits types segments (text.drop literal.length) else []
  | .placeholder p :: segments, text =>
    let taken :=
      if p.lead.text.isPrefixOf text then
        (readings (types.accepts p.tag) (text.drop p.lead.text.length)).flatMap
          fun (value, behind) => (splits types segments behind).map (some value :: ·)
      else []
    let leftOut := if p.optional then (splits types segments text).map (none :: ·) else []
    taken ++ leftOut

theorem splits_of_mem {types : TypeRegistry} {segments : List Segment} {text : List Char}
    {values : Values} (h : values ∈ splits types segments text) :
    Splits types segments text values := by
  induction segments generalizing text values with
  | nil =>
      cases text with
      | nil =>
          rw [List.mem_singleton.1 h]
          exact .nil
      | cons c text => cases h
  | cons segment segments ih =>
      cases segment with
      | literal literal =>
          rw [splits] at h
          split at h
          · next hlead =>
              obtain ⟨rest, rfl⟩ := List.isPrefixOf_iff_prefix.1 hlead
              rw [List.drop_left] at h
              exact .literal (ih h)
          · cases h
      | placeholder p =>
          simp only [splits, List.mem_append] at h
          rcases h with h | h
          · split at h
            · next hlead =>
                obtain ⟨rest, rfl⟩ := List.isPrefixOf_iff_prefix.1 hlead
                rw [List.drop_left] at h
                obtain ⟨⟨value, behind⟩, hread, h⟩ := List.mem_flatMap.1 h
                obtain ⟨vs, hvs, rfl⟩ := List.mem_map.1 h
                obtain ⟨hne, hall, rfl⟩ := append_of_mem_readings hread
                exact .present hne hall (ih hvs)
            · cases h
          · split at h
            · next hoptional =>
                obtain ⟨vs, hvs, rfl⟩ := List.mem_map.1 h
                exact .absent hoptional (ih hvs)
            · cases h

theorem Splits.mem_splits {types : TypeRegistry} {segments : List Segment} {text : List Char}
    {values : Values} (h : Splits types segments text values) :
    values ∈ splits types segments text := by
  induction h with
  | nil => exact List.mem_singleton_self _
  | literal _ ih =>
      rw [splits, if_pos (List.isPrefixOf_iff_prefix.2 (List.prefix_append _ _)), List.drop_left]
      exact ih
  | present hne hall _ ih =>
      simp only [splits, List.mem_append]
      left
      rw [if_pos (List.isPrefixOf_iff_prefix.2 (List.prefix_append _ _)), List.drop_left]
      apply List.mem_flatMap.2
      exact ⟨_, mem_readings hne hall _, List.mem_map_of_mem ih⟩
  | absent hoptional _ ih =>
      simp only [splits, List.mem_append]
      right
      rw [if_pos hoptional]
      exact List.mem_map_of_mem ih

/-- The list holds the splits and nothing else. -/
theorem mem_splits_iff {types : TypeRegistry} {segments : List Segment} {text : List Char}
    {values : Values} :
    values ∈ splits types segments text ↔ Splits types segments text values := by
  constructor
  · exact splits_of_mem
  · exact Splits.mem_splits

/-- Earlier splits are preferred to later ones. -/
theorem pairwise_splits (types : TypeRegistry) (segments : List Segment) (text : List Char) :
    (splits types segments text).Pairwise Preferred := by
  induction segments generalizing text with
  | nil =>
      rw [splits]
      split
      · exact List.pairwise_singleton _ _
      · exact .nil
  | cons segment segments ih =>
      have hlater (v : Option (List Char)) (text : List Char) :
          ((splits types segments text).map (v :: ·)).Pairwise Preferred := by
        rw [List.pairwise_map]
        exact (ih text).imp .later
      cases segment with
      | literal literal =>
          rw [splits]
          split
          · exact ih _
          · exact .nil
      | placeholder p =>
          simp only [splits]
          rw [List.pairwise_append]
          refine ⟨?_, ?_, ?_⟩
          · split
            · rw [List.pairwise_flatMap]
              -- With the same first value the rest decides, and otherwise the longer value does.
              refine ⟨fun r _ => hlater _ _, (pairwise_readings _ _).imp ?_⟩
              intro a b hlt vs hvs ws hws
              obtain ⟨vs, -, rfl⟩ := List.mem_map.1 hvs
              obtain ⟨ws, -, rfl⟩ := List.mem_map.1 hws
              exact .longer hlt
            · exact .nil
          · split
            · exact hlater none text
            · exact .nil
          · intro vs hvs ws hws
            split at hvs
            · obtain ⟨r, -, hvs⟩ := List.mem_flatMap.1 hvs
              obtain ⟨vs, -, rfl⟩ := List.mem_map.1 hvs
              split at hws
              · obtain ⟨ws, -, rfl⟩ := List.mem_map.1 hws
                exact .taken
              · cases hws
            · cases hvs

/-- The first split is the best one. -/
theorem head?_splits_eq_some_iff {types : TypeRegistry} {segments : List Segment}
    {text : List Char} {values : Values} :
    (splits types segments text).head? = some values ↔ IsBest types segments text values := by
  have hfirst {vs : Values} (h : (splits types segments text).head? = some vs) :
      IsBest types segments text vs := by
    obtain ⟨later, hlist⟩ := List.head?_eq_some_iff.1 h
    have hpairwise := pairwise_splits types segments text
    rw [hlist, List.pairwise_cons] at hpairwise
    refine ⟨mem_splits_iff.1 (List.mem_of_mem_head? h), fun others hothers => ?_⟩
    have hmem := mem_splits_iff.2 hothers
    rw [hlist] at hmem
    exact (List.mem_cons.1 hmem).imp id (hpairwise.1 others)
  constructor
  · exact hfirst
  · intro hbest
    cases hhead : (splits types segments text).head? with
    | none =>
        have hnil := List.head?_eq_none_iff.1 hhead
        have hmem := mem_splits_iff.2 hbest.1
        rw [hnil] at hmem
        cases hmem
    | some vs => rw [(hfirst hhead).unique hbest]

-- Of two numbers side by side the first one takes all digits but one.
example : (splits .builtIn [.placeholder ⟨.none, "i:a".toList, false, 0⟩,
    .placeholder ⟨.none, "i:b".toList, false, 5⟩] ['1', '2', '3']).head? =
    some [some ['1', '2'], some ['3']] := by
  decide

/-- There is a first split if there is any. -/
theorem isSome_head?_splits {types : TypeRegistry} {segments : List Segment} {text : List Char} :
    (splits types segments text).head?.isSome = true ↔
      ∃ values, Splits types segments text values := by
  simp only [← mem_splits_iff]
  cases splits types segments text with
  | nil => simp
  | cons values later => simp

/-! ## Parameters -/

/-- The parameters that values give: those of the placeholders with a name that are there. -/
def reported : List Segment → Values → Params
  | .literal _ :: segments, values => reported segments values
  | .placeholder p :: segments, some value :: values =>
    if p.isAnonymous then reported segments values
    else (p.name, String.ofList value) :: reported segments values
  | .placeholder _ :: segments, none :: values => reported segments values
  | _, _ => []

end PathRouter.Pattern
