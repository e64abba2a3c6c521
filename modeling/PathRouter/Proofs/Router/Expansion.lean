import PathRouter.Router.Generate
import PathRouter.Proofs.Dictionary
import PathRouter.Proofs.Pattern.Compilation
import PathRouter.Proofs.Pattern.Scan
import PathRouter.Proofs.Request.Spelling

/-!
# Expanded patterns

A pattern whose placeholders are replaced by values is a text that can be split along the segments
of the pattern again. The other way round, the values of a split bring back the text that was split.
-/

namespace PathRouter

open Pattern Request

/-- The text that segments become. -/
def expansion (values : Dictionary String) (segments : List Segment) : List Char :=
  segments.flatMap (Segment.expand values)

/-- The values that the placeholders of segments are given. -/
def givenValues (values : Dictionary String) : List Segment → Values
  | [] => []
  | .literal _ :: segments => givenValues values segments
  | .placeholder p :: segments => (p.value? values).map String.toList :: givenValues values segments

/-- The values can stand in place of the placeholders: there is one wherever one is needed, and each
is a text over the class of its placeholder. -/
structure Fits (types : TypeRegistry) (segments : List Segment) (values : Dictionary String) :
    Prop where
  required : ∀ p, .placeholder p ∈ segments → p.optional = false → (p.value? values).isSome = true
  accepted : ∀ p value, .placeholder p ∈ segments → p.value? values = some value →
    value.toList ≠ [] ∧ ∀ c ∈ value.toList, types.accepts p.tag c = true

theorem fits_iff {types : TypeRegistry} {segments : List Segment} {values : Dictionary String} :
    Fits types segments values ↔ ∀ p ∈ Segment.placeholders segments,
      (p.optional = false → (p.value? values).isSome = true) ∧
        ∀ value ∈ p.value? values,
          value.toList ≠ [] ∧ value.toList.all (types.accepts p.tag) = true := by
  simp only [Segment.mem_placeholders_iff, List.all_eq_true]
  constructor
  · intro h p hp
    exact ⟨h.required p hp, fun value => h.accepted p value hp⟩
  · intro h
    exact ⟨fun p hp => (h p hp).1, fun p value hp => (h p hp).2 value⟩

instance (types : TypeRegistry) (segments : List Segment) (values : Dictionary String) :
    Decidable (Fits types segments values) :=
  decidable_of_iff' _ fits_iff

theorem Fits.tail {types : TypeRegistry} {segment : Segment} {segments : List Segment}
    {values : Dictionary String} (h : Fits types (segment :: segments) values) :
    Fits types segments values :=
  ⟨fun p hp => h.required p (List.mem_cons_of_mem _ hp),
    fun p value hp => h.accepted p value (List.mem_cons_of_mem _ hp)⟩

/-- What segments become can be split into the values that were given. -/
theorem Fits.splits {types : TypeRegistry} {segments : List Segment} {values : Dictionary String}
    (h : Fits types segments values) :
    Splits types segments (expansion values segments) (givenValues values segments) := by
  induction segments with
  | nil => exact .nil
  | cons segment segments ih =>
      cases segment with
      | literal text => exact .literal (ih h.tail)
      | placeholder p =>
          rw [expansion, List.flatMap_cons]
          cases hvalue : p.value? values with
          | none =>
              have hoptional : p.optional = true := by
                cases ho : p.optional with
                | true => rfl
                | false =>
                    have := h.required p List.mem_cons_self ho
                    rw [hvalue] at this
                    cases this
              simp only [Segment.expand, hvalue, hoptional, if_true, List.nil_append, givenValues,
                Option.map_none]
              exact .absent hoptional (ih h.tail)
          | some value =>
              obtain ⟨hne, hall⟩ := h.accepted p value List.mem_cons_self hvalue
              simp only [Segment.expand, hvalue, givenValues, Option.map_some, List.append_assoc]
              exact .present hne hall (ih h.tail)

/-! ## Other spellings -/

/-- Values in other spellings. -/
def Respelled (values written : Dictionary String) : Prop :=
  ∀ name, Option.Rel (fun value spelled => Spelling value.toList spelled.toList)
    (values.get? name) (written.get? name)

/-- No literal text holds a special character. -/
def PlainLiterals (segments : List Segment) : Prop :=
  ∀ text, .literal text ∈ segments → Plain text

instance (segments : List Segment) : Decidable (PlainLiterals segments) :=
  decidable_of_iff (∀ text ∈ Segment.literals segments, Plain text)
    (forall_congr' fun _ => imp_congr Segment.mem_literals_iff Iff.rfl)

theorem PlainLiterals.tail {segment : Segment} {segments : List Segment}
    (h : PlainLiterals (segment :: segments)) : PlainLiterals segments :=
  fun text htext => h text (List.mem_cons_of_mem _ htext)

theorem spelling_lead (lead : Lead) : Spelling lead.text lead.text := by
  apply Spelling.refl
  cases lead <;> decide

/-- What segments become with values in other spellings is a spelling of what they become. -/
theorem Respelled.expansion {values written : Dictionary String} (h : Respelled values written)
    {segments : List Segment} (hplain : PlainLiterals segments) :
    Spelling (expansion values segments) (expansion written segments) := by
  induction segments with
  | nil => exact .nil
  | cons segment segments ih =>
      apply Spelling.append _ (ih hplain.tail)
      cases segment with
      | literal text => exact .refl (hplain text List.mem_cons_self)
      | placeholder p =>
          have hvalue : Option.Rel (fun value spelled => Spelling value.toList spelled.toList)
              (p.value? values) (p.value? written) := by
            unfold Placeholder.value?
            split
            · exact .none
            · exact h p.name
          simp only [Segment.expand]
          generalize p.value? values = value at hvalue
          generalize p.value? written = spelled at hvalue
          cases hvalue with
          | some hspelled => exact (spelling_lead p.lead).append hspelled
          | none =>
              dsimp only
              split
              · exact .nil
              · exact spelling_lead p.lead

/-! ## Values of splits -/

theorem Pattern.Placeholder.value?_of_named {p : Placeholder} (h : p.isAnonymous = false)
    (values : Dictionary String) : p.value? values = values.get? p.name := by
  rw [Placeholder.value?, h, if_neg Bool.false_ne_true]

/-- Every placeholder has a name of its own. -/
def NamedApart (segments : List Segment) : Prop :=
  (∀ p, .placeholder p ∈ segments → p.isAnonymous = false) ∧ (parameterNames segments).Nodup

instance (segments : List Segment) : Decidable (NamedApart segments) :=
  decidable_of_iff ((∀ p ∈ Segment.placeholders segments, p.isAnonymous = false) ∧
    (parameterNames segments).Nodup)
    (and_congr (forall_congr' fun _ => imp_congr Segment.mem_placeholders_iff Iff.rfl) Iff.rfl)

theorem NamedApart.tail {segment : Segment} {segments : List Segment}
    (h : NamedApart (segment :: segments)) : NamedApart segments := by
  constructor
  · intro p hp
    exact h.1 p (List.mem_cons_of_mem _ hp)
  · exact h.2.sublist ((List.sublist_cons_self _ _).filterMap _)

theorem NamedApart.not_mem {p : Placeholder} {segments : List Segment}
    (h : NamedApart (.placeholder p :: segments)) : p.name ∉ parameterNames segments := by
  have hnodup := h.2
  rw [parameterNames_of_named (h.1 p List.mem_cons_self), List.nodup_cons] at hnodup
  exact hnodup.1

/-- The reported parameters have names of placeholders, in their order. -/
theorem reported_sublist (segments : List Segment) (values : Values) :
    ((reported segments values).map (·.1)).Sublist (parameterNames segments) := by
  induction segments generalizing values with
  | nil => simp [reported]
  | cons segment segments ih =>
      cases segment with
      | literal text => exact ih values
      | placeholder p =>
          have hskip (values : Values) : ((reported segments values).map (·.1)).Sublist
              (parameterNames (.placeholder p :: segments)) :=
            (ih values).trans
              ((List.sublist_cons_self (Segment.placeholder p) segments).filterMap _)
          cases values with
          | nil => exact List.nil_sublist _
          | cons value values =>
              cases value with
              | none => exact hskip values
              | some value =>
                  cases hp : p.isAnonymous with
                  | true => simpa [reported, hp] using hskip values
                  | false => simpa [reported, parameterNames, hp] using ih values

/-- The parameters of a split lead back to its values. -/
theorem givenValues_reported {types : TypeRegistry} {segments : List Segment} {text : List Char}
    {values : Values} (h : Splits types segments text values) (hnames : NamedApart segments)
    {given : Dictionary String} (hgiven : ∀ name ∈ parameterNames segments,
      given.get? name = (Dictionary.ofList (reported segments values)).get? name) :
    givenValues given segments = values := by
  induction h with
  | nil => rfl
  | literal _ ih => exact ih hnames.tail hgiven
  | @absent p segments text values _ _ ih =>
      have hp := hnames.1 p List.mem_cons_self
      rw [parameterNames_of_named hp] at hgiven
      have hnone : p.value? given = none := by
        rw [Placeholder.value?_of_named hp, hgiven p.name List.mem_cons_self]
        apply Dictionary.get?_ofList_eq_none
        intro hmem
        exact hnames.not_mem ((reported_sublist segments values).subset hmem)
      rw [givenValues, hnone, Option.map_none]
      apply congrArg
      apply ih hnames.tail
      intro name hname
      exact hgiven name (List.mem_cons_of_mem _ hname)
  | @present p value segments text values _ _ _ ih =>
      have hp := hnames.1 p List.mem_cons_self
      have hreported : reported (.placeholder p :: segments) (some value :: values) =
          (p.name, String.ofList value) :: reported segments values := by
        simp [reported, hp]
      rw [parameterNames_of_named hp, hreported] at hgiven
      have hvalue : p.value? given = some (String.ofList value) := by
        rw [Placeholder.value?_of_named hp, hgiven p.name List.mem_cons_self,
          Dictionary.get?_ofList_cons, if_pos rfl, Dictionary.get?_ofList_eq_none, Option.none_or]
        intro hmem
        exact hnames.not_mem ((reported_sublist segments values).subset hmem)
      rw [givenValues, hvalue, Option.map_some, String.toList_ofList]
      apply congrArg
      apply ih hnames.tail
      intro name hname
      have hne : name ≠ p.name := by
        rintro rfl
        exact hnames.not_mem hname
      rw [hgiven name (List.mem_cons_of_mem _ hname), Dictionary.get?_ofList_cons, if_neg hne,
        Option.or_none]

/-- The values that were given are reported under the names of their placeholders. -/
theorem reported_givenValues (values : Dictionary String) {segments : List Segment}
    (h : ∀ p, .placeholder p ∈ segments → p.isAnonymous = false) :
    reported segments (givenValues values segments) = values.select (parameterNames segments) := by
  induction segments with
  | nil => rfl
  | cons segment segments ih =>
      have hlater := ih fun p hp => h p (List.mem_cons_of_mem _ hp)
      cases segment with
      | literal text => exact hlater
      | placeholder p =>
          have hp := h p List.mem_cons_self
          rw [givenValues, Placeholder.value?_of_named hp, parameterNames_of_named hp,
            Dictionary.select, List.filterMap_cons]
          cases values.get? p.name with
          | none => exact hlater
          | some value =>
              simp only [Option.map_some, reported, hp, String.ofList_toList]
              exact congrArg ((p.name, value) :: ·) hlater

/-- The values of a split bring back the text that was split. -/
theorem expansion_eq {types : TypeRegistry} {segments : List Segment} {text : List Char}
    {values : Values} (h : Splits types segments text values) {given : Dictionary String}
    (hgiven : givenValues given segments = values) : expansion given segments = text := by
  induction h with
  | nil => rfl
  | literal _ ih => exact congrArg _ (ih hgiven)
  | @absent p segments text values hoptional _ ih =>
      obtain ⟨hvalue, hlater⟩ := List.cons.inj hgiven
      rw [Option.map_eq_none_iff] at hvalue
      have hlater := ih hlater
      simp only [expansion, List.flatMap_cons, Segment.expand, hvalue, hoptional] at hlater ⊢
      exact hlater
  | @present p value segments text values _ _ _ ih =>
      obtain ⟨hvalue, hlater⟩ := List.cons.inj hgiven
      obtain ⟨own, hown, rfl⟩ := Option.map_eq_some_iff.1 hvalue
      have hlater := ih hlater
      simp only [expansion, List.flatMap_cons, Segment.expand, hown, List.append_assoc] at hlater ⊢
      rw [hlater]

end PathRouter
