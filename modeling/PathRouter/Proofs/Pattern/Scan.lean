import PathRouter.Pattern.Segment
import PathRouter.Proofs.Outcome

/-!
# Scanned patterns

What the segments of a pattern have to do with its text.
-/

namespace PathRouter.Pattern.Segment

def placeholders (segments : List Segment) : List Placeholder :=
  segments.filterMap fun
    | .literal _ => none
    | .placeholder p => some p

def literals (segments : List Segment) : List (List Char) :=
  segments.filterMap fun
    | .literal text => some text
    | .placeholder _ => none

theorem mem_placeholders_iff {segments : List Segment} {p : Placeholder} :
    p ∈ placeholders segments ↔ .placeholder p ∈ segments := by
  rw [placeholders, List.mem_filterMap]
  constructor
  · rintro ⟨segment, hmem, h⟩
    cases segment with
    | literal text => cases h
    | placeholder q => exact Option.some.inj h ▸ hmem
  · intro h
    exact ⟨_, h, rfl⟩

theorem mem_literals_iff {segments : List Segment} {text : List Char} :
    text ∈ literals segments ↔ .literal text ∈ segments := by
  rw [literals, List.mem_filterMap]
  constructor
  · rintro ⟨segment, hmem, h⟩
    cases segment with
    | literal other => exact Option.some.inj h ▸ hmem
    | placeholder q => cases h
  · intro h
    exact ⟨_, h, rfl⟩

/-- The text of segments, as it stands in a pattern. -/
def textOf (segments : List Segment) : List Char := segments.flatMap text

@[simp] theorem textOf_append (as bs : List Segment) : textOf (as ++ bs) = textOf as ++ textOf bs :=
  List.flatMap_append

theorem textOf_ofText (cs : List Char) : textOf (ofText cs) = cs := by
  cases cs with
  | nil => rfl
  | cons c cs => simp [ofText, textOf, text]

theorem takeLead_append (cs : List Char) : (takeLead cs).1 ++ (takeLead cs).2.text = cs := by
  unfold takeLead
  split
  · next h =>
      obtain ⟨ds, rfl⟩ := List.getLast?_eq_some_iff.1 h
      rw [List.dropLast_concat]
      rfl
  · next h =>
      obtain ⟨ds, rfl⟩ := List.getLast?_eq_some_iff.1 h
      rw [List.dropLast_concat]
      rfl
  · exact List.append_nil cs

theorem textOf_beforeBracket (start : Nat) (cs inner : List Char) (optional : Bool) :
    textOf (beforeBracket start cs inner optional) =
      cs ++ '[' :: inner ++ ']' :: (if optional then ['?'] else []) := by
  have hfull : textOf (beforeBracket start cs inner optional) =
      ((takeLead cs).1 ++ (takeLead cs).2.text) ++
        '[' :: inner ++ ']' :: (if optional then ['?'] else []) := by
    simp only [beforeBracket, textOf_append, textOf_ofText]
    simp [textOf, text, Placeholder.full]
  rw [hfull, takeLead_append]

mutual

theorem textOf_scanText {start : Nat} {cs : List Char} {rest : List Char} {segments : List Segment}
    (h : scanText start cs rest = .ok segments) : textOf segments = cs ++ rest := by
  match rest with
  | [] =>
      rw [scanText] at h
      rw [← Except.ok.inj h, textOf_ofText, List.append_nil]
  | c :: rest =>
      rw [scanText] at h
      split at h
      · next hc =>
          subst hc
          exact textOf_scanInner h
      · rw [textOf_scanText h]
        simp
termination_by rest.length

theorem textOf_scanInner {start : Nat} {cs inner : List Char} {rest : List Char}
    {segments : List Segment} (h : scanInner start cs inner rest = .ok segments) :
    textOf segments = cs ++ '[' :: (inner ++ rest) := by
  match rest with
  | [] => cases h
  | c :: rest =>
      rw [scanInner] at h
      split at h
      · cases h
      · split at h
        · next hc =>
            subst hc
            split at h
            · cases h
            · dsimp only at h
              split at h
              all_goals
                obtain ⟨later, hlater, hsegments⟩ := bind_eq_ok_iff.1 h
                rw [← pure_eq_ok_iff.1 hsegments, textOf_append, textOf_beforeBracket,
                  textOf_scanText hlater]
                simp
        · rw [textOf_scanInner h]
          simp
termination_by rest.length

end

/-- The texts of the segments make up the pattern. -/
theorem textOf_scan {pattern : String} {segments : List Segment}
    (h : scan pattern = .ok segments) : textOf segments = pattern.toList :=
  textOf_scanText h

theorem scanText_of_not_mem (start : Nat) {cs rest : List Char} (h : '[' ∉ rest) :
    scanText start cs rest = .ok (ofText (cs ++ rest)) := by
  induction rest generalizing cs with
  | nil => rw [scanText, List.append_nil]
  | cons c rest ih =>
      rw [List.mem_cons, not_or] at h
      rw [scanText, if_neg (Ne.symm h.1), ih h.2, List.append_assoc, List.singleton_append]

/-- A pattern without brackets is one literal text. -/
theorem scan_of_not_hasPlaceholders {pattern : String} (h : hasPlaceholders pattern = false) :
    scan pattern = .ok (ofText pattern.toList) := by
  apply scanText_of_not_mem
  simpa [hasPlaceholders] using h

end PathRouter.Pattern.Segment
