import PathRouter.Proofs.Regex.Groups

/-!
# How terms end

A term that begins with the anchor for the beginning of the text and ends with the anchor for its
end matches whole texts only, whatever stands between them. What a way through the term has still to
do always ends with the second anchor, and nothing on the way touches the span of the match.
-/

namespace PathRouter.Regex

open Unicode (CharSet)

/-! ## The span of the match -/

/-- The same is noted of the match itself, which is group 0. -/
def SameMatch (a b : Captures) : Prop := ∀ stop, b.lookup (0, stop) = a.lookup (0, stop)

theorem SameMatch.refl (captures : Captures) : SameMatch captures captures := fun _ => rfl

theorem SameMatch.trans {a b c : Captures} (h : SameMatch a b) (h' : SameMatch b c) :
    SameMatch a c :=
  fun stop => (h' stop).trans (h stop)

theorem SameMatch.note (captures : Captures) {group : Nat} (hgroup : 0 < group) (stop : Bool)
    (index : Nat) : SameMatch captures (captures.note group stop index) := by
  intro stop'
  exact lookup_note_of_ne (Nat.ne_of_lt hgroup) stop stop' index

/-- The goal notes nothing of the match itself. -/
def Goal.Inner : Goal → Prop
  | .term t => Positive t.groups
  | .close index => 0 < index
  | .again _ _ body => Positive body.groups

/-- The goals end with other ones, and what comes before these notes nothing of the match. -/
def Behind (goals goals' : Goals) : Prop :=
  ∃ first, goals' = first ++ goals ∧ ∀ goal ∈ first, goal.Inner

theorem Behind.refl (goals : Goals) : Behind goals goals := ⟨[], rfl, List.forall_mem_nil _⟩

theorem Behind.cons {goal : Goal} (hgoal : goal.Inner) (goals : Goals) :
    Behind goals (goal :: goals) :=
  ⟨[goal], rfl, List.forall_mem_singleton.2 hgoal⟩

theorem Behind.trans {a b c : Goals} (h : Behind a b) (h' : Behind b c) : Behind a c := by
  obtain ⟨first, rfl, hfirst⟩ := h
  obtain ⟨first', rfl, hfirst'⟩ := h'
  refine ⟨first' ++ first, (List.append_assoc _ _ _).symm, ?_⟩
  exact List.forall_mem_append.2 ⟨hfirst', hfirst⟩

/-- A step leaves the goals behind it as they are, and the span of the match too. -/
def Step.Stays (goals : Goals) (captures : Captures) : Step → Prop
  | .done _ captures' => SameMatch captures captures'
  | .read _ goals' captures' => Behind goals goals' ∧ SameMatch captures captures'

/-- All steps of a visit stay before the goals behind it. -/
def Visit.Stays (visit : Visit) : Prop :=
  ∀ goals passed captures, ∀ step ∈ visit goals passed captures, step.Stays goals captures

namespace Step

theorem Stays.behind {goals goals' : Goals} {captures : Captures} {step : Step}
    (h : step.Stays goals' captures) (hgoals : Behind goals goals') :
    step.Stays goals captures := by
  cases step with
  | done passed captures' => exact h
  | read set goals'' captures' => exact ⟨hgoals.trans h.1, h.2⟩

theorem Stays.sameMatch {goals : Goals} {captures captures' : Captures} {step : Step}
    (h : step.Stays goals captures') (hsame : SameMatch captures captures') :
    step.Stays goals captures := by
  cases step with
  | done passed captures'' => exact hsame.trans h
  | read set goals' captures'' => exact ⟨h.1, hsame.trans h.2⟩

theorem stays_either {goals : Goals} {captures : Captures} {greedy : Bool} {a b : List Step}
    (ha : ∀ step ∈ a, step.Stays goals captures) (hb : ∀ step ∈ b, step.Stays goals captures) :
    ∀ step ∈ either greedy a b, step.Stays goals captures :=
  fun step h => (mem_of_mem_either h).elim (ha step) (hb step)

theorem stays_andThen {goals : Goals} {captures : Captures} {steps : List Step}
    {next : List Goals → Captures → List Step} (h : ∀ step ∈ steps, step.Stays goals captures)
    (hnext : ∀ passed captures', ∀ step ∈ next passed captures', step.Stays goals captures') :
    ∀ step ∈ andThen steps next, step.Stays goals captures := by
  intro step hstep
  obtain ⟨first, hfirst, hstep⟩ := List.mem_flatMap.1 hstep
  have hfirst := h first hfirst
  cases first with
  | done passed captures' => exact (hnext passed captures' step hstep).sameMatch hfirst
  | read set goals' captures' =>
      obtain rfl := List.mem_singleton.1 hstep
      exact hfirst

theorem stays_done (goals : Goals) (passed : List Goals) (captures : Captures) :
    ∀ step ∈ [Step.done passed captures], step.Stays goals captures :=
  List.forall_mem_singleton.2 (SameMatch.refl captures)

end Step

/-- The visit of something with one more goal put before those behind it. -/
theorem Visit.Stays.before {visit : Visit} (h : visit.Stays) {goal : Goal} (hgoal : goal.Inner)
    (goals : Goals) (passed : List Goals) (captures : Captures) :
    ∀ step ∈ visit (goal :: goals) passed captures, step.Stays goals captures :=
  fun step hstep => (h _ passed captures step hstep).behind (.cons hgoal goals)

section Rounds
variable {visit : Visit} (h : visit.Stays) {body : Term} (hbody : Positive body.groups)
  (number : Nat) (greedy : Bool)
include h hbody

theorem stays_visitAgain : (visitAgain visit number greedy body).Stays := by
  intro goals passed captures
  simp only [visitAgain]
  split
  · exact List.forall_mem_nil _
  · apply Step.stays_either
    · intro step hstep
      apply h.before _ goals _ captures step (Step.mem_of_mem_reads hstep)
      exact hbody
    · exact Step.stays_done goals _ captures

theorem stays_round (goals : Goals) (passed : List Goals) (captures : Captures) :
    ∀ step ∈ Step.andThen (visit (.again number greedy body :: goals) passed captures)
      (fun passed captures => if .again number greedy body :: goals ∈ passed then []
        else [.done ((.again number greedy body :: goals) :: passed) captures]),
      step.Stays goals captures := by
  apply Step.stays_andThen
  · apply h.before
    exact hbody
  · intro passed captures
    split
    · exact List.forall_mem_nil _
    · exact Step.stays_done goals _ captures

theorem stays_visitAnyNumber : (visitAnyNumber visit number greedy body).Stays := by
  intro goals passed captures
  simp only [visitAnyNumber]
  split
  · exact stays_visitAgain h hbody number greedy goals passed captures
  · split
    · exact List.forall_mem_nil _
    · apply Step.stays_either
      · exact stays_round h hbody number greedy goals _ captures
      · exact Step.stays_done goals _ captures

theorem stays_visitUpTo (more : Nat) : (visitUpTo visit number greedy body more).Stays := by
  induction more with
  | zero => exact Step.stays_done
  | succ more ih =>
      intro goals passed captures
      simp only [visitUpTo]
      split
      · exact List.forall_mem_nil _
      · apply Step.stays_either
        · apply Step.stays_andThen
          · apply h.before
            exact hbody
          · exact ih goals
        · exact Step.stays_done goals _ captures

theorem stays_visitRounds (min : Nat) (more : Option Nat) :
    (visitRounds visit number greedy body min more).Stays := by
  induction min with
  | zero =>
      cases more with
      | none => exact stays_visitAnyNumber h hbody number greedy
      | some more => exact stays_visitUpTo h hbody number greedy more
  | succ min ih =>
      have further : Visit.Stays fun goals passed captures =>
          Step.andThen (visit (.term (.rep number min more greedy body) :: goals) passed captures)
            (visitRounds visit number greedy body min more goals) := by
        intro goals passed captures
        apply Step.stays_andThen
        · apply h.before
          exact hbody
        · exact ih goals
      cases min with
      | succ min => exact further
      | zero =>
          cases more with
          | none => exact stays_round h hbody number greedy
          | some more => exact further

end Rounds

/-- A term whose groups are numbered from one on touches neither what is to be done behind it nor
the span of the match. -/
theorem Term.stays_visit (p : Place) {t : Term} (ht : Positive t.groups) : (t.visit p).Stays := by
  induction t with
  | empty => exact Step.stays_done
  | read set =>
      intro goals passed captures
      exact List.forall_mem_singleton.2 ⟨.refl goals, .refl captures⟩
  | look l =>
      intro goals passed captures
      simp only [visit]
      split
      · exact Step.stays_done goals passed captures
      · exact List.forall_mem_nil _
  | seq a b iha ihb =>
      obtain ⟨ha, hb⟩ := positive_append_iff.1 ht
      intro goals passed captures
      apply Step.stays_andThen
      · apply (iha ha).before
        exact hb
      · exact ihb hb goals
  | alt number a b iha ihb =>
      obtain ⟨ha, hb⟩ := positive_append_iff.1 ht
      intro goals passed captures
      simp only [visit]
      split
      · exact List.forall_mem_nil _
      · apply Step.stays_either
        · exact iha ha goals _ captures
        · exact ihb hb goals _ captures
  | rep number min more greedy body ih =>
      have hbody : Positive body.groups := ht
      exact stays_visitRounds (ih hbody) hbody number greedy min more
  | group index name body ih =>
      obtain ⟨hindex, hbody⟩ := List.forall_mem_cons.1 ht
      intro goals passed captures
      -- Its index is not zero, so its ends are not noted as those of the match.
      apply Step.stays_andThen
      · intro step hstep
        apply Step.Stays.sameMatch _ (.note captures hindex false p.index)
        apply (ih hbody).before _ goals passed _ step hstep
        exact hindex
      · intro passed captures
        exact List.forall_mem_singleton.2 (.note captures hindex true p.index)

theorem Goal.stays_visit (p : Place) {goal : Goal} (h : goal.Inner) : (goal.visit p).Stays := by
  cases goal with
  | term t => exact t.stays_visit p h
  | close index =>
      intro goals passed captures
      exact List.forall_mem_singleton.2 (.note captures h true p.index)
  | again number greedy body => exact stays_visitAgain (body.stays_visit p h) h number greedy

/-! ## The anchor for the end -/

/-- The last item of the term is the anchor for the end of the text. -/
def Term.EndsText : Term → Prop
  | .look l => l = .textEnd
  | .seq _ b => b.EndsText
  | _ => False

/-- What remains to be done ends with the anchor for the end of the text, behind which the end of
the match is noted. -/
def Goals.Closing (goals : Goals) : Prop :=
  ∃ t : Term, t.EndsText ∧ Positive t.groups ∧ Behind [.term t, .close 0] goals

/-- The match began at `start`, and it is complete only if no character follows. -/
def Step.Ends (start : Nat) (p : Place) : Step → Prop
  | .done _ captures => p.after = none ∧ captures.span? 0 = some (start, p.index)
  | .read _ goals captures => goals.Closing ∧ captures.lookup (0, false) = some start

/-- The term that ends with the anchor for the end has been passed where no character follows, or
its end remains to be done. -/
def Step.Passes (start : Nat) (p : Place) : Step → Prop
  | .done _ captures => p.after = none ∧ captures.lookup (0, false) = some start
  | .read _ goals captures => goals.Closing ∧ captures.lookup (0, false) = some start

/-- A term that ends with the anchor for the end is passed only where no character follows. -/
theorem Term.EndsText.visit {p : Place} {t : Term} (ht : t.EndsText) (hgroups : Positive t.groups)
    {start : Nat} (passed : List Goals) {captures : Captures}
    (hstart : captures.lookup (0, false) = some start) :
    ∀ step ∈ t.visit p [.close 0] passed captures, step.Passes start p := by
  induction t generalizing passed captures with
  | look l =>
      obtain rfl : l = .textEnd := ht
      simp only [Term.visit]
      split
      · next hlook =>
          exact List.forall_mem_singleton.2 ⟨Option.isNone_iff_eq_none.1 hlook, hstart⟩
      · exact List.forall_mem_nil _
  | seq a b _ ihb =>
      obtain ⟨ha, hb⟩ := positive_append_iff.1 hgroups
      intro step hstep
      obtain ⟨first, hfirst, hstep⟩ := List.mem_flatMap.1 hstep
      have hstays := a.stays_visit p ha _ passed captures first hfirst
      cases first with
      | done passed' captures' =>
          have hstart' := (hstays false).trans hstart
          exact ihb ht hb passed' hstart' step hstep
      | read set goals captures' =>
          obtain rfl := List.mem_singleton.1 hstep
          exact ⟨⟨b, ht, hb, hstays.1⟩, (hstays.2 false).trans hstart⟩
  | _ => exact ht.elim

/-- What is to be done in the end is done at the end of the text. -/
theorem Goals.Closing.visit {p : Place} {goals : Goals} (h : goals.Closing) {start : Nat}
    (passed : List Goals) {captures : Captures}
    (hstart : captures.lookup (0, false) = some start) :
    ∀ step ∈ goals.visit p passed captures, step.Ends start p := by
  obtain ⟨t, ht, hgroups, first, rfl, hfirst⟩ := h
  induction first generalizing passed captures with
  | nil =>
      intro step hstep
      obtain ⟨before, hbefore, hstep⟩ := List.mem_flatMap.1 hstep
      have hends := ht.visit hgroups passed hstart before hbefore
      cases before with
      | read set goals captures' =>
          obtain rfl := List.mem_singleton.1 hstep
          exact hends
      | done passed' captures' =>
          obtain rfl := List.mem_singleton.1 hstep
          exact ⟨hends.1, span?_note_end hends.2 p.index⟩
  | cons goal first ih =>
      obtain ⟨hgoal, hfirst⟩ := List.forall_mem_cons.1 hfirst
      intro step hstep
      obtain ⟨before, hbefore, hstep⟩ := List.mem_flatMap.1 hstep
      have hstays := goal.stays_visit p hgoal _ passed captures before hbefore
      cases before with
      | done passed' captures' =>
          have hstart' := (hstays false).trans hstart
          exact ih passed' hstart' hfirst step hstep
      | read set goals captures' =>
          obtain rfl := List.mem_singleton.1 hstep
          have hbehind : Behind [.term t, .close 0] (first ++ [.term t, .close 0]) :=
            ⟨first, rfl, hfirst⟩
          exact ⟨⟨t, ht, hgroups, hbehind.trans hstays.1⟩, (hstays.2 false).trans hstart⟩

/-- A match that is followed to its end spans the text up to its end. -/
theorem span?_of_follow {start index : Nat} {before : Option Char} {steps : List Step}
    {text : List Char} (h : ∀ step ∈ steps, step.Ends start ⟨before, index, text.head?⟩)
    {captures : Captures} (hfollow : follow index steps text = some captures) :
    captures.span? 0 = some (start, index + text.length) := by
  induction text generalizing index before steps with
  | nil =>
      obtain ⟨step, hstep, houtcome⟩ := List.exists_of_findSome?_eq_some hfollow
      have hends := h step hstep
      cases step with
      | done passed captures' =>
          obtain rfl := Option.some.inj houtcome
          exact hends.2
      | read set goals captures' => cases houtcome
  | cons c text ih =>
      obtain ⟨step, hstep, houtcome⟩ := List.exists_of_findSome?_eq_some hfollow
      have hends := h step hstep
      cases step with
      | done passed captures' => cases hends.1
      | read set goals captures' =>
          rw [outcome?_read_cons] at houtcome
          split at houtcome
          · have hspan := ih (hends.1.visit [] hends.2) houtcome
            rw [hspan, List.length_cons]
            congr 2
            omega
          · cases houtcome

/-- A term between the two anchors matches whole texts only. -/
theorem span?_of_search {t : Term} (hopening : [.look .textStart] <+: t.items) (hend : t.EndsText)
    (hgroups : Positive t.groups) {text : List Char} {captures : Captures}
    (h : t.search text = some captures) : captures.span? 0 = some (0, text.length) := by
  have hclosing : Goals.Closing [.term t, .close 0] := ⟨t, hend, hgroups, .refl _⟩
  rw [search_of_textStart hopening] at h
  have hspan := span?_of_follow (hclosing.visit [] rfl) h
  rwa [Nat.zero_add] at hspan

end PathRouter.Regex
