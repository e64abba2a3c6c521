import PathRouter.Proofs.Regex.Machine

/-!
# Matching by backtracking

What a term matches is said here once more, by trying: an attempt at a term is given what has to be
attempted behind it, and where there is a choice, the second way is taken only if the first one
fails. Attempts know no branching goals that were passed before, no numbers and no lists of goals.

A term whose unbounded repetitions repeat single characters is matched by the machine as by
attempts: no way comes back to a goal it has passed, because goals lose weight as long as no
character is read.
-/

namespace PathRouter.Regex

open Unicode (CharSet)

/-- A place in a text with all that follows. -/
structure Cursor where
  /-- The character before. -/
  before : Option Char
  /-- How many characters stand before. -/
  index : Nat
  /-- The characters that follow. -/
  ahead : List Char

namespace Cursor

/-- What a condition sees of a cursor. -/
def place (s : Cursor) : Place := ⟨s.before, s.index, s.ahead.head?⟩

/-- The cursor behind one more character. -/
def next (s : Cursor) (c : Char) (rest : List Char) : Cursor := ⟨some c, s.index + 1, rest⟩

end Cursor

/-- What is noted in the end, if matching goes on at a cursor. -/
abbrev Continuation := Cursor → Captures → Option Captures

/-- The first result, or else the second; the other way round unless `greedy`. -/
def prefer (greedy : Bool) (a b : Option Captures) : Option Captures :=
  if greedy then a <|> b else b <|> a

/-- An attempt at one character out of a set. -/
def attemptRead (set : CharSet) (k : Continuation) : Continuation := fun s captures =>
  match s.ahead with
  | [] => none
  | c :: rest => if set.contains c then k (s.next c rest) captures else none

/-- An attempt at up to `more` rounds. -/
def attemptUpTo (body : Continuation → Continuation) (greedy : Bool) (k : Continuation) :
    Nat → Continuation
  | 0 => k
  | more + 1 => fun s captures =>
    prefer greedy (body (attemptUpTo body greedy k more) s captures) (k s captures)

/-- An attempt at any number of rounds, each of which reads a character. -/
def attemptMany (body : Continuation → Continuation) (greedy : Bool) (k : Continuation) :
    Continuation :=
  fun s captures => attemptUpTo body greedy k s.ahead.length s captures

/-- An attempt at exactly `n` rounds. -/
def attemptTimes (body : Continuation → Continuation) (k : Continuation) : Nat → Continuation
  | 0 => k
  | n + 1 => body (attemptTimes body k n)

/-- An attempt at a term. -/
def Term.attempt : Term → Continuation → Continuation
  | .empty, k => k
  | .read set, k => attemptRead set k
  | .look l, k => fun s captures => if l.holds s.place then k s captures else none
  | .seq a b, k => a.attempt (b.attempt k)
  | .alt _ a b, k => fun s captures => a.attempt k s captures <|> b.attempt k s captures
  | .rep _ min (some more) greedy body, k =>
    attemptTimes body.attempt (attemptUpTo body.attempt greedy k more) min
  | .rep _ min none greedy body, k =>
    attemptTimes body.attempt (attemptMany body.attempt greedy k) min
  | .group index _ body, k => fun s captures =>
    body.attempt (fun s captures => k s (captures.note index true s.index)) s
      (captures.note index false s.index)

/-- Repetitions without a bound repeat single characters. -/
def Term.Simple : Term → Prop
  | .empty | .read _ | .look _ => True
  | .seq a b | .alt _ a b => a.Simple ∧ b.Simple
  | .rep _ _ none _ body => ∃ set, body = .read set
  | .rep _ _ (some _) _ body => body.Simple
  | .group _ _ body => body.Simple

/-! ## Weights -/

/-- How much a term weighs: more than what is left of it when a part of it is done. -/
def Term.weight : Term → Nat
  | .empty | .read _ | .look _ => 1
  | .seq a b | .alt _ a b => a.weight + b.weight + 1
  | .rep _ min more _ body => (min + more.getD 0) * (body.weight + 1) + 2
  | .group _ _ body => body.weight + 2

def Goal.weight : Goal → Nat
  | .term t => t.weight
  | .close _ | .again _ _ _ => 1

def Goals.weight : Goals → Nat
  | [] => 0
  | goal :: goals => goal.weight + Goals.weight goals

@[simp] theorem Goals.weight_nil : Goals.weight [] = 0 := rfl

@[simp] theorem Goals.weight_cons (goal : Goal) (goals : Goals) :
    Goals.weight (goal :: goals) = goal.weight + goals.weight := rfl

theorem Term.weight_pos (t : Term) : 0 < t.weight := by
  cases t <;> simp [Term.weight]

theorem Goal.weight_pos (goal : Goal) : 0 < goal.weight := by
  cases goal with
  | term t => exact t.weight_pos
  | close index => exact Nat.one_pos
  | again number greedy body => exact Nat.one_pos

theorem Goals.weight_lt_cons (goal : Goal) (goals : Goals) :
    goals.weight < Goals.weight (goal :: goals) := by
  rw [Goals.weight_cons]
  exact Nat.lt_add_of_pos_left goal.weight_pos

/-- All goals passed weigh more than `n`. -/
def Above (n : Nat) (passed : List Goals) : Prop := ∀ goals ∈ passed, n < goals.weight

theorem Above.nil (n : Nat) : Above n [] := fun _ h => nomatch h

theorem Above.cons {n : Nat} {goals : Goals} {passed : List Goals} (hg : n < goals.weight)
    (h : Above n passed) : Above n (goals :: passed) := by
  intro q hq
  rcases List.mem_cons.1 hq with rfl | hq
  · exact hg
  · exact h q hq

theorem Above.mono {m n : Nat} {passed : List Goals} (h : Above n passed) (hmn : m ≤ n) :
    Above m passed :=
  fun q hq => Nat.lt_of_le_of_lt hmn (h q hq)

theorem Above.not_mem {n : Nat} {goals : Goals} {passed : List Goals} (h : Above n passed)
    (hg : goals.weight ≤ n) : goals ∉ passed :=
  fun hmem => absurd (h goals hmem) (Nat.not_lt.2 hg)

/-- Goals behind another one weigh less. -/
theorem Above.tail {goal : Goal} {goals : Goals} {passed : List Goals}
    (h : Above (Goals.weight (goal :: goals)) passed) : Above goals.weight passed :=
  h.mono (Nat.le_of_lt (Goals.weight_lt_cons goal goals))

/-- Goals are passed on the way to what weighs less. -/
theorem Above.pass {n : Nat} {goals : Goals} {passed : List Goals} (h : Above goals.weight passed)
    (hn : n < goals.weight) : Above n (goals :: passed) :=
  .cons hn (h.mono (Nat.le_of_lt hn))

/-- The goals that a step hands on weigh more than `n`. -/
def Step.Above (n : Nat) : Step → Prop
  | .done passed _ => Regex.Above n passed
  | .read _ _ _ => True

/-- A visit hands on only goals that weigh more than those behind it. -/
def Visit.KeepsAbove (visit : Visit) : Prop :=
  ∀ n (goals : Goals) passed captures, n ≤ goals.weight → Above n passed →
    ∀ step ∈ visit goals passed captures, step.Above n

namespace Step

theorem mem_of_mem_reads {step : Step} {steps : List Step} (h : step ∈ reads steps) :
    step ∈ steps :=
  (List.mem_filter.1 h).1

theorem mem_of_mem_firstDone {step : Step} {steps : List Step} (h : step ∈ firstDone steps) :
    step ∈ steps := by
  induction steps with
  | nil => exact h
  | cons head steps ih =>
      cases head with
      | done passed captures =>
          rcases List.mem_cons.1 h with rfl | h
          · exact List.mem_cons_self
          · exact List.mem_cons_of_mem _ (mem_of_mem_reads h)
      | read set goals captures =>
          rcases List.mem_cons.1 h with rfl | h
          · exact List.mem_cons_self
          · exact List.mem_cons_of_mem _ (ih h)

theorem mem_of_mem_either {greedy : Bool} {step : Step} {a b : List Step}
    (h : step ∈ either greedy a b) : step ∈ a ∨ step ∈ b := by
  have h := mem_of_mem_firstDone h
  cases greedy with
  | true => exact List.mem_append.1 h
  | false => exact (List.mem_append.1 h).symm

theorem above_either {n : Nat} {greedy : Bool} {a b : List Step} (ha : ∀ step ∈ a, step.Above n)
    (hb : ∀ step ∈ b, step.Above n) : ∀ step ∈ either greedy a b, step.Above n :=
  fun step h => (mem_of_mem_either h).elim (ha step) (hb step)

theorem above_andThen {n : Nat} {steps : List Step} {next : List Goals → Captures → List Step}
    (h : ∀ step ∈ steps, step.Above n)
    (hnext : ∀ passed captures, Regex.Above n passed →
      ∀ step ∈ next passed captures, step.Above n) :
    ∀ step ∈ andThen steps next, step.Above n := by
  intro step hstep
  obtain ⟨first, hfirst, hstep⟩ := List.mem_flatMap.1 hstep
  cases first with
  | done passed captures => exact hnext passed captures (h _ hfirst) step hstep
  | read set goals captures =>
      obtain rfl := List.mem_singleton.1 hstep
      trivial

theorem above_done {n : Nat} {passed : List Goals} {captures : Captures}
    (h : Regex.Above n passed) : ∀ step ∈ [Step.done passed captures], step.Above n := by
  intro step hstep
  obtain rfl := List.mem_singleton.1 hstep
  exact h

theorem above_nil {n : Nat} : ∀ step ∈ ([] : List Step), step.Above n :=
  fun _ h => nomatch h

end Step

theorem keepsAbove_visitAgain {visit : Visit} (h : visit.KeepsAbove) (number : Nat)
    (greedy : Bool) (body : Term) : (visitAgain visit number greedy body).KeepsAbove := by
  intro n goals passed captures hn habove
  have hhere : n < Goals.weight (.again number greedy body :: goals) :=
    Nat.lt_of_le_of_lt hn (Goals.weight_lt_cons _ goals)
  simp only [visitAgain]
  split
  · exact Step.above_nil
  · apply Step.above_either
    · intro step hstep
      exact h n _ _ captures (Nat.le_of_lt hhere) (habove.cons hhere) step
        (Step.mem_of_mem_reads hstep)
    · exact Step.above_done (habove.cons hhere)

theorem keepsAbove_again {n : Nat} {goals : Goals} (hn : n ≤ goals.weight) (number : Nat)
    (greedy : Bool) (body : Term) (passed : List Goals) (captures : Captures)
    (habove : Above n passed) :
    ∀ step ∈ (if .again number greedy body :: goals ∈ passed then []
      else [.done ((.again number greedy body :: goals) :: passed) captures] : List Step),
      step.Above n := by
  split
  · exact Step.above_nil
  · apply Step.above_done
    apply habove.cons
    exact Nat.lt_of_le_of_lt hn (Goals.weight_lt_cons _ goals)

theorem keepsAbove_visitAnyNumber {visit : Visit} (h : visit.KeepsAbove) (number : Nat)
    (greedy : Bool) (body : Term) : (visitAnyNumber visit number greedy body).KeepsAbove := by
  intro n goals passed captures hn habove
  have hhere : n < Goals.weight (.term (.rep number 0 none greedy body) :: goals) :=
    Nat.lt_of_le_of_lt hn (Goals.weight_lt_cons _ goals)
  simp only [visitAnyNumber]
  split
  · exact keepsAbove_visitAgain h number greedy body n goals passed captures hn habove
  · split
    · exact Step.above_nil
    · apply Step.above_either
      · apply Step.above_andThen
        · apply h n _ _ captures _ (habove.cons hhere)
          exact Nat.le_trans hn (Nat.le_of_lt (Goals.weight_lt_cons _ goals))
        · intro passed captures habove
          exact keepsAbove_again hn number greedy body passed captures habove
      · exact Step.above_done (habove.cons hhere)

theorem keepsAbove_visitOnceOrMore {visit : Visit} (h : visit.KeepsAbove) (number : Nat)
    (greedy : Bool) (body : Term) : (visitOnceOrMore visit number greedy body).KeepsAbove := by
  intro n goals passed captures hn habove
  apply Step.above_andThen
  · apply h n _ _ captures _ habove
    exact Nat.le_trans hn (Nat.le_of_lt (Goals.weight_lt_cons _ goals))
  · intro passed captures habove
    exact keepsAbove_again hn number greedy body passed captures habove

theorem keepsAbove_visitUpTo {visit : Visit} (h : visit.KeepsAbove) (number : Nat) (greedy : Bool)
    (body : Term) (more : Nat) : (visitUpTo visit number greedy body more).KeepsAbove := by
  induction more with
  | zero =>
      intro n goals passed captures _ habove
      exact Step.above_done habove
  | succ more ih =>
      intro n goals passed captures hn habove
      have hhere : n < Goals.weight
          (.term (.rep number 0 (some (more + 1)) greedy body) :: goals) :=
        Nat.lt_of_le_of_lt hn (Goals.weight_lt_cons _ goals)
      simp only [visitUpTo]
      split
      · exact Step.above_nil
      · apply Step.above_either
        · apply Step.above_andThen
          · apply h n _ _ captures _ (habove.cons hhere)
            exact Nat.le_trans hn (Nat.le_of_lt (Goals.weight_lt_cons _ goals))
          · intro passed captures habove
            exact ih n goals passed captures hn habove
        · exact Step.above_done (habove.cons hhere)

theorem keepsAbove_visitRounds {visit : Visit} (h : visit.KeepsAbove) (number : Nat)
    (greedy : Bool) (body : Term) (min : Nat) (more : Option Nat) :
    (visitRounds visit number greedy body min more).KeepsAbove := by
  induction min with
  | zero =>
      cases more with
      | none => exact keepsAbove_visitAnyNumber h number greedy body
      | some more => exact keepsAbove_visitUpTo h number greedy body more
  | succ min ih =>
      have further : Visit.KeepsAbove fun goals passed captures =>
          Step.andThen (visit (.term (.rep number min more greedy body) :: goals) passed captures)
            (visitRounds visit number greedy body min more goals) := by
        intro n goals passed captures hn habove
        apply Step.above_andThen
        · apply h n _ _ captures _ habove
          exact Nat.le_trans hn (Nat.le_of_lt (Goals.weight_lt_cons _ goals))
        · intro passed captures habove
          exact ih n goals passed captures hn habove
      cases min with
      | succ min => exact further
      | zero =>
          cases more with
          | none => exact keepsAbove_visitOnceOrMore h number greedy body
          | some more => exact further

theorem Term.keepsAbove_visit (p : Place) (t : Term) : (t.visit p).KeepsAbove := by
  induction t with
  | empty =>
      intro n goals passed captures _ habove
      exact Step.above_done habove
  | read set =>
      intro n goals passed captures _ _ step hstep
      obtain rfl := List.mem_singleton.1 hstep
      trivial
  | look l =>
      intro n goals passed captures _ habove
      simp only [Term.visit]
      split
      · exact Step.above_done habove
      · exact Step.above_nil
  | seq a b iha ihb =>
      intro n goals passed captures hn habove
      apply Step.above_andThen
      · apply iha n _ _ captures _ habove
        exact Nat.le_trans hn (Nat.le_of_lt (Goals.weight_lt_cons _ goals))
      · intro passed captures habove
        exact ihb n goals passed captures hn habove
  | alt number a b iha ihb =>
      intro n goals passed captures hn habove
      have hhere : n < Goals.weight (.term (.alt number a b) :: goals) :=
        Nat.lt_of_le_of_lt hn (Goals.weight_lt_cons _ goals)
      simp only [Term.visit]
      split
      · exact Step.above_nil
      · exact Step.above_either (iha n goals _ captures hn (habove.cons hhere))
          (ihb n goals _ captures hn (habove.cons hhere))
  | rep number min more greedy body ih =>
      exact keepsAbove_visitRounds ih number greedy body min more
  | group index name body ih =>
      intro n goals passed captures hn habove
      apply Step.above_andThen
      · apply ih n _ _ _ _ habove
        exact Nat.le_trans hn (Nat.le_of_lt (Goals.weight_lt_cons _ goals))
      · intro passed captures habove
        exact Step.above_done habove

/-! ## The machine attempts terms -/

theorem Step.andThen_assoc (steps : List Step) (f g : List Goals → Captures → List Step) :
    andThen (andThen steps f) g =
      andThen steps fun passed captures => andThen (f passed captures) g := by
  simp only [andThen, List.flatMap_assoc]
  congr 1
  funext step
  cases step with
  | done passed captures => rfl
  | read set goals captures => simp

theorem Step.andThen_append (a b : List Step) (next : List Goals → Captures → List Step) :
    andThen (a ++ b) next = andThen a next ++ andThen b next :=
  List.flatMap_append

/-- Wherever a text is followed from some goals, what is noted is what a continuation says. -/
def Realizes (goals : Goals) (k : Continuation) : Prop :=
  ∀ (s : Cursor) passed captures, Above goals.weight passed →
    follow s.index (goals.visit s.place passed captures) s.ahead = k s captures

theorem realizes_nil : Realizes [] fun _ captures => some captures := by
  intro s passed captures _
  cases s.ahead <;> rfl

section Choice
variable {goals : Goals} {k : Continuation}

theorem Realizes.eq_none_iff (h : Realizes goals k) (s : Cursor) (captures other : Captures) :
    k s captures = none ↔ k s other = none := by
  rw [← h s [] captures (.nil _), ← h s [] other (.nil _)]
  exact (follow_visit_eq_none_iff ..).trans (follow_visit_eq_none_iff ..).symm

/-- Dropping steps that are done changes nothing where they lead to nothing. -/
theorem findSome?_reads {f : Step → Option Captures} {steps : List Step}
    (h : ∀ passed captures, .done passed captures ∈ steps → f (.done passed captures) = none) :
    (Step.reads steps).findSome? f = steps.findSome? f := by
  induction steps with
  | nil => rfl
  | cons step steps ih =>
      have ih := ih fun passed captures hmem => h passed captures (List.mem_cons_of_mem _ hmem)
      cases step with
      | done passed captures =>
          rw [List.findSome?_cons, h passed captures List.mem_cons_self]
          simpa [Step.reads] using ih
      | read set goals captures =>
          simp only [Step.reads, List.filter_cons_of_pos, List.findSome?_cons] at ih ⊢
          rw [ih]

theorem findSome?_firstDone {f : Step → Option Captures} {steps : List Step}
    (h : ∀ passed captures passed' captures', .done passed captures ∈ steps →
      .done passed' captures' ∈ steps → f (.done passed captures) = none →
        f (.done passed' captures') = none) :
    (Step.firstDone steps).findSome? f = steps.findSome? f := by
  induction steps with
  | nil => rfl
  | cons step steps ih =>
      cases step with
      | done passed captures =>
          rw [Step.firstDone, List.findSome?_cons, List.findSome?_cons]
          cases hf : f (.done passed captures) with
          | some result => rfl
          | none =>
              apply findSome?_reads
              intro passed' captures' hmem
              exact h _ _ _ _ List.mem_cons_self (List.mem_cons_of_mem _ hmem) hf
      | read set goals captures =>
          change (.read set goals captures :: Step.firstDone steps).findSome? f = _
          rw [List.findSome?_cons, List.findSome?_cons, ih]
          intro _ _ _ _ hmem hmem'
          exact h _ _ _ _ (List.mem_cons_of_mem _ hmem) (List.mem_cons_of_mem _ hmem')

/-- A choice between two ways that lead to the same goals. -/
theorem Realizes.follow_either (h : Realizes goals k) (s : Cursor) (greedy : Bool)
    {a b : List Step} (ha : ∀ step ∈ a, step.Above goals.weight)
    (hb : ∀ step ∈ b, step.Above goals.weight) :
    follow s.index (Step.andThen (Step.either greedy a b) (goals.visit s.place)) s.ahead =
      prefer greedy (follow s.index (Step.andThen a (goals.visit s.place)) s.ahead)
        (follow s.index (Step.andThen b (goals.visit s.place)) s.ahead) := by
  have hsteps : ∀ step ∈ (if greedy then a ++ b else b ++ a), step.Above goals.weight := by
    intro step hstep
    cases greedy with
    | true => exact (List.mem_append.1 hstep).elim (ha step) (hb step)
    | false => exact (List.mem_append.1 hstep).elim (hb step) (ha step)
  rw [follow_andThen, Step.either, findSome?_firstDone, ← follow_andThen]
  · cases greedy <;> simp [Step.andThen_append, follow_append, prefer]
  · intro passed captures passed' captures' hmem hmem' hnone
    dsimp only at hnone ⊢
    rw [h s passed captures (hsteps _ hmem)] at hnone
    rw [h s passed' captures' (hsteps _ hmem')]
    exact (h.eq_none_iff s captures captures').1 hnone

end Choice

section Attempts
variable {goals : Goals} {k : Continuation}

theorem follow_done (s : Cursor) (passed : List Goals) (captures : Captures)
    (next : List Goals → Captures → List Step) :
    follow s.index (Step.andThen [.done passed captures] next) s.ahead =
      follow s.index (next passed captures) s.ahead := by
  simp [Step.andThen]

theorem Realizes.follow_read (h : Realizes goals k) (s : Cursor) (set : CharSet)
    (captures : Captures) (next : List Goals → Captures → List Step) :
    follow s.index (Step.andThen [.read set goals captures] next) s.ahead =
      attemptRead set k s captures := by
  obtain ⟨before, index, ahead⟩ := s
  cases ahead with
  | nil => rfl
  | cons c rest =>
      have hnext := h ⟨some c, index + 1, rest⟩ [] captures (.nil _)
      simp only [Cursor.place] at hnext
      rw [follow_andThen, List.findSome?_singleton]
      simp only [outcome?_read_cons, attemptRead, Cursor.next, hnext]

theorem Realizes.close (h : Realizes goals k) (index : Nat) :
    Realizes (.close index :: goals) fun s captures =>
      k s (captures.note index true s.index) := by
  intro s passed captures habove
  simp only [Goals.visit, Goal.visit]
  rw [follow_done]
  exact h s _ _ habove.tail

theorem Realizes.alt {a b : Term} {ka kb : Continuation} (h : Realizes goals k)
    (ha : Realizes (.term a :: goals) ka) (hb : Realizes (.term b :: goals) kb) (number : Nat) :
    Realizes (.term (.alt number a b) :: goals) fun s captures =>
      ka s captures <|> kb s captures := by
  intro s passed captures habove
  have hhere : (.term (.alt number a b) :: goals) ∉ passed :=
    habove.not_mem (Nat.le_refl _)
  have hgoals : Above goals.weight ((.term (.alt number a b) :: goals) :: passed) :=
    habove.pass (Goals.weight_lt_cons _ goals)
  simp only [Goals.visit, Goal.visit, Term.visit, if_neg hhere]
  rw [h.follow_either s true
    (a.keepsAbove_visit _ _ goals _ captures (Nat.le_refl _) hgoals)
    (b.keepsAbove_visit _ _ goals _ captures (Nat.le_refl _) hgoals)]
  have first := ha s ((.term (.alt number a b) :: goals) :: passed) captures
  have second := hb s ((.term (.alt number a b) :: goals) :: passed) captures
  simp only [Goals.visit, Goal.visit] at first second
  rw [first, second]
  · rfl
  all_goals
    apply habove.pass
    simp only [Goals.weight_cons, Goal.weight, Term.weight]
    omega

/-- Up to `more` rounds, if the body is attempted as `body` says. -/
theorem Realizes.upTo {t : Term} {body : Continuation → Continuation}
    (ht : ∀ {goals k}, Realizes goals k → Realizes (.term t :: goals) (body k))
    (h : Realizes goals k) (number : Nat) (greedy : Bool) (more : Nat) :
    Realizes (.term (.rep number 0 (some more) greedy t) :: goals)
      (attemptUpTo body greedy k more) := by
  induction more with
  | zero =>
      intro s passed captures habove
      simp only [Goals.visit, Goal.visit, Term.visit, visitRounds, visitUpTo]
      rw [follow_done]
      exact h s _ _ habove.tail
  | succ more ih =>
      intro s passed captures habove
      have hhere : (.term (.rep number 0 (some (more + 1)) greedy t) :: goals) ∉ passed :=
        habove.not_mem (Nat.le_refl _)
      -- One round fewer weighs less, so the goals behind this round have not been passed.
      have hrest : Above (Goals.weight
          (.term t :: .term (.rep number 0 (some more) greedy t) :: goals))
          ((.term (.rep number 0 (some (more + 1)) greedy t) :: goals) :: passed) := by
        have hlt : t.weight + ((0 + more) * (t.weight + 1) + 2 + goals.weight) <
            (0 + (more + 1)) * (t.weight + 1) + 2 + goals.weight := by
          rw [← Nat.add_assoc 0 more 1, Nat.succ_mul]
          omega
        apply habove.pass
        simpa only [Goals.weight_cons, Goal.weight, Term.weight, Option.getD_some] using hlt
      have hgoals : Above goals.weight
          ((.term (.rep number 0 (some (more + 1)) greedy t) :: goals) :: passed) :=
        hrest.tail.tail
      simp only [Goals.visit, Goal.visit, Term.visit, visitRounds, visitUpTo, if_neg hhere]
      rw [h.follow_either]
      · have first := ht ih s _ captures hrest
        simp only [Goals.visit, Goal.visit, Term.visit, visitRounds] at first
        rw [Step.andThen_assoc, first, follow_done, h s _ captures hgoals]
        rfl
      · apply Step.above_andThen
        · apply t.keepsAbove_visit _ _ _ _ _ _ hgoals
          exact Nat.le_of_lt (Goals.weight_lt_cons _ goals)
        · intro passed captures habove
          exact keepsAbove_visitUpTo (t.keepsAbove_visit s.place) number greedy t more _ goals
            passed captures (Nat.le_refl _) habove
      · exact Step.above_done hgoals

/-- A choice in which the first way has no result. -/
theorem prefer_none (greedy : Bool) (result : Option Captures) :
    prefer greedy none result = result := by
  cases greedy <;> cases result <;> rfl

/-- Any number of characters are a first one and any number behind it, or none. -/
theorem attemptMany_read (set : CharSet) (greedy : Bool) (k : Continuation) (s : Cursor)
    (captures : Captures) :
    attemptMany (attemptRead set) greedy k s captures =
      prefer greedy (attemptRead set (attemptMany (attemptRead set) greedy k) s captures)
        (k s captures) := by
  obtain ⟨before, index, ahead⟩ := s
  cases ahead with
  | nil => exact (prefer_none greedy _).symm
  | cons c rest => rfl

/-- One more round of single characters, or none. -/
theorem Realizes.follow_again (h : Realizes goals k) (number : Nat) (greedy : Bool) (set : CharSet)
    (s : Cursor) {passed : List Goals} (captures : Captures)
    (habove : Above (Goals.weight (.again number greedy (.read set) :: goals)) passed) :
    follow s.index (Goals.visit s.place (.again number greedy (.read set) :: goals) passed captures)
      s.ahead =
      prefer greedy
        (Step.outcome? s.index s.ahead
          (.read set (.again number greedy (.read set) :: goals) captures))
        (k s captures) := by
  have hhere := habove.not_mem (Nat.le_refl _)
  have hgoals : Above goals.weight ((.again number greedy (.read set) :: goals) :: passed) :=
    habove.pass (Goals.weight_lt_cons _ goals)
  simp only [Goals.visit, Goal.visit, visitAgain, if_neg hhere]
  rw [h.follow_either s greedy _ (Step.above_done hgoals), follow_done, h _ _ _ hgoals]
  · simp only [Term.visit, Step.reads, List.filter_cons_of_pos, List.filter_nil, follow_andThen,
      List.findSome?_singleton]
  · intro step hstep
    obtain rfl := List.mem_singleton.1 (Step.mem_of_mem_reads hstep)
    trivial

theorem Realizes.again (h : Realizes goals k) (number : Nat) (greedy : Bool) (set : CharSet) :
    Realizes (.again number greedy (.read set) :: goals)
      (attemptMany (attemptRead set) greedy k) := by
  intro ⟨before, index, ahead⟩
  induction ahead generalizing before index with
  | nil =>
      intro passed captures habove
      rw [h.follow_again number greedy set _ captures habove]
      exact prefer_none greedy _
  | cons c rest ih =>
      intro passed captures habove
      have hnext := ih (some c) (index + 1) [] captures (.nil _)
      simp only [Cursor.place] at hnext
      rw [h.follow_again number greedy set _ captures habove, attemptMany_read]
      simp only [outcome?_read_cons, attemptRead, Cursor.next, hnext]

/-- Any number of single characters. -/
theorem Realizes.anyNumber (h : Realizes goals k) (number : Nat) (greedy : Bool) (set : CharSet) :
    Realizes (.term (.rep number 0 none greedy (.read set)) :: goals)
      (attemptMany (attemptRead set) greedy k) := by
  have hagain := h.again number greedy set
  intro s passed captures habove
  have hless : Above (Goals.weight (.again number greedy (.read set) :: goals)) passed := by
    apply habove.mono
    simp only [Goals.weight_cons, Goal.weight, Term.weight]
    omega
  cases hreads : (Term.read set).alwaysReads with
  | true =>
      have h := hagain s passed captures hless
      simp only [Goals.visit, Goal.visit] at h
      simp only [Goals.visit, Goal.visit, Term.visit, visitRounds, visitAnyNumber, hreads, if_true]
      exact h
  | false =>
      have hhere := habove.not_mem (Nat.le_refl _)
      have hgoals : Above goals.weight
          ((.term (.rep number 0 none greedy (.read set)) :: goals) :: passed) :=
        habove.pass (Goals.weight_lt_cons _ goals)
      simp only [Goals.visit, Goal.visit, Term.visit, visitRounds, visitAnyNumber, hreads,
        Bool.false_eq_true, if_false, if_neg hhere]
      rw [h.follow_either s greedy _ (Step.above_done hgoals), follow_done, h _ _ _ hgoals,
        Step.andThen_assoc, hagain.follow_read, attemptMany_read]
      apply Step.above_andThen
      · intro step hstep
        obtain rfl := List.mem_singleton.1 hstep
        trivial
      · intro passed captures habove
        exact keepsAbove_again (Nat.le_refl _) number greedy _ passed captures habove

/-- At least `min` single characters. -/
theorem Realizes.atLeast (h : Realizes goals k) (number : Nat) (greedy : Bool) (set : CharSet)
    (min : Nat) :
    Realizes (.term (.rep number min none greedy (.read set)) :: goals)
      (attemptTimes (attemptRead set) (attemptMany (attemptRead set) greedy k) min) := by
  induction min with
  | zero => exact h.anyNumber number greedy set
  | succ min ih =>
      intro s passed captures habove
      cases min with
      | zero =>
          simp only [Goals.visit, Goal.visit, Term.visit, Nat.zero_add, visitRounds,
            visitOnceOrMore]
          rw [Step.andThen_assoc, (h.again number greedy set).follow_read]
          rfl
      | succ min =>
          simp only [Goals.visit, Goal.visit, Term.visit, visitRounds]
          rw [Step.andThen_assoc, ih.follow_read]
          rfl

/-- At least `min` rounds and up to `more` further ones. -/
theorem Realizes.counted {t : Term} {body : Continuation → Continuation}
    (ht : ∀ {goals k}, Realizes goals k → Realizes (.term t :: goals) (body k))
    (h : Realizes goals k) (number : Nat) (greedy : Bool) (min more : Nat) :
    Realizes (.term (.rep number min (some more) greedy t) :: goals)
      (attemptTimes body (attemptUpTo body greedy k more) min) := by
  induction min with
  | zero => exact h.upTo ht number greedy more
  | succ min ih =>
      intro s passed captures habove
      have hrest : Above (Goals.weight
          (.term t :: .term (.rep number min (some more) greedy t) :: goals)) passed := by
        apply habove.mono
        simp only [Goals.weight_cons, Goal.weight, Term.weight, Option.getD_some,
          Nat.succ_add, Nat.succ_mul]
        omega
      have first := ht ih s passed captures hrest
      simp only [Goals.visit, Goal.visit, Term.visit] at first
      simp only [Goals.visit, Goal.visit, Term.visit, visitRounds]
      rw [Step.andThen_assoc, first]
      rfl

/-- A condition that is checked on the way. -/
theorem Realizes.look (h : Realizes goals k) (l : Look) :
    Realizes (.term (.look l) :: goals) fun s captures =>
      if l.holds s.place then k s captures else none := by
  intro s passed captures habove
  simp only [Goals.visit, Goal.visit, Term.visit]
  split
  · rw [follow_done]
    exact h s _ _ habove.tail
  · rfl

theorem Realizes.seq {a b : Term} (h : Realizes (.term a :: .term b :: goals) k) :
    Realizes (.term (.seq a b) :: goals) k := by
  intro s passed captures habove
  have hrest : Above (Goals.weight (.term a :: .term b :: goals)) passed := by
    apply habove.mono
    simp only [Goals.weight_cons, Goal.weight, Term.weight]
    omega
  have both := h s passed captures hrest
  simp only [Goals.visit, Goal.visit] at both
  simp only [Goals.visit, Goal.visit, Term.visit]
  rw [Step.andThen_assoc]
  exact both

theorem Realizes.group {body : Term} {index : Nat}
    (h : Realizes (.term body :: .close index :: goals) k) (name : Option String) :
    Realizes (.term (.group index name body) :: goals) fun s captures =>
      k s (captures.note index false s.index) := by
  intro s passed captures habove
  have hrest : Above (Goals.weight (.term body :: .close index :: goals)) passed := by
    apply habove.mono
    simp only [Goals.weight_cons, Goal.weight, Term.weight]
    omega
  have both := h s passed (captures.note index false s.index) hrest
  simp only [Goals.visit, Goal.visit] at both
  simp only [Goals.visit, Goal.visit, Term.visit]
  rw [Step.andThen_assoc]
  exact both

/-- The machine does about a term what an attempt does. -/
theorem Realizes.term {t : Term} (ht : t.Simple) (h : Realizes goals k) :
    Realizes (.term t :: goals) (t.attempt k) := by
  induction t generalizing goals k with
  | empty =>
      intro s passed captures habove
      simp only [Goals.visit, Goal.visit, Term.visit]
      rw [follow_done]
      exact h s _ _ habove.tail
  | read set =>
      intro s passed captures _
      exact h.follow_read s set captures _
  | look l => exact h.look l
  | seq a b iha ihb => exact .seq (iha ht.1 (ihb ht.2 h))
  | alt number a b iha ihb => exact h.alt (iha ht.1 h) (ihb ht.2 h) number
  | rep number min more greedy body ih =>
      cases more with
      | none =>
          obtain ⟨set, rfl⟩ := ht
          exact h.atLeast number greedy set min
      | some more => exact h.counted (ih ht) number greedy min more
  | group index name body ih => exact .group (ih ht (h.close index)) name

end Attempts

/-! ## Searching -/

/-- An attempt at a match that begins at a cursor, its span noted as group 0. -/
def Term.attemptAt (t : Term) (s : Cursor) : Option Captures :=
  (Term.group 0 none t).attempt (fun _ captures => some captures) s []

/-- Attempts at matches that begin at a cursor or further behind. -/
def Term.attemptFrom (t : Term) (before : Option Char) (index : Nat) : List Char → Option Captures
  | [] => t.attemptAt ⟨before, index, []⟩
  | c :: rest => t.attemptAt ⟨before, index, c :: rest⟩ <|> t.attemptFrom (some c) (index + 1) rest

theorem Step.andThen_done (steps : List Step) :
    andThen steps (fun passed captures => [.done passed captures]) = steps := by
  induction steps with
  | nil => rfl
  | cons step steps ih =>
      simp only [andThen, List.flatMap_cons] at ih ⊢
      rw [ih]
      cases step <;> rfl

theorem Term.follow_visit {t : Term} (ht : t.Simple) (s : Cursor) :
    follow s.index (Term.visit s.place (.group 0 none t) [] [] []) s.ahead = t.attemptAt s := by
  have h := (realizes_nil.term (t := .group 0 none t) ht) s [] [] (.nil _)
  simp only [Goals.visit, Goal.visit] at h
  rw [Term.attemptAt, ← h, Step.andThen_done]

theorem Term.attemptFrom_eq {t : Term} (ht : t.Simple) (before : Option Char) (index : Nat)
    (text : List Char) :
    (follow index (Term.visit ⟨before, index, text.head?⟩ (.group 0 none t) [] [] []) text <|>
      seek (fun place => Term.visit place (.group 0 none t) [] [] []) index text) =
      t.attemptFrom before index text := by
  have first := t.follow_visit ht ⟨before, index, text⟩
  simp only [Cursor.place] at first
  rw [first]
  induction text generalizing before index with
  | nil => cases h : t.attemptAt ⟨before, index, []⟩ <;> simp [seek, attemptFrom, h]
  | cons c rest ih =>
      have later := t.follow_visit ht ⟨some c, index + 1, rest⟩
      simp only [Cursor.place] at later
      rw [seek, later, ih (some c) (index + 1) later]
      rfl

/-- The machine finds the match that attempts find from left to right. -/
theorem Term.search_eq {t : Term} (ht : t.Simple) (text : List Char) :
    t.search text = t.attemptFrom none 0 text := by
  rw [Term.search, run_eq]
  exact Term.attemptFrom_eq ht none 0 text

theorem Term.attemptFrom_anchored (t : Term) (c : Char) (index : Nat) (text : List Char) :
    (Term.seq (.look .textStart) t).attemptFrom (some c) index text = none := by
  induction text generalizing c index with
  | nil => rfl
  | cons d rest ih =>
      rw [attemptFrom, ih]
      rfl

/-- A match that must begin at the beginning of the text is attempted there only. -/
theorem Term.search_anchored {t : Term} (ht : t.Simple) (text : List Char) :
    (Term.seq (.look .textStart) t).search text = t.attemptAt ⟨none, 0, text⟩ := by
  have hsimple : (Term.seq (.look .textStart) t).Simple := ⟨trivial, ht⟩
  rw [Term.search_eq hsimple]
  cases text with
  | nil => rfl
  | cons c rest =>
      have first : (Term.seq (.look .textStart) t).attemptAt ⟨none, 0, c :: rest⟩ =
          t.attemptAt ⟨none, 0, c :: rest⟩ := rfl
      rw [attemptFrom, attemptFrom_anchored, first]
      cases t.attemptAt ⟨none, 0, c :: rest⟩ <;> rfl

end PathRouter.Regex
