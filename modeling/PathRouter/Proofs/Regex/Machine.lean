import PathRouter.Regex.Search

/-!
# The machine and the preferred way

The machine follows all ways at once and keeps only the first of several ways with the same goals.
What is noted on a way never decides how the way goes on, so an earlier way with the same goals
succeeds whenever a later one does. Hence the machine finds what trying the ways one after the other
finds, and as long as no way succeeds it goes on with the ways that begin further behind.
-/

namespace PathRouter.Regex

open Unicode (CharSet)

/-! ## Notes -/

theorem lookup_note_of_ne {captures : Captures} {group other : Nat} (h : other ≠ group)
    (stop stop' : Bool) (index : Nat) :
    (captures.note group stop index).lookup (other, stop') = captures.lookup (other, stop') := by
  have hne : ((other, stop') == (group, stop)) = false :=
    beq_false_of_ne fun heq => h (Prod.mk.inj heq).1
  rw [Captures.note, List.lookup_cons, hne]

theorem span?_note_end {captures : Captures} {group start : Nat}
    (h : captures.lookup (group, false) = some start) (index : Nat) :
    (captures.note group true index).span? group = some (start, index) := by
  have hne : ((group, false) == (group, true)) = false :=
    beq_false_of_ne fun heq => Bool.false_ne_true (Prod.mk.inj heq).2
  simp [Captures.span?, Captures.note, List.lookup_cons, hne, h]

theorem span?_note (captures : Captures) (group start stop : Nat) :
    ((captures.note group false start).note group true stop).span? group = some (start, stop) := by
  apply span?_note_end
  simp [Captures.note]

/-! ## Notes make no difference -/

namespace Step

/-- A step with older notes behind its own. -/
def onto (older : Captures) : Step → Step
  | .done passed captures => .done passed (captures ++ older)
  | .read set goals captures => .read set goals (captures ++ older)

theorem reads_map_onto (older : Captures) (steps : List Step) :
    reads (steps.map (onto older)) = (reads steps).map (onto older) := by
  induction steps with
  | nil => rfl
  | cons step steps ih =>
      cases step with
      | done passed captures => simpa [reads, onto] using ih
      | read set goals captures => simpa [reads, onto] using ih

theorem firstDone_map_onto (older : Captures) (steps : List Step) :
    firstDone (steps.map (onto older)) = (firstDone steps).map (onto older) := by
  induction steps with
  | nil => rfl
  | cons step steps ih =>
      cases step with
      | done passed captures => simp [firstDone, onto, ← reads_map_onto]
      | read set goals captures => simpa [firstDone, onto] using ih

theorem either_map_onto (older : Captures) (greedy : Bool) (a b : List Step) :
    either greedy (a.map (onto older)) (b.map (onto older)) =
      (either greedy a b).map (onto older) := by
  cases greedy <;> simp [either, ← firstDone_map_onto]

theorem andThen_map_onto (older : Captures) {steps : List Step}
    {next : List Goals → Captures → List Step}
    (hnext : ∀ passed captures, next passed (captures ++ older) =
      (next passed captures).map (onto older)) :
    andThen (steps.map (onto older)) next = (andThen steps next).map (onto older) := by
  induction steps with
  | nil => rfl
  | cons step steps ih =>
      simp only [andThen, List.map_cons, List.flatMap_cons, List.map_append] at ih ⊢
      rw [ih]
      cases step with
      | done passed captures => simp [onto, hnext]
      | read set goals captures => simp [onto]

end Step

/-- What was noted before comes out behind what a visit notes, and changes nothing else. -/
def Visit.Framed (visit : Visit) : Prop :=
  ∀ goals passed captures older,
    visit goals passed (captures ++ older) = (visit goals passed captures).map (Step.onto older)

theorem framed_visitAgain {visit : Visit} (h : Visit.Framed visit) (number : Nat) (greedy : Bool)
    (body : Term) : Visit.Framed (visitAgain visit number greedy body) := by
  intro goals passed captures older
  simp only [visitAgain]
  split
  · rfl
  · rw [h, Step.reads_map_onto, ← Step.either_map_onto]
    rfl

theorem framed_visitAnyNumber {visit : Visit} (h : Visit.Framed visit) (number : Nat)
    (greedy : Bool) (body : Term) :
    Visit.Framed (visitAnyNumber visit number greedy body) := by
  intro goals passed captures older
  simp only [visitAnyNumber]
  split
  · exact framed_visitAgain h number greedy body goals passed captures older
  · split
    · rfl
    · rw [h, Step.andThen_map_onto, ← Step.either_map_onto]
      · rfl
      · intro passed captures
        split <;> rfl

theorem framed_visitOnceOrMore {visit : Visit} (h : Visit.Framed visit) (number : Nat)
    (greedy : Bool) (body : Term) :
    Visit.Framed (visitOnceOrMore visit number greedy body) := by
  intro goals passed captures older
  simp only [visitOnceOrMore]
  rw [h, Step.andThen_map_onto]
  intro passed captures
  split <;> rfl

theorem framed_visitUpTo {visit : Visit} (h : Visit.Framed visit) (number : Nat) (greedy : Bool)
    (body : Term) (more : Nat) : Visit.Framed (visitUpTo visit number greedy body more) := by
  induction more with
  | zero =>
      intro goals passed captures older
      rfl
  | succ more ih =>
      intro goals passed captures older
      simp only [visitUpTo]
      split
      · rfl
      · rw [h, Step.andThen_map_onto, ← Step.either_map_onto]
        · rfl
        · intro passed captures
          exact ih goals passed captures older

theorem framed_visitRounds {visit : Visit} (h : Visit.Framed visit) (number : Nat) (greedy : Bool)
    (body : Term) (min : Nat) (more : Option Nat) :
    Visit.Framed (visitRounds visit number greedy body min more) := by
  induction min with
  | zero =>
      cases more with
      | none => exact framed_visitAnyNumber h number greedy body
      | some more => exact framed_visitUpTo h number greedy body more
  | succ min ih =>
      have further : Visit.Framed fun goals passed captures =>
          Step.andThen (visit (.term (.rep number min more greedy body) :: goals) passed captures)
            (visitRounds visit number greedy body min more goals) := by
        intro goals passed captures older
        dsimp only
        rw [h, Step.andThen_map_onto]
        intro passed captures
        exact ih goals passed captures older
      cases min with
      | succ min => exact further
      | zero =>
          cases more with
          | none => exact framed_visitOnceOrMore h number greedy body
          | some more => exact further

theorem Term.framed_visit (p : Place) (t : Term) : Visit.Framed (t.visit p) := by
  induction t with
  | empty =>
      intro goals passed captures older
      rfl
  | read set =>
      intro goals passed captures older
      rfl
  | look l =>
      intro goals passed captures older
      simp only [Term.visit]
      split <;> rfl
  | seq a b iha ihb =>
      intro goals passed captures older
      simp only [Term.visit]
      rw [iha, Step.andThen_map_onto]
      intro passed captures
      exact ihb goals passed captures older
  | alt number a b iha ihb =>
      intro goals passed captures older
      simp only [Term.visit]
      split
      · rfl
      · rw [iha, ihb, Step.either_map_onto]
  | rep number min more greedy body ih =>
      exact framed_visitRounds ih number greedy body min more
  | group index name body ih =>
      intro goals passed captures older
      simp only [Term.visit]
      rw [show (captures ++ older).note index false p.index =
        captures.note index false p.index ++ older from rfl, ih, Step.andThen_map_onto]
      intro passed captures
      rfl

theorem Goal.framed_visit (p : Place) (goal : Goal) : Visit.Framed (goal.visit p) := by
  cases goal with
  | term t => exact t.framed_visit p
  | close index =>
      intro goals passed captures older
      rfl
  | again number greedy body =>
      exact framed_visitAgain (body.framed_visit p) number greedy body

theorem Goals.visit_append (p : Place) (goals : Goals) (passed : List Goals)
    (captures older : Captures) :
    goals.visit p passed (captures ++ older) =
      (goals.visit p passed captures).map (Step.onto older) := by
  induction goals generalizing passed captures with
  | nil => rfl
  | cons goal goals ih =>
      simp only [Goals.visit]
      rw [Goal.framed_visit p goal, Step.andThen_map_onto]
      intro passed captures
      exact ih passed captures

/-! ## One way after the other -/

/-- What is noted if a step is followed through the text that comes next. -/
def Step.outcome? (index : Nat) : List Char → Step → Option Captures
  | _, .done _ captures => some captures
  | [], .read _ _ _ => none
  | c :: rest, .read set goals captures =>
    if set.contains c then
      (Goals.visit ⟨some c, index + 1, rest.head?⟩ goals [] captures).findSome?
        fun step => step.outcome? (index + 1) rest
    else none

/-- What is noted on the first of some ways that succeeds. -/
def follow (index : Nat) (steps : List Step) (text : List Char) : Option Captures :=
  steps.findSome? (Step.outcome? index text)

theorem follow_append (index : Nat) (a b : List Step) (text : List Char) :
    follow index (a ++ b) text = (follow index a text <|> follow index b text) := by
  simp [follow, List.findSome?_append]

theorem follow_flatMap {α : Type} (index : Nat) (as : List α) (f : α → List Step)
    (text : List Char) :
    follow index (as.flatMap f) text = as.findSome? fun a => follow index (f a) text := by
  induction as with
  | nil => rfl
  | cons a as ih =>
      rw [List.flatMap_cons, follow_append, ih, List.findSome?_cons]
      cases follow index (f a) text <;> rfl

theorem follow_andThen (index : Nat) (steps : List Step)
    (next : List Goals → Captures → List Step) (text : List Char) :
    follow index (Step.andThen steps next) text = steps.findSome? fun
      | .done passed captures => follow index (next passed captures) text
      | .read set goals captures => Step.outcome? index text (.read set goals captures) := by
  rw [Step.andThen, follow_flatMap]
  congr 1
  funext step
  cases step with
  | done passed captures => rfl
  | read set goals captures => simp [follow]

theorem outcome?_read_cons (index : Nat) (set : CharSet) (goals : Goals) (captures : Captures)
    (c : Char) (rest : List Char) :
    Step.outcome? index (c :: rest) (.read set goals captures) =
      if set.contains c then
        follow (index + 1) (Goals.visit ⟨some c, index + 1, rest.head?⟩ goals [] captures) rest
      else none := rfl

/-- What was noted before a step is followed comes out behind what is noted on the way. -/
theorem Step.outcome?_onto (older : Captures) (index : Nat) (text : List Char) (step : Step) :
    (step.onto older).outcome? index text = (step.outcome? index text).map (· ++ older) := by
  induction text generalizing index step with
  | nil => cases step <;> rfl
  | cons c rest ih =>
      cases step with
      | done passed captures => rfl
      | read set goals captures =>
          rw [onto]
          simp only [outcome?, Goals.visit_append]
          split
          · rw [List.findSome?_map, List.map_findSome?]
            congr 1
            funext step
            exact ih (index + 1) step
          · rfl

theorem follow_map_onto (older : Captures) (index : Nat) (steps : List Step) (text : List Char) :
    follow index (steps.map (Step.onto older)) text =
      (follow index steps text).map (· ++ older) := by
  simp only [follow, List.findSome?_map, Function.comp_def, Step.outcome?_onto,
    List.map_findSome?]

/-- Whether goals can be reached does not depend on what was noted before. -/
theorem follow_visit_eq_none_iff (index : Nat) (p : Place) (goals : Goals) (passed : List Goals)
    (captures : Captures) (text : List Char) :
    follow index (goals.visit p passed captures) text = none ↔
      follow index (goals.visit p passed []) text = none := by
  have h := goals.visit_append p passed [] captures
  rw [List.nil_append] at h
  rw [h, follow_map_onto, Option.map_eq_none_iff]

/-! ## The machine -/

/-- The step of a way that waits for a character. -/
def Thread.step (t : Thread) : Step := .read t.set t.goals t.captures

theorem follow_settle (index : Nat) (steps : List Step) (text : List Char) :
    follow index steps text =
      (follow index ((settle steps).1.map Thread.step) text <|> (settle steps).2) := by
  induction steps with
  | nil => rfl
  | cons step steps ih =>
      cases step with
      | done passed captures => cases text <;> rfl
      | read set goals captures =>
          simp only [follow, settle, List.map_cons, List.findSome?_cons, Thread.step] at ih ⊢
          rw [ih]
          cases Step.outcome? index text (.read set goals captures) <;> rfl

/-- Dropping a way behind one with the same goals changes nothing, if of two such ways either both
succeed or none. -/
theorem findSome?_distinct {f : Thread → Option Captures}
    (hf : ∀ t u : Thread, t.goals = u.goals → t.set = u.set → f t = none → f u = none)
    {seen : List (Goals × CharSet)} (hseen : ∀ t : Thread, (t.goals, t.set) ∈ seen → f t = none)
    (threads : List Thread) : (distinct seen threads).findSome? f = threads.findSome? f := by
  induction threads generalizing seen with
  | nil => rfl
  | cons t threads ih =>
      simp only [distinct]
      split
      · next h => rw [ih hseen, List.findSome?_cons, hseen t h]
      · rw [List.findSome?_cons, List.findSome?_cons]
        cases h : f t with
        | some captures => rfl
        | none =>
            apply ih
            intro u hu
            rcases List.mem_cons.1 hu with hu | hu
            · obtain ⟨hgoals, hset⟩ := Prod.mk.inj hu
              exact hf t u hgoals.symm hset.symm h
            · exact hseen u hu

/-- The ways kept by the machine, moved over a character, lead where all of them lead. -/
theorem follow_moved (index : Nat) (threads : List Thread) (c : Char) (rest : List Char) :
    follow (index + 1) ((distinct [] threads).flatMap fun t =>
      if t.set.contains c then
        Goals.visit ⟨some c, index + 1, rest.head?⟩ t.goals [] t.captures
      else []) rest = follow index (threads.map Thread.step) (c :: rest) := by
  rw [follow_flatMap, findSome?_distinct, follow, List.findSome?_map]
  · congr 1
    funext t
    simp only [Function.comp_apply, Thread.step, outcome?_read_cons]
    split <;> rfl
  · intro t u hgoals hset ht
    rw [hset] at ht
    split at ht
    · next h =>
      rw [if_pos h]
      rw [hgoals, follow_visit_eq_none_iff] at ht
      rwa [follow_visit_eq_none_iff]
    · next h =>
      rw [if_neg h]
      rfl
  · intro t ht
    cases ht

/-- What is noted on the first match that begins behind the next character or further. -/
def seek (start : Place → List Step) (index : Nat) : List Char → Option Captures
  | [] => none
  | c :: rest =>
    follow (index + 1) (start ⟨some c, index + 1, rest.head?⟩) rest <|> seek start (index + 1) rest

/-- The machine finds what is found by trying the ways one after the other, and then those that
begin further behind. -/
theorem run_eq (start : Place → List Step) (searching : Bool) (index : Nat) (steps : List Step)
    (text : List Char) :
    run start searching index steps text =
      (follow index steps text <|> if searching then seek start index text else none) := by
  induction text generalizing searching index steps with
  | nil =>
      rw [run, follow_settle]
      have h : follow index ((settle steps).1.map Thread.step) [] = none := by
        simp [follow, Thread.step, Step.outcome?]
      rw [h]
      cases searching <;> cases (settle steps).2 <;> rfl
  | cons c rest ih =>
      simp only [run]
      rw [ih, follow_append, follow_moved, follow_settle index steps]
      cases follow index ((settle steps).1.map Thread.step) (c :: rest) with
      | some captures => rfl
      | none =>
          cases (settle steps).2 with
          | some captures => cases searching <;> simp [follow]
          | none => cases searching <;> simp [seek, follow]

end PathRouter.Regex
