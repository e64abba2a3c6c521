/-!
# Reading with lookahead

A reader that goes through a text from left to right. At each turn it sees a character and all that
follows, and says how many of the following characters it has used up; those are passed over. The
recursion is on the text, so no measure and no bound on the number of turns is needed.
-/

namespace PathRouter.Text

variable {σ ε : Type}

/-- Runs a reader over a text whose first `skip` characters are used up. -/
def consume (step : σ → Char → List Char → Except ε (σ × Nat)) :
    Nat → σ → List Char → Except ε σ
  | _, s, [] => .ok s
  | skip + 1, s, _ :: cs => consume step skip s cs
  | 0, s, c :: cs =>
    match step s c cs with
    | .ok (s, used) => consume step used s cs
    | .error e => .error e

/-- How many characters of a text have been used up when a later part of it is left. -/
def usedUp (text left : List Char) : Nat := text.length - left.length

@[simp] theorem usedUp_append (cs ds : List Char) : usedUp (cs ++ ds) ds = cs.length := by
  simp [usedUp]

@[simp] theorem consume_nil (step : σ → Char → List Char → Except ε (σ × Nat))
    (skip : Nat) (s : σ) : consume step skip s [] = .ok s := by
  cases skip <;> rfl

/-- Characters that are used up make no difference. -/
theorem consume_append (step : σ → Char → List Char → Except ε (σ × Nat)) (s : σ)
    (cs ds : List Char) : consume step cs.length s (cs ++ ds) = consume step 0 s ds := by
  induction cs with
  | nil => rfl
  | cons c cs ih => exact ih

/-- A turn that succeeds and uses up the characters `used`. -/
theorem consume_cons_of_step {step : σ → Char → List Char → Except ε (σ × Nat)} {s t : σ}
    {c : Char} {used rest : List Char} (h : step s c (used ++ rest) = .ok (t, used.length)) :
    consume step 0 s (c :: (used ++ rest)) = consume step 0 t rest := by
  rw [consume, h]
  exact consume_append step t used rest

/-- A turn that succeeds and uses up no further character. -/
theorem consume_cons_of_step_zero {step : σ → Char → List Char → Except ε (σ × Nat)} {s t : σ}
    {c : Char} {rest : List Char} (h : step s c rest = .ok (t, 0)) :
    consume step 0 s (c :: rest) = consume step 0 t rest := by
  rw [consume, h]

end PathRouter.Text
