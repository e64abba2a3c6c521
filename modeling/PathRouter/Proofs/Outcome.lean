import Mathlib.Data.List.Forall2

/-!
# Outcomes

A computation that may be refused succeeds exactly if its parts do, one after the other.
-/

namespace PathRouter

variable {ε δ α β : Type}

theorem bind_eq_ok_iff {x : Except ε α} {f : α → Except ε β} {b : β} :
    x >>= f = .ok b ↔ ∃ a, x = .ok a ∧ f a = .ok b := by
  constructor
  · intro h
    cases x with
    | error e => cases h
    | ok a => exact ⟨a, rfl, h⟩
  · rintro ⟨a, rfl, h⟩
    exact h

theorem bind_eq_error_iff {x : Except ε α} {f : α → Except ε β} {e : ε} :
    x >>= f = .error e ↔ x = .error e ∨ ∃ a, x = .ok a ∧ f a = .error e := by
  cases x with
  | error e' =>
      constructor
      · intro h
        exact .inl (congrArg Except.error (Except.error.inj h))
      · rintro (h | ⟨a, ha, -⟩)
        · exact congrArg Except.error (Except.error.inj h)
        · cases ha
  | ok a =>
      constructor
      · intro h
        exact .inr ⟨a, rfl, h⟩
      · rintro (h | ⟨b, hb, h⟩)
        · cases h
        · rwa [Except.ok.inj hb]

/-- What is only made into something else afterwards is not refused for it. -/
theorem bind_pure_eq_error_iff {x : Except ε α} {f : α → β} {e : ε} :
    (x >>= fun a => pure (f a)) = .error e ↔ x = .error e := by
  rw [bind_eq_error_iff]
  constructor
  · rintro (h | ⟨a, -, hpure⟩)
    · exact h
    · cases hpure
  · exact .inl

theorem pure_eq_ok_iff {a b : α} : (pure a : Except ε α) = .ok b ↔ a = b := by
  constructor
  · exact Except.ok.inj
  · rintro rfl
    rfl

/-- A result is kept beside something that is known already. -/
theorem map_prodMk_eq_ok_iff {x : Except ε α} {a : α} {b c : β} :
    x.map (·, b) = .ok (a, c) ↔ x = .ok a ∧ b = c := by
  cases x with
  | error e => exact iff_of_false nofun nofun
  | ok d =>
      constructor
      · intro h
        obtain ⟨rfl, rfl⟩ := Prod.mk.inj (Except.ok.inj h)
        exact ⟨rfl, rfl⟩
      · rintro ⟨h, rfl⟩
        rw [Except.ok.inj h]
        rfl

theorem mapError_eq_ok_iff {x : Except ε α} {f : ε → δ} {a : α} :
    x.mapError f = .ok a ↔ x = .ok a := by
  constructor
  · intro h
    cases x with
    | error e => cases h
    | ok b => exact congrArg Except.ok (Except.ok.inj h)
  · rintro rfl
    rfl

theorem mapError_eq_error_iff {x : Except ε α} {f : ε → δ} {e : δ} :
    x.mapError f = .error e ↔ ∃ cause, x = .error cause ∧ e = f cause := by
  constructor
  · intro h
    cases x with
    | error cause => exact ⟨cause, rfl, (Except.error.inj h).symm⟩
    | ok a => cases h
  · rintro ⟨cause, rfl, rfl⟩
    rfl

theorem isOk_iff {x : Except ε α} : x.isOk = true ↔ ∃ a, x = .ok a := by
  cases x with
  | ok a => exact iff_of_true rfl ⟨a, rfl⟩
  | error e => exact iff_of_false nofun nofun

theorem toOption_eq_some_iff {x : Except ε α} {a : α} : x.toOption = some a ↔ x = .ok a := by
  cases x with
  | error e => exact iff_of_false nofun nofun
  | ok b => exact ⟨fun h => congrArg Except.ok (Option.some.inj h), fun h =>
      congrArg some (Except.ok.inj h)⟩

/-- A result with a property that can be decided. -/
theorem exists_ok_of_any {x : Except ε α} {p : α → Bool} (h : x.toOption.any p = true) :
    ∃ a, x = .ok a ∧ p a = true := by
  cases x with
  | ok a => exact ⟨a, rfl, h⟩
  | error e => cases h

/-- Of a list, each element succeeds with its own result. -/
theorem mapM_eq_ok_iff {f : α → Except ε β} {as : List α} {bs : List β} :
    as.mapM f = .ok bs ↔ List.Forall₂ (fun a b => f a = .ok b) as bs := by
  induction as generalizing bs with
  | nil =>
      rw [List.mapM_nil, pure_eq_ok_iff, List.forall₂_nil_left_iff]
      exact eq_comm
  | cons a as ih =>
      simp only [List.mapM_cons, bind_eq_ok_iff, pure_eq_ok_iff, List.forall₂_cons_left_iff]
      constructor
      · rintro ⟨b, hb, later, hlater, rfl⟩
        exact ⟨b, later, hb, ih.1 hlater, rfl⟩
      · rintro ⟨b, later, hb, hlater, rfl⟩
        exact ⟨b, hb, later, ih.2 hlater, rfl⟩

/-- A list succeeds if each element does. -/
theorem exists_mapM_eq_ok_iff {f : α → Except ε β} {as : List α} :
    (∃ bs, as.mapM f = .ok bs) ↔ ∀ a ∈ as, ∃ b, f a = .ok b := by
  simp only [mapM_eq_ok_iff]
  induction as with
  | nil => exact iff_of_true ⟨[], .nil⟩ nofun
  | cons a as ih =>
      rw [List.forall_mem_cons, ← ih]
      constructor
      · rintro ⟨bs, hbs⟩
        cases hbs with
        | cons hfirst hlater => exact ⟨⟨_, hfirst⟩, _, hlater⟩
      · rintro ⟨⟨b, hfirst⟩, bs, hlater⟩
        exact ⟨b :: bs, .cons hfirst hlater⟩

/-- Of a list, the first element that fails is at fault. -/
theorem mapM_eq_error_iff {f : α → Except ε β} {as : List α} {e : ε} :
    as.mapM f = .error e ↔ ∃ earlier a later, as = earlier ++ a :: later ∧
      (∀ b ∈ earlier, ∃ c, f b = .ok c) ∧ f a = .error e := by
  induction as with
  | nil =>
      constructor
      · nofun
      · rintro ⟨earlier, a, later, has, -⟩
        exact absurd has.symm (List.append_ne_nil_of_right_ne_nil _ (List.cons_ne_nil _ _))
  | cons first as ih =>
      rw [List.mapM_cons, bind_eq_error_iff]
      constructor
      · rintro (hfirst | ⟨b, hb, hlater⟩)
        · exact ⟨[], first, as, rfl, nofun, hfirst⟩
        · rw [bind_pure_eq_error_iff] at hlater
          obtain ⟨earlier, a, later, rfl, hearlier, ha⟩ := ih.1 hlater
          exact ⟨first :: earlier, a, later, rfl,
            List.forall_mem_cons.2 ⟨⟨b, hb⟩, hearlier⟩, ha⟩
      · rintro ⟨earlier, a, later, has, hearlier, ha⟩
        cases earlier with
        | nil =>
            obtain ⟨rfl, -⟩ := List.cons.inj has
            exact .inl ha
        | cons b earlier =>
            obtain ⟨rfl, rfl⟩ := List.cons.inj has
            obtain ⟨⟨c, hc⟩, hearlier⟩ := List.forall_mem_cons.1 hearlier
            refine .inr ⟨c, hc, bind_pure_eq_error_iff.2 ?_⟩
            exact ih.2 ⟨earlier, a, later, rfl, hearlier, ha⟩

end PathRouter
