import PathRouter.Proofs.Regex.Backtracking

/-!
# Built terms

The functions that build terms bring them into a flat form and number their branchings. An attempt
at a built term is an attempt at its parts, one after the other.
-/

namespace PathRouter.Regex.Term

/-- One term after another is attempted as a sequence. -/
theorem attempt_append (s t : Term) (k : Continuation) :
    (s.append t).attempt k = s.attempt (t.attempt k) := by
  fun_induction append s t with
  | case1 t => rfl
  | case2 a b t ih => rw [attempt, attempt, ih]
  | case3 s => rfl
  | case4 s t => rfl

theorem simple_append {s t : Term} (hs : s.Simple) (ht : t.Simple) : (s.append t).Simple := by
  fun_induction append s t with
  | case1 t => exact ht
  | case2 a b t ih =>
      constructor
      · exact hs.1
      · exact ih hs.2 ht
  | case3 s => exact hs
  | case4 s t => exact ⟨hs, ht⟩

theorem groups_append (s t : Term) : (s.append t).groups = s.groups ++ t.groups := by
  fun_induction append s t with
  | case1 t => rfl
  | case2 a b t ih => rw [groups, groups, ih, List.append_assoc]
  | case3 s => rw [groups, List.append_nil]
  | case4 s t => rfl

theorem readsNothing_append (s t : Term) :
    (s.append t).readsNothing = (s.readsNothing && t.readsNothing) := by
  fun_induction append s t with
  | case1 t => rfl
  | case2 a b t ih => rw [readsNothing, readsNothing, ih, Bool.and_assoc]
  | case3 s => rw [readsNothing, Bool.and_true]
  | case4 s t => rfl

theorem append_empty (s : Term) : s.append .empty = s := by
  induction s with
  | seq a b _ ihb => rw [append, ihb]
  | _ => rfl

theorem append_eq_empty {s t : Term} (h : s.append t = .empty) : s = .empty ∧ t = .empty := by
  cases s with
  | empty =>
      constructor
      · rfl
      · exact h
  | seq a b => cases h
  | _ => cases t <;> cases h

theorem concat_ne_empty {ts : List Term} {t : Term} (hmem : t ∈ ts) (ht : t ≠ .empty) :
    concat ts ≠ .empty := by
  induction ts with
  | nil => cases hmem
  | cons u us ih =>
      intro h
      obtain ⟨rfl, hus⟩ := append_eq_empty h
      rcases List.mem_cons.1 hmem with rfl | hmem
      · exact ht rfl
      · exact ih hmem hus

/-- A condition before something else stands at the beginning of a sequence. -/
theorem concat_look {l : Look} {ts : List Term} (h : concat ts ≠ .empty) :
    concat (.look l :: ts) = .seq (.look l) (concat ts) := by
  change (Term.look l).append (concat ts) = _
  cases hts : concat ts with
  | empty => exact absurd hts h
  | _ => rfl

/-- Terms one after the other are attempted one after the other. -/
theorem attempt_concat (ts : List Term) (k : Continuation) :
    (concat ts).attempt k = ts.foldr (fun t k => t.attempt k) k := by
  induction ts with
  | nil => rfl
  | cons t ts ih =>
      calc
        (concat (t :: ts)).attempt k = t.attempt ((concat ts).attempt k) :=
          attempt_append t (concat ts) k
        _ = (t :: ts).foldr (fun t k => t.attempt k) k := by rw [ih, List.foldr_cons]

theorem simple_concat {ts : List Term} (h : ∀ t ∈ ts, t.Simple) : (concat ts).Simple := by
  induction ts with
  | nil => trivial
  | cons t ts ih =>
      apply simple_append (h t List.mem_cons_self)
      apply ih
      intro u hu
      exact h u (List.mem_cons_of_mem _ hu)

theorem groups_concat (ts : List Term) : (concat ts).groups = ts.flatMap groups := by
  induction ts with
  | nil => rfl
  | cons t ts ih =>
      calc
        (concat (t :: ts)).groups = t.groups ++ (concat ts).groups := groups_append t (concat ts)
        _ = (t :: ts).flatMap groups := by rw [ih, List.flatMap_cons]

theorem readsNothing_concat (ts : List Term) :
    (concat ts).readsNothing = ts.all readsNothing := by
  induction ts with
  | nil => rfl
  | cons t ts ih =>
      calc
        (concat (t :: ts)).readsNothing = (t.readsNothing && (concat ts).readsNothing) :=
          readsNothing_append t (concat ts)
        _ = (t :: ts).all readsNothing := by rw [ih, List.all_cons]

/-- The numbers of branchings make no difference to attempts. -/
theorem attempt_number (n : Nat) (t : Term) : (t.number n).1.attempt = t.attempt := by
  induction t generalizing n with
  | empty => rfl
  | read set => rfl
  | look l => rfl
  | seq a b iha ihb =>
      funext k
      simp only [number, attempt, iha, ihb]
  | alt m a b iha ihb =>
      funext k
      simp only [number, attempt, iha, ihb]
  | rep m min more greedy body ih =>
      funext k
      cases more <;> simp only [number, attempt, ih]
  | group index name body ih =>
      funext k
      simp only [number, attempt, ih]

theorem simple_number {t : Term} (h : t.Simple) (n : Nat) : (t.number n).1.Simple := by
  induction t generalizing n with
  | empty => trivial
  | read set => trivial
  | look l => trivial
  | seq a b iha ihb => exact ⟨iha h.1 _, ihb h.2 _⟩
  | alt m a b iha ihb => exact ⟨iha h.1 _, ihb h.2 _⟩
  | rep m min more greedy body ih =>
      cases more with
      | none =>
          obtain ⟨set, rfl⟩ := h
          exact ⟨set, rfl⟩
      | some more => exact ih h _
  | group index name body ih => exact ih h _

theorem groups_number (n : Nat) (t : Term) : (t.number n).1.groups = t.groups := by
  induction t generalizing n with
  | empty => rfl
  | read set => rfl
  | look l => rfl
  | seq a b iha ihb => simp only [number, groups, iha, ihb]
  | alt m a b iha ihb => simp only [number, groups, iha, ihb]
  | rep m min more greedy body ih => simp only [number, groups, ih]
  | group index name body ih => simp only [number, groups, ih]

/-- A body that reads something is repeated as often as was asked for. -/
theorem repetition_optional {body : Term} (h : body.readsNothing = false) (greedy : Bool) :
    repetition 0 (some 1) greedy body = .rep 0 0 (some 1) greedy body := by
  simp [repetition, h]

/-! ## Common beginnings -/

theorem prefix_commonPrefix (as bs : List Term) :
    commonPrefix as bs <+: as ∧ commonPrefix as bs <+: bs := by
  fun_induction commonPrefix as bs with
  | case1 a as bs ih =>
      simp only [List.cons_prefix_cons, true_and]
      exact ih
  | case2 => exact ⟨List.nil_prefix, List.nil_prefix⟩
  | case3 => exact ⟨List.nil_prefix, List.nil_prefix⟩

theorem prefix_foldl_commonPrefix (ts : List Term) (first : List Term) :
    ts.foldl (fun p u => commonPrefix p u.items) first <+: first ∧
      ∀ t ∈ ts, ts.foldl (fun p u => commonPrefix p u.items) first <+: t.items := by
  induction ts generalizing first with
  | nil => exact ⟨List.prefix_rfl, fun t ht => nomatch ht⟩
  | cons u ts ih =>
      obtain ⟨hfirst, hrest⟩ := ih (commonPrefix first u.items)
      obtain ⟨hleft, hright⟩ := prefix_commonPrefix first u.items
      constructor
      · exact hfirst.trans hleft
      · intro t ht
        rcases List.mem_cons.1 ht with rfl | ht
        · exact hfirst.trans hright
        · exact hrest t ht

theorem prefix_sharedItems (ts : List Term) : ∀ t ∈ ts, sharedItems ts <+: t.items := by
  intro t ht
  unfold sharedItems
  cases ts with
  | nil => cases ht
  | cons u ts =>
      dsimp only
      split
      · obtain ⟨hfirst, hrest⟩ := prefix_foldl_commonPrefix ts u.items
        rcases List.mem_cons.1 ht with rfl | ht
        · exact hfirst
        · exact hrest t ht
      · exact List.nil_prefix

theorem exists_of_mem_sharedItems {ts : List Term} {u : Term} (h : u ∈ sharedItems ts) :
    ∃ t ∈ ts, u ∈ t.items := by
  cases ts with
  | nil => cases h
  | cons t ts =>
      have hprefix := prefix_sharedItems (t :: ts) t List.mem_cons_self
      exact ⟨t, List.mem_cons_self, hprefix.subset h⟩

/-! ## Simplicity of alternatives -/

theorem simple_items {t : Term} (h : t.Simple) : ∀ u ∈ t.items, u.Simple := by
  induction t with
  | empty => exact fun u hu => nomatch hu
  | seq a b _ ihb =>
      rw [items, List.forall_mem_cons]
      exact ⟨h.1, ihb h.2⟩
  | _ => exact List.forall_mem_singleton.2 h

theorem simple_branches {t : Term} (h : t.Simple) : ∀ u ∈ t.branches, u.Simple := by
  induction t with
  | alt m a b _ ihb =>
      rw [branches, List.forall_mem_cons]
      exact ⟨h.1, ihb h.2⟩
  | _ => exact List.forall_mem_singleton.2 h

theorem simple_flatMap_branches {ts : List Term} (h : ∀ t ∈ ts, t.Simple) :
    ∀ u ∈ ts.flatMap branches, u.Simple := by
  intro u hu
  obtain ⟨t, ht, hu⟩ := List.mem_flatMap.1 hu
  exact simple_branches (h t ht) u hu

theorem simple_ofBranches {ts : List Term} (h : ∀ t ∈ ts, t.Simple) : (ofBranches ts).Simple := by
  fun_induction ofBranches ts with
  | case1 => trivial
  | case2 t => exact h t List.mem_cons_self
  | case3 t ts _ ih =>
      obtain ⟨ht, hts⟩ := List.forall_mem_cons.1 h
      exact ⟨ht, ih hts⟩

theorem simple_choice {ts : List Term} (h : ∀ t ∈ ts, t.Simple) : (choice ts).Simple := by
  have hbranches := simple_flatMap_branches h
  rw [choice]
  split
  · trivial
  · next t hbs => exact hbranches t (hbs ▸ List.mem_cons_self)
  · split
    · trivial
    · exact simple_ofBranches hbranches

theorem simple_alternatives {ts : List Term} (h : ∀ t ∈ ts, t.Simple) :
    (alternatives ts).Simple := by
  have hbranches := simple_flatMap_branches h
  rw [alternatives]
  dsimp only
  split
  · trivial
  · next t hbs => exact hbranches t (hbs ▸ List.mem_cons_self)
  · apply simple_concat
    intro u hu
    rcases List.mem_append.1 hu with hu | hu
    · obtain ⟨t, ht, hu⟩ := exists_of_mem_sharedItems hu
      exact simple_items (hbranches t ht) u hu
    · obtain rfl := List.mem_singleton.1 hu
      apply simple_choice
      intro v hv
      obtain ⟨t, ht, rfl⟩ := List.mem_map.1 hv
      apply simple_concat
      intro w hw
      exact simple_items (hbranches t ht) w (List.mem_of_mem_drop hw)

end PathRouter.Regex.Term
