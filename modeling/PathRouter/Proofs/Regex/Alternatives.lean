import PathRouter.Proofs.Regex.Opening

/-!
# Alternatives

Alternatives that begin alike are brought together behind their common beginning, and alternatives
that read a single character each become one set. An attempt at what comes out of this is still an
attempt at one alternative after the other, if the common beginning leads to one place at most. It
does if it consists of single characters and conditions.
-/

namespace PathRouter.Regex

open Unicode (CharSet)

/-- Attempts in order, up to the first that succeeds. -/
def firstOf (ks : List Continuation) : Continuation := fun s captures =>
  ks.findSome? fun k => k s captures

theorem isSome_firstOf {ks : List Continuation} {s : Cursor} {captures : Captures} :
    (firstOf ks s captures).isSome = true ↔ ∃ k ∈ ks, (k s captures).isSome = true :=
  List.findSome?_isSome_iff

theorem firstOf_append (as bs : List Continuation) (s : Cursor) (captures : Captures) :
    firstOf (as ++ bs) s captures = (firstOf as s captures <|> firstOf bs s captures) := by
  rw [firstOf, List.findSome?_append, Option.orElse_eq_orElse, Option.orElse_eq_or]
  rfl

theorem firstOf_singleton (k : Continuation) : firstOf [k] = k := by
  funext s captures
  exact List.findSome?_singleton

namespace Term

/-! ## Branches -/

theorem attempt_fail (k : Continuation) : fail.attempt k = firstOf [] := by
  funext s captures
  change attemptRead .empty k s captures = none
  unfold attemptRead
  split
  · rfl
  · rw [CharSet.contains_empty, if_neg Bool.false_ne_true]

theorem attempt_branches (t : Term) (k : Continuation) :
    firstOf (t.branches.map fun u => u.attempt k) = t.attempt k := by
  induction t with
  | alt m a b _ ihb =>
      funext s captures
      calc
        firstOf ((a :: b.branches).map fun u => u.attempt k) s captures =
            (firstOf [a.attempt k] s captures <|>
              firstOf (b.branches.map fun u => u.attempt k) s captures) :=
          firstOf_append [a.attempt k] _ s captures
        _ = (Term.alt m a b).attempt k s captures := by
          rw [firstOf_singleton, ihb]
          rfl
  | _ => exact firstOf_singleton _

/-- The branches of terms are attempted in the place of these terms. -/
theorem attempt_flatMap_branches (ts : List Term) (k : Continuation) :
    firstOf ((ts.flatMap branches).map fun u => u.attempt k) =
      firstOf (ts.map fun t => t.attempt k) := by
  induction ts with
  | nil => rfl
  | cons t ts ih =>
      funext s captures
      rw [List.flatMap_cons, List.map_append, firstOf_append, attempt_branches, ih, List.map_cons,
        ← List.singleton_append, firstOf_append, firstOf_singleton]

theorem attempt_ofBranches (ts : List Term) (k : Continuation) :
    (ofBranches ts).attempt k = firstOf (ts.map fun t => t.attempt k) := by
  fun_induction ofBranches ts with
  | case1 => exact attempt_fail k
  | case2 t => exact (firstOf_singleton _).symm
  | case3 t ts _ ih =>
      funext s captures
      rw [List.map_cons, ← List.singleton_append, firstOf_append, firstOf_singleton, ← ih]
      rfl

/-- Of several sets a character is in at least one if it is in all of them together. -/
theorem attempt_readUnion? {ts : List Term} {set : CharSet} (h : readUnion? ts = some set)
    (k : Continuation) : (read set).attempt k = firstOf (ts.map fun t => t.attempt k) := by
  fun_induction readUnion? ts generalizing set with
  | case1 =>
      obtain rfl := Option.some.inj h
      exact attempt_fail k
  | case2 first ts ih =>
      obtain ⟨later, hlater, rfl⟩ := Option.map_eq_some_iff.1 h
      funext s captures
      rw [List.map_cons, ← List.singleton_append, firstOf_append, firstOf_singleton, ← ih hlater]
      change attemptRead (first.union later) k s captures =
        (attemptRead first k s captures <|> attemptRead later k s captures)
      unfold attemptRead
      split
      · rfl
      · next c rest _ =>
          rw [CharSet.contains_union]
          cases first.contains c <;> cases later.contains c <;> simp
  | case3 => cases h

/-- A choice is attempted as its terms are in order. -/
theorem attempt_choice (ts : List Term) (k : Continuation) :
    (choice ts).attempt k = firstOf (ts.map fun t => t.attempt k) := by
  rw [← attempt_flatMap_branches, choice]
  split
  · next hbs => rw [hbs]; exact attempt_fail k
  · next t hbs => rw [hbs]; exact (firstOf_singleton _).symm
  · next bs _ _ =>
      split
      · next set hset => exact attempt_readUnion? hset k
      · exact attempt_ofBranches _ k

/-! ## Common beginnings -/

/-- A term is attempted as its items are, one after the other. -/
theorem attempt_items (t : Term) (k : Continuation) :
    t.items.foldr (fun u k => u.attempt k) k = t.attempt k := by
  induction t with
  | seq a b _ ihb => rw [items, List.foldr_cons, ihb, attempt]
  | _ => rfl

/-- What has to be attempted behind an atom may as well be attempted in its place, each time behind
the atom. -/
theorem attempt_firstOf {u : Term} (hu : u.IsAtom) (ks : List Continuation) :
    u.attempt (firstOf ks) = firstOf (ks.map fun k => u.attempt k) := by
  funext s captures
  rw [firstOf, List.findSome?_map]
  have hnone : (ks.findSome? fun _ => none) = (none : Option Captures) := by
    rw [List.findSome?_eq_none_iff]
    exact fun _ _ => rfl
  cases u with
  | read set =>
      change attemptRead set (firstOf ks) s captures =
        ks.findSome? fun k => attemptRead set k s captures
      unfold attemptRead
      split
      · exact hnone.symm
      · split
        · rfl
        · exact hnone.symm
  | look l =>
      change (if l.holds s.place then _ else none) =
        ks.findSome? fun k => if l.holds s.place then k s captures else none
      split
      · rfl
      · exact hnone.symm
  | _ => cases hu

theorem foldr_attempt_firstOf {us : List Term} (hus : ∀ u ∈ us, u.IsAtom)
    (ks : List Continuation) : us.foldr (fun u k => u.attempt k) (firstOf ks) =
      firstOf (ks.map fun k => us.foldr (fun u k => u.attempt k) k) := by
  induction us with
  | nil => exact congrArg firstOf (List.map_id _).symm
  | cons u us ih =>
      rw [List.foldr_cons, ih fun v hv => hus v (List.mem_cons_of_mem _ hv),
        attempt_firstOf (hus u List.mem_cons_self), List.map_map]
      rfl

/-- All that stands in the term are single characters and conditions. -/
def Flat (t : Term) : Prop := ∀ u ∈ t.items, u.IsAtom

theorem isAtom_of_mem_sharedItems {ts : List Term} (h : ∀ t ∈ ts, t.Flat) :
    ∀ u ∈ sharedItems ts, u.IsAtom := by
  intro u hu
  obtain ⟨t, ht, hu⟩ := exists_of_mem_sharedItems hu
  exact h t ht u hu

/-- A branch is attempted as the shared items and then what it has behind them. -/
theorem attempt_drop_items {us : List Term} {t : Term} (h : us <+: t.items) (k : Continuation) :
    us.foldr (fun u k => u.attempt k) ((concat (t.items.drop us.length)).attempt k) =
      t.attempt k := by
  rw [attempt_concat, ← List.foldr_append, List.prefix_iff_eq_append.1 h, attempt_items]

theorem Flat.branches {t : Term} (h : t.Flat) : t.branches = [t] := by
  cases t with
  | alt m a b => exact (h _ List.mem_cons_self).elim
  | _ => rfl

theorem flatMap_branches_of_flat {ts : List Term} (h : ∀ t ∈ ts, t.Flat) :
    ts.flatMap branches = ts := by
  rw [List.flatMap_congr fun t ht => (h t ht).branches, List.flatMap_singleton']

theorem alternatives_singleton {t : Term} (h : t.Flat) : alternatives [t] = t := by
  rw [alternatives, flatMap_branches_of_flat (List.forall_mem_singleton.2 h)]

/-- Alternatives are attempted in order, although they are kept behind their common beginning. -/
theorem attempt_alternatives {ts : List Term} (h : ∀ t ∈ ts, t.Flat) (k : Continuation) :
    (alternatives ts).attempt k = firstOf (ts.map fun t => t.attempt k) := by
  rw [alternatives, flatMap_branches_of_flat h]
  dsimp only
  split
  · exact attempt_fail k
  · exact (firstOf_singleton _).symm
  · let shared := sharedItems ts
    let ownItems := fun t : Term => concat (t.items.drop shared.length)
    let later := fun t : Term => (ownItems t).attempt k
    calc
      (concat (shared ++ [choice (ts.map ownItems)])).attempt k =
          shared.foldr (fun u k => u.attempt k) (firstOf (ts.map later)) := by
        rw [attempt_concat, List.foldr_append, List.foldr_cons, List.foldr_nil, attempt_choice,
          List.map_map]
        rfl
      _ = firstOf (ts.map fun t => shared.foldr (fun u k => u.attempt k) (later t)) := by
        rw [foldr_attempt_firstOf (isAtom_of_mem_sharedItems h), List.map_map]
        rfl
      _ = firstOf (ts.map fun t => t.attempt k) := by
        congr 1
        apply List.map_congr_left
        intro t ht
        exact attempt_drop_items (prefix_sharedItems ts t ht) k

end Term

end PathRouter.Regex
