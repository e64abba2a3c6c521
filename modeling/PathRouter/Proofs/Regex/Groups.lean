import PathRouter.Proofs.Regex.Enclosed
import PathRouter.Proofs.Regex.Opening

/-!
# Groups

The capturing groups of an expression, in the order in which they are opened. A term has only groups
of the expression it was made from, and the groups of an expression that is read have numbers from
one on.
-/

namespace PathRouter.Regex

/-! ## Groups of expressions -/

/-- The groups that a pair of parentheses opens itself. -/
def GroupKind.groups : GroupKind → List (Nat × Option String)
  | .capture index name => [(index, name)]
  | .plain _ => []

mutual

/-- The groups of an expression with their names. -/
def Expr.groups : Expr → List (Nat × Option String)
  | .repetition _ _ _ body => body.groups
  | .group kind body => kind.groups ++ body.groups
  | .concat items => groupsAll items
  | .alternatives branches => groupsAll branches
  | _ => []

def Expr.groupsAll : List Expr → List (Nat × Option String)
  | [] => []
  | e :: es => e.groups ++ groupsAll es

end

namespace Expr

theorem groupsAll_eq (es : List Expr) : groupsAll es = es.flatMap groups := by
  induction es with
  | nil => rfl
  | cons e es ih => rw [groupsAll, ih, List.flatMap_cons]

theorem groups_ofItems (es : List Expr) : (ofItems es).groups = es.flatMap groups := by
  match es with
  | [] => rfl
  | [e] => exact (List.append_nil _).symm
  | e :: f :: es => exact groupsAll_eq (e :: f :: es)

theorem groups_ofBranches (es : List Expr) : (ofBranches es).groups = es.flatMap groups := by
  match es with
  | [] => rfl
  | [e] => exact (List.append_nil _).symm
  | e :: f :: es => exact groupsAll_eq (e :: f :: es)

end Expr

theorem GroupKind.groups_shift (n : Nat) (kind : GroupKind) :
    (kind.shift n).groups = kind.groups.map fun g => (n + g.1, g.2) := by
  cases kind <;> rfl

mutual

theorem Expr.groups_shift (n : Nat) :
    ∀ e : Expr, (e.shift n).groups = e.groups.map fun g => (n + g.1, g.2)
  | .empty | .flags _ | .literal _ | .dot | .anchor _ | .named _ _ | .chars _ => rfl
  | .repetition _ _ _ body => groups_shift n body
  | .group kind body => by
      simp only [shift, groups, List.map_append, GroupKind.groups_shift, groups_shift n body]
  | .concat items => groupsAll_shiftAll n items
  | .alternatives branches => groupsAll_shiftAll n branches

theorem Expr.groupsAll_shiftAll (n : Nat) :
    ∀ es : List Expr, groupsAll (shiftAll n es) = (groupsAll es).map fun g => (n + g.1, g.2)
  | [] => rfl
  | e :: es => by
      simp only [shiftAll, groupsAll, List.map_append, groups_shift n e, groupsAll_shiftAll n es]

end

/-! ## Groups of terms -/

namespace Term

theorem groups_repetition_subset (min : Nat) (max : Option Nat) (greedy : Bool) (body : Term) :
    (repetition min max greedy body).groups ⊆ body.groups := by
  unfold repetition
  dsimp only
  split
  · exact List.nil_subset _
  · exact List.Subset.refl _
  · exact List.Subset.refl _

theorem flatMap_groups_branches (t : Term) : t.branches.flatMap groups = t.groups := by
  induction t with
  | alt number a b _ ih => rw [branches, List.flatMap_cons, ih, groups]
  | _ => exact List.append_nil _

theorem flatMap_groups_items (t : Term) : t.items.flatMap groups = t.groups := by
  induction t with
  | empty => rfl
  | seq a b _ ih => rw [items, List.flatMap_cons, ih, groups]
  | _ => exact List.append_nil _

theorem groups_ofBranches (ts : List Term) : (ofBranches ts).groups = ts.flatMap groups := by
  fun_induction ofBranches ts with
  | case1 => rfl
  | case2 t => exact (List.append_nil _).symm
  | case3 t ts _ ih => rw [groups, ih, List.flatMap_cons]

theorem flatMap_groups_flatMap_branches (ts : List Term) :
    (ts.flatMap branches).flatMap groups = ts.flatMap groups := by
  rw [List.flatMap_assoc]
  simp only [flatMap_groups_branches]

theorem groups_choice_subset (ts : List Term) : (choice ts).groups ⊆ ts.flatMap groups := by
  rw [← flatMap_groups_flatMap_branches]
  unfold choice
  dsimp only
  split
  · exact List.nil_subset _
  · next t heq =>
      rw [heq]
      exact List.subset_append_left _ _
  · split
    · exact List.nil_subset _
    · rw [groups_ofBranches]
      exact List.Subset.refl _

/-- What all branches begin with stands in a branch. -/
theorem groups_sharedItems_subset (ts : List Term) :
    (sharedItems ts).flatMap groups ⊆ ts.flatMap groups := by
  intro g hg
  obtain ⟨u, hu, hg⟩ := List.mem_flatMap.1 hg
  obtain ⟨t, ht, hu⟩ := exists_of_mem_sharedItems hu
  apply List.mem_flatMap.2
  refine ⟨t, ht, ?_⟩
  rw [← flatMap_groups_items t]
  exact List.mem_flatMap.2 ⟨u, hu, hg⟩

theorem groups_alternatives_subset (ts : List Term) :
    (alternatives ts).groups ⊆ ts.flatMap groups := by
  rw [← flatMap_groups_flatMap_branches]
  unfold alternatives
  dsimp only
  split
  · exact List.nil_subset _
  · next t heq =>
      rw [heq]
      exact List.subset_append_left _ _
  · rw [groups_concat, List.flatMap_append, List.flatMap_singleton]
    apply List.append_subset.2
    constructor
    · exact groups_sharedItems_subset _
    · apply List.Subset.trans (groups_choice_subset _)
      intro g hg
      rw [List.flatMap_map] at hg
      obtain ⟨t, ht, hg⟩ := List.mem_flatMap.1 hg
      rw [groups_concat] at hg
      obtain ⟨u, hu, hg⟩ := List.mem_flatMap.1 hg
      apply List.mem_flatMap.2
      refine ⟨t, ht, ?_⟩
      rw [← flatMap_groups_items t]
      exact List.mem_flatMap.2 ⟨u, List.mem_of_mem_drop hu, hg⟩

/-- A repetition of something that may be left out keeps its groups. -/
theorem groups_repetition_optional (greedy : Bool) (body : Term) :
    (repetition 0 (some 1) greedy body).groups = body.groups := by
  cases h : body.readsNothing <;> simp [repetition, h, groups]

end Term

/-! ## From expressions to terms -/

theorem GroupKind.groups_term (kind : GroupKind) (body : Term) :
    (kind.term body).groups = kind.groups ++ body.groups := by
  cases kind <;> rfl

mutual

/-- A term has no other groups than its expression. -/
theorem Expr.groups_of_term {f g : Flags} {t : Term} :
    ∀ {e : Expr}, e.term f = .ok (t, g) → t.groups ⊆ e.groups
  | .empty, h | .flags _, h | .anchor _, h => by
      obtain ⟨rfl, -⟩ := Prod.mk.inj (Except.ok.inj h)
      exact List.nil_subset _
  | .literal l, h => by
      simp only [term, Literal.term, bind_eq_ok_iff, pure_eq_ok_iff] at h
      obtain ⟨u, hu, heq⟩ := h
      obtain ⟨rfl, -⟩ := Prod.mk.inj heq
      split at hu
      · cases hu
      · obtain rfl := Except.ok.inj hu
        exact List.nil_subset _
  | .dot, h => by
      simp only [term, Flags.dot, bind_eq_ok_iff, pure_eq_ok_iff] at h
      obtain ⟨u, hu, heq⟩ := h
      obtain ⟨rfl, -⟩ := Prod.mk.inj heq
      split at hu
      · cases hu
      · split at hu <;>
          obtain rfl := Except.ok.inj hu <;> exact List.nil_subset _
  | .named _ _, h | .chars _, h => by
      simp only [term, bind_eq_ok_iff, pure_eq_ok_iff] at h
      obtain ⟨set, -, heq⟩ := h
      obtain ⟨rfl, -⟩ := Prod.mk.inj heq
      exact List.nil_subset _
  | .repetition min max lazy body, h => by
      obtain ⟨u, hu, rfl⟩ := term_repetition_eq_ok_iff.1 h
      rw [groups]
      apply List.Subset.trans (Term.groups_repetition_subset _ _ _ _)
      exact groups_of_term hu
  | .group kind body, h => by
      obtain ⟨u, f', hu, rfl, -⟩ := term_group_eq_ok_iff.1 h
      rw [kind.groups_term, groups]
      apply List.append_subset.2
      constructor
      · exact List.subset_append_left _ _
      · apply List.Subset.trans (groups_of_term hu)
        exact List.subset_append_right _ _
  | .concat items, h => by
      obtain ⟨ts, hts, rfl⟩ := term_concat_eq_ok_iff.1 h
      rw [Term.groups_concat]
      exact groups_of_terms hts
  | .alternatives branches, h => by
      obtain ⟨ts, hts, rfl⟩ := term_alternatives_eq_ok_iff.1 h
      apply List.Subset.trans (Term.groups_alternatives_subset ts)
      exact groups_of_terms hts

theorem Expr.groups_of_terms {f g : Flags} {ts : List Term} :
    ∀ {es : List Expr}, terms f es = .ok (ts, g) → ts.flatMap Term.groups ⊆ groupsAll es
  | [], h => by
      obtain ⟨rfl, -⟩ := terms_nil_eq_ok_iff.1 h
      exact List.nil_subset _
  | e :: es, h => by
      obtain ⟨u, f', us, hu, hus, rfl⟩ := terms_cons_eq_ok_iff.1 h
      rw [List.flatMap_cons, groupsAll]
      apply List.append_subset.2
      constructor
      · apply List.Subset.trans (groups_of_term hu)
        exact List.subset_append_left _ _
      · apply List.Subset.trans (groups_of_terms hus)
        exact List.subset_append_right _ _

end

/-! ## Numbers of groups -/

/-- All groups have numbers from one on. -/
def Positive (groups : List (Nat × Option String)) : Prop := ∀ g ∈ groups, 0 < g.1

theorem positive_append_iff {as bs : List (Nat × Option String)} :
    Positive (as ++ bs) ↔ Positive as ∧ Positive bs := List.forall_mem_append

theorem positive_flatMap_reverse_iff {es : List Expr} :
    Positive (es.reverse.flatMap Expr.groups) ↔ Positive (es.flatMap Expr.groups) := by
  simp [Positive]

namespace Parser

theorem Primitive.groups_expr (p : Primitive) : p.expr.groups = [] := by
  cases p <;> rfl

/-- The groups of a level that is not closed yet have numbers from one on. -/
structure Level.Positive (l : Level) : Prop where
  kind : Regex.Positive l.kind.groups
  branches : Regex.Positive (l.branches.flatMap Expr.groups)
  items : Regex.Positive (l.items.flatMap Expr.groups)

theorem Level.Positive.expr {l : Level} (h : l.Positive) : Regex.Positive l.expr.groups := by
  rw [Level.expr, Expr.groups_ofBranches, List.flatMap_append, List.flatMap_singleton,
    Expr.groups_ofItems, positive_append_iff]
  constructor
  · exact positive_flatMap_reverse_iff.2 h.branches
  · exact positive_flatMap_reverse_iff.2 h.items

/-- All groups read so far have numbers from one on. -/
def State.Positive (s : State) : Prop := s.level.Positive ∧ ∀ l ∈ s.outer, l.Positive

namespace State.Positive
variable {s : State} (h : s.Positive)
include h

theorem setItems {items : List Expr} (hitems : Regex.Positive (items.flatMap Expr.groups)) :
    State.Positive { s with level := { s.level with items := items } } :=
  ⟨⟨h.1.kind, h.1.branches, hitems⟩, h.2⟩

theorem push {e : Expr} (he : Regex.Positive e.groups) : (s.push e).Positive := by
  apply h.setItems
  rw [List.flatMap_cons, positive_append_iff]
  exact ⟨he, h.1.items⟩

theorem enter {kind : GroupKind} (hkind : Regex.Positive kind.groups) :
    (s.enter kind).Positive :=
  ⟨⟨hkind, nofun, nofun⟩, List.forall_mem_cons.2 h⟩

theorem repeatLast {min : Nat} {max : Option Nat} {lazy : Bool} {t : State}
    (ht : s.repeatLast min max lazy = .ok t) : t.Positive := by
  unfold State.repeatLast at ht
  split at ht
  · cases ht
  · cases ht
  · next e items _ heq =>
      obtain rfl := Except.ok.inj ht
      have hitems := h.1.items
      rw [heq] at hitems
      exact h.setItems hitems

theorem close {t : State} (ht : closeGroup s = .ok t) : t.Positive := by
  unfold closeGroup at ht
  split at ht
  · cases ht
  · next level outer heq =>
      obtain rfl := Except.ok.inj ht
      have houter := h.2
      rw [heq, List.forall_mem_cons] at houter
      have hopened : State.Positive
          { s with level := level, outer := outer, blanks := s.level.blanksBehind } := houter
      apply hopened.push
      apply positive_append_iff.2
      exact ⟨h.1.kind, h.1.expr⟩

theorem nextBranch : s.nextBranch.Positive := by
  refine ⟨⟨h.1.kind, ?_, nofun⟩, h.2⟩
  change Regex.Positive ((_ :: s.level.branches).flatMap Expr.groups)
  rw [List.flatMap_cons, Expr.groups_ofItems, positive_append_iff]
  exact ⟨positive_flatMap_reverse_iff.2 h.1.items, h.1.branches⟩

theorem pushClass (c : ClassExpr) : (s.pushClass c).Positive := by
  unfold State.pushClass
  split
  · exact h.push nofun
  · exact h

theorem closeClass : (Parser.closeClass s).Positive := by
  unfold Parser.closeClass
  split
  · exact h
  · next level outer _ =>
      have hopened : State.Positive { s with classes := outer } := h
      exact hopened.pushClass _

theorem operation (op : ClassOp) : (s.operation op).Positive := by
  unfold State.operation
  split <;> exact h

/-- No turn gives a group the number zero. -/
theorem turn {t : State} {turn : Turn} (ht : turn.apply s = .ok t) : t.Positive := by
  cases turn with
  | stay => exact Except.ok.inj ht ▸ h
  | push p =>
      obtain rfl := Except.ok.inj ht
      apply h.push
      rw [p.groups_expr]
      nofun
  | again min max lazy => exact h.repeatLast ht
  | setFlags change =>
      obtain rfl := Except.ok.inj ht
      have hpushed : (s.push (.flags change)).Positive := h.push nofun
      exact hpushed
  | openPlain change =>
      obtain rfl := Except.ok.inj ht
      have hentered : (s.enter (.plain change)).Positive := h.enter nofun
      exact hentered
  | openCapture name =>
      simp only [Turn.apply] at ht
      split at ht
      · cases ht
      · obtain rfl := Except.ok.inj ht
        have hkind : Regex.Positive (GroupKind.capture (s.groups + 1) name).groups :=
          List.forall_mem_singleton.2 (Nat.succ_pos _)
        exact h.enter hkind
  | close => exact h.close ht
  | branch => exact Except.ok.inj ht ▸ h.nextBranch
  | openClass negated items => exact Except.ok.inj ht ▸ h
  | classItem c => exact Except.ok.inj ht ▸ h.pushClass c
  | closeClass => exact Except.ok.inj ht ▸ h.closeClass
  | operation op => exact Except.ok.inj ht ▸ h.operation op

end State.Positive

end Parser

open PathRouter.Regex.Parser in
/-- The groups of an expression are numbered from one on: zero is the number of the match itself. -/
theorem positive_parse {source : String} {e : Expr} (h : parse source = .ok e) :
    Positive e.groups := by
  obtain ⟨s, hread, -, -, rfl⟩ := parse_eq_ok h
  have hinitial : State.initial.Positive := ⟨⟨nofun, nofun, nofun⟩, nofun⟩
  have hs : s.Positive := consume_keeps (fun _ _ _ hturn hs => hs.turn hturn) hread hinitial
  exact hs.1.expr

end PathRouter.Regex
