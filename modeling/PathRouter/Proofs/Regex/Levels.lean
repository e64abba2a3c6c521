import PathRouter.Proofs.Outcome
import PathRouter.Proofs.Regex.Reading
import PathRouter.Proofs.Regex.Turns

/-!
# What reading does to the open groups

A turn of the reader adds an item to the innermost open group, opens or closes a group, or completes
an alternative; nothing else is touched. So what has been read outside all groups stays where it is,
unless a bar outside all groups makes it one alternative of several.
-/

namespace PathRouter.Regex.Parser

open Text (consume)

/-- The open groups, the innermost one first; the last one is the whole expression. -/
def State.levels (s : State) : List Level := s.level :: s.outer

/-- What one turn can do to the open groups. -/
inductive Move : List Level → List Level → Prop
  | stay (levels : List Level) : Move levels levels
  | push (e : Expr) (l : Level) (outer : List Level) :
    Move (l :: outer) ({ l with items := e :: l.items } :: outer)
  /-- The last item gives way to its repetition. -/
  | again (min : Nat) (max : Option Nat) (lazy : Bool) {e : Expr} {items : List Expr} {l : Level}
    (h : l.items = e :: items) (outer : List Level) :
    Move (l :: outer) ({ l with items := .repetition min max lazy e :: items } :: outer)
  | opening (kind : GroupKind) (blanks : Bool) (l : Level) (outer : List Level) :
    Move (l :: outer) (⟨kind, [], [], blanks⟩ :: l :: outer)
  | closing (inner l : Level) (outer : List Level) :
    Move (inner :: l :: outer)
      ({ l with items := .group inner.kind inner.expr :: l.items } :: outer)
  | branch (l : Level) (outer : List Level) :
    Move (l :: outer)
      ({ l with branches := .ofItems l.items.reverse :: l.branches, items := [] } :: outer)

theorem move_repeatLast {s t : State} {min : Nat} {max : Option Nat} {lazy : Bool}
    (h : s.repeatLast min max lazy = .ok t) : Move s.levels t.levels := by
  unfold State.repeatLast at h
  split at h
  · cases h
  · cases h
  · next e items _ hitems =>
      obtain rfl := Except.ok.inj h
      exact .again min max lazy hitems s.outer

theorem move_closeGroup {s t : State} (h : closeGroup s = .ok t) : Move s.levels t.levels := by
  unfold closeGroup at h
  split at h
  · cases h
  · next level outer houter =>
      obtain rfl := Except.ok.inj h
      rw [State.levels, houter]
      exact .closing s.level level outer

theorem move_pushClass (s : State) (c : ClassExpr) : Move s.levels (s.pushClass c).levels := by
  unfold State.pushClass
  split
  · exact .push (.chars c) s.level s.outer
  · exact .stay s.levels

theorem move_closeClass (s : State) : Move s.levels (closeClass s).levels := by
  unfold closeClass
  split
  · exact .stay s.levels
  · next level outer _ => exact move_pushClass { s with classes := outer } _

theorem levels_operation (s : State) (op : ClassOp) : (s.operation op).levels = s.levels := by
  unfold State.operation
  split <;> rfl

/-- A turn makes one move. -/
theorem Turn.move {s t : State} {turn : Turn} (h : turn.apply s = .ok t) :
    Move s.levels t.levels := by
  cases turn with
  | stay =>
      obtain rfl := Except.ok.inj h
      exact .stay s.levels
  | push p =>
      obtain rfl := Except.ok.inj h
      exact .push p.expr s.level s.outer
  | again min max lazy => exact move_repeatLast h
  | setFlags change =>
      obtain rfl := Except.ok.inj h
      exact .push (.flags change) s.level s.outer
  | openPlain change =>
      obtain rfl := Except.ok.inj h
      exact .opening (.plain change) s.blanks s.level s.outer
  | openCapture name =>
      simp only [Turn.apply] at h
      split at h
      · cases h
      · obtain rfl := Except.ok.inj h
        exact .opening (.capture (s.groups + 1) name) s.blanks s.level s.outer
  | close => exact move_closeGroup h
  | branch =>
      obtain rfl := Except.ok.inj h
      exact .branch s.level s.outer
  | openClass negated items =>
      obtain rfl := Except.ok.inj h
      exact .stay s.levels
  | classItem c =>
      obtain rfl := Except.ok.inj h
      exact move_pushClass s c
  | closeClass =>
      obtain rfl := Except.ok.inj h
      exact move_closeClass s
  | operation op =>
      obtain rfl := Except.ok.inj h
      rw [levels_operation]
      exact .stay s.levels

/-! ## What was read first -/

/-- The whole expression begins with some items, or has been divided into alternatives. Something
has been read behind the items unless a group is open there. -/
def Begins (first : List Expr) (levels : List Level) : Prop :=
  ∀ whole, levels.getLast? = some whole → whole.branches = [] →
    ∃ more, whole.items = more ++ first.reverse ∧ (levels.length = 1 → more ≠ [])

theorem begins_singleton_iff {first : List Expr} {l : Level} :
    Begins first [l] ↔
      (l.branches = [] → ∃ more, l.items = more ++ first.reverse ∧ more ≠ []) := by
  constructor
  · intro h hl
    obtain ⟨more, hitems, hmore⟩ := h l rfl hl
    exact ⟨more, hitems, hmore rfl⟩
  · intro h whole hwhole hbranches
    obtain rfl := Option.some.inj hwhole
    obtain ⟨more, hitems, hmore⟩ := h hbranches
    exact ⟨more, hitems, fun _ => hmore⟩

theorem begins_cons_cons_iff {first : List Expr} {inner l : Level} {outer : List Level} :
    Begins first (inner :: l :: outer) ↔
      ∀ whole, (l :: outer).getLast? = some whole → whole.branches = [] →
        ∃ more, whole.items = more ++ first.reverse := by
  rw [Begins, List.getLast?_cons_cons]
  simp

/-- What was read first is left as it is by all that follows. -/
theorem Begins.move {first : List Expr} {a b : List Level} (hmove : Move a b)
    (h : Begins first a) : Begins first b := by
  cases hmove with
  | stay => exact h
  | push e l outer =>
      cases outer with
      | cons l' outer => rwa [begins_cons_cons_iff] at h ⊢
      | nil =>
          rw [begins_singleton_iff] at h ⊢
          intro hbranches
          obtain ⟨more, hitems, -⟩ := h hbranches
          exact ⟨e :: more, congrArg (e :: ·) hitems, List.cons_ne_nil e more⟩
  | @again min max lazy e items l hlast outer =>
      cases outer with
      | cons l' outer => rwa [begins_cons_cons_iff] at h ⊢
      | nil =>
          rw [begins_singleton_iff] at h ⊢
          intro hbranches
          obtain ⟨more, hitems, hmore⟩ := h hbranches
          -- The item that gives way to its repetition is none of the first ones.
          obtain ⟨e', more, rfl⟩ := List.exists_cons_of_ne_nil hmore
          rw [hlast, List.cons_append] at hitems
          obtain ⟨rfl, rfl⟩ := List.cons.inj hitems
          exact ⟨_ :: more, rfl, List.cons_ne_nil _ more⟩
  | opening kind blanks l outer =>
      rw [begins_cons_cons_iff]
      intro whole hwhole hbranches
      obtain ⟨more, hitems, -⟩ := h whole hwhole hbranches
      exact ⟨more, hitems⟩
  | closing inner l outer =>
      rw [begins_cons_cons_iff] at h
      cases outer with
      | cons l' outer => rwa [begins_cons_cons_iff]
      | nil =>
          rw [begins_singleton_iff]
          intro hbranches
          obtain ⟨more, hitems⟩ := h l rfl hbranches
          exact ⟨_ :: more, congrArg (_ :: ·) hitems, List.cons_ne_nil _ more⟩
  | branch l outer =>
      cases outer with
      | cons l' outer => rwa [begins_cons_cons_iff] at h ⊢
      | nil =>
          rw [begins_singleton_iff]
          nofun

theorem ofBranches_append_singleton {branches : List Expr} (h : branches ≠ []) (e : Expr) :
    Expr.ofBranches (branches ++ [e]) = .alternatives (branches ++ [e]) := by
  match branches with
  | [] => exact absurd rfl h
  | [_] => rfl
  | _ :: _ :: _ => rfl

/-- If nothing divides the expression, it is what was read first with more behind it. -/
theorem Begins.finish {first : List Expr} {s : State} {e : Expr} (h : Begins first s.levels)
    (hfinish : s.finish = .ok e) (hwhole : ∀ branches, e ≠ .alternatives branches) :
    ∃ more, e = .ofItems (first ++ more) := by
  unfold State.finish at hfinish
  split at hfinish
  · next hclosed =>
      have houter : s.outer = [] := List.isEmpty_iff.1 (Bool.and_eq_true_iff.1 hclosed).2
      obtain rfl := Except.ok.inj hfinish
      rw [State.levels, houter, begins_singleton_iff] at h
      cases hbranches : s.level.branches with
      | nil =>
          obtain ⟨more, hitems, -⟩ := h hbranches
          refine ⟨more.reverse, ?_⟩
          rw [Level.expr, hbranches, hitems, List.reverse_append, List.reverse_reverse]
          rfl
      | cons branch branches =>
          have hne : s.level.branches.reverse ≠ [] := by simp [hbranches]
          exact absurd (ofBranches_append_singleton hne _) (hwhole _)
  · cases hfinish

end PathRouter.Regex.Parser

namespace PathRouter.Regex

/-- An expression is not a choice between alternatives as a whole: no bar stands outside all of its
groups. -/
def Undivided (source : String) : Prop := ∀ branches, parse source ≠ .ok (.alternatives branches)

/-- Whether an expression is a choice between alternatives as a whole. -/
def isDivided (source : String) : Bool :=
  match parse source with
  | .ok (.alternatives _) => true
  | _ => false

theorem undivided_iff {source : String} : Undivided source ↔ isDivided source = false := by
  unfold Undivided isDivided
  split
  · next branches h => simp [h]
  · next hother => exact iff_of_true (fun branches h => hother branches h) rfl

instance (source : String) : Decidable (Undivided source) := decidable_of_iff' _ undivided_iff

open PathRouter.Regex.Parser in
/-- An expression that is not divided begins with what is read first, as long as a group is opened
behind that or something else is read. -/
theorem parse_begins {source : String} (hwhole : Undivided source) {first : List Expr} {s : State}
    {rest : List Char} (hs : Begins first s.levels)
    (hread : Text.consume step 0 .initial source.toList = Text.consume step 0 s rest) {e : Expr}
    (h : parse source = .ok e) : ∃ more, e = .ofItems (first ++ more) := by
  have hresult := h
  simp only [parse, hread, bind_eq_ok_iff] at hresult
  obtain ⟨t, hconsume, e', hfinish, hdepth⟩ := hresult
  split at hdepth
  · obtain rfl := pure_eq_ok_iff.1 hdepth
    have ht : Begins first t.levels :=
      consume_keeps (fun _ _ _ hturn => Begins.move (Turn.move hturn)) hconsume hs
    apply ht.finish hfinish
    rintro branches rfl
    exact hwhole branches h
  · cases hdepth

end PathRouter.Regex
