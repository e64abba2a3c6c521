import PathRouter.Proofs.Regex.Levels

/-!
# Expressions in groups

The text of an expression that is put between the parentheses of a group is read there as it is read
by itself, only that its groups get later numbers. What has been read before and is open around the
group makes no difference to that, and neither does what stands behind the group. All this holds of
a text that is an expression by itself: such a text does not close a group that it has not opened.
-/

namespace PathRouter.Regex

open Text (isBlank)

/-! ## Later numbers -/

/-- The kind of a group with its number raised by `n`. -/
def GroupKind.shift (n : Nat) : GroupKind → GroupKind
  | .capture index name => .capture (n + index) name
  | .plain change => .plain change

mutual

/-- The expression with the numbers of its groups raised by `n`. -/
def Expr.shift (n : Nat) : Expr → Expr
  | .repetition min max lazy body => .repetition min max lazy (body.shift n)
  | .group kind body => .group (kind.shift n) (body.shift n)
  | .concat items => .concat (shiftAll n items)
  | .alternatives branches => .alternatives (shiftAll n branches)
  | e => e

/-- The expressions with the numbers of their groups raised by `n`. -/
def Expr.shiftAll (n : Nat) : List Expr → List Expr
  | [] => []
  | e :: es => e.shift n :: shiftAll n es

end

theorem Expr.shiftAll_eq_map (n : Nat) (es : List Expr) : shiftAll n es = es.map (shift n) := by
  induction es with
  | nil => rfl
  | cons e es ih => rw [shiftAll, ih, List.map_cons]

theorem Expr.shift_ofItems (n : Nat) (es : List Expr) :
    (ofItems es).shift n = ofItems (es.map (shift n)) := by
  match es with
  | [] => rfl
  | [_] => rfl
  | e :: f :: es =>
      change Expr.concat (shiftAll n (e :: f :: es)) = _
      rw [shiftAll_eq_map]
      rfl

theorem Expr.shift_ofBranches (n : Nat) (es : List Expr) :
    (ofBranches es).shift n = ofBranches (es.map (shift n)) := by
  match es with
  | [] => rfl
  | [_] => rfl
  | e :: f :: es =>
      change Expr.alternatives (shiftAll n (e :: f :: es)) = _
      rw [shiftAll_eq_map]
      rfl

namespace Parser

theorem Primitive.shift_expr (n : Nat) (p : Primitive) : p.expr.shift n = p.expr := by
  cases p <;> rfl

/-- The level with the numbers of groups raised by `n`. -/
def Level.shift (n : Nat) (l : Level) : Level :=
  ⟨l.kind.shift n, l.branches.map (Expr.shift n), l.items.map (Expr.shift n), l.blanksBehind⟩

theorem Level.expr_shift (n : Nat) (l : Level) : (l.shift n).expr = l.expr.shift n := by
  rw [expr, expr, Expr.shift_ofBranches, List.map_append, List.map_reverse, List.map_singleton,
    Expr.shift_ofItems, List.map_reverse]
  rfl

/-! ## Levels on other levels -/

/-- The levels of a text read by itself, and those of the text read in a group: the level of the
whole expression has become the level of the group, with other levels around it. -/
inductive Stacked (n : Nat) (kind : GroupKind) (outer : List Level) :
    List Level → List Level → Prop
  | whole (l : Level) : l.blanksBehind = false →
    Stacked n kind outer [l] ({ l.shift n with kind := kind } :: outer)
  | above (l : Level) {ls ls' : List Level} : Stacked n kind outer ls ls' →
    Stacked n kind outer (l :: ls) (l.shift n :: ls')

/-- Corresponding changes of the innermost level. -/
theorem Stacked.head {n : Nat} {kind : GroupKind} {outer ls ls' : List Level} {l : Level}
    (h : Stacked n kind outer (l :: ls) ls') : ∃ kind' rest,
      ls' = { l.shift n with kind := kind' } :: rest ∧ ∀ branches items : List Expr,
        Stacked n kind outer ({ l with branches := branches, items := items } :: ls)
          (⟨kind', branches.map (Expr.shift n), items.map (Expr.shift n), l.blanksBehind⟩ ::
            rest) := by
  cases h with
  | whole _ hblanks =>
      refine ⟨kind, outer, rfl, fun branches items => ?_⟩
      exact .whole { l with branches := branches, items := items } hblanks
  | @above _ _ ls' h =>
      refine ⟨l.kind.shift n, ls', rfl, fun branches items => ?_⟩
      exact .above { l with branches := branches, items := items } h

/-- Where a group is open in the text, the level of this group is the same up to numbers. -/
theorem Stacked.tail {n : Nat} {kind : GroupKind} {outer ls ls' : List Level} {inner l : Level}
    (h : Stacked n kind outer (inner :: l :: ls) ls') :
    ∃ rest, ls' = inner.shift n :: rest ∧ Stacked n kind outer (l :: ls) rest := by
  cases h with
  | above _ h => exact ⟨_, rfl, h⟩

theorem Stacked.of_single {n : Nat} {kind : GroupKind} {outer ls' : List Level} {l : Level}
    (h : Stacked n kind outer [l] ls') :
    ls' = { l.shift n with kind := kind } :: outer ∧ l.blanksBehind = false := by
  cases h with
  | whole _ hblanks => exact ⟨rfl, hblanks⟩
  | above _ h => cases h

/-- The state `s` in reading a text by itself, and the state `t` at the same place of the text when
it is read in a group, before which `n` groups and some names have been read. -/
structure Mirrors (n : Nat) (names : List String) (kind : GroupKind) (outer : List Level)
    (s t : State) : Prop where
  levels : Stacked n kind outer s.levels t.levels
  mode : SameMode s t
  groups : t.groups = n + s.groups
  names : t.names = s.names ++ names

namespace Mirrors
variable {n : Nat} {names : List String} {kind : GroupKind} {outer : List Level}
  {s t s' t' : State} (h : Mirrors n names kind outer s t)
include h

theorem level_eq : t.level = { s.level.shift n with kind := t.level.kind } := by
  obtain ⟨kind', rest, heq, -⟩ := h.levels.head
  have hlevel : t.level = { s.level.shift n with kind := kind' } := (List.cons.inj heq).1
  rw [hlevel]

theorem items_eq : t.level.items = s.level.items.map (Expr.shift n) := by
  rw [h.level_eq]
  rfl

theorem branches_eq : t.level.branches = s.level.branches.map (Expr.shift n) := by
  rw [h.level_eq]
  rfl

/-- The innermost group gets other alternatives and items. -/
theorem setLevel (branches items : List Expr) :
    Mirrors n names kind outer
      { s with level := { s.level with branches := branches, items := items } }
      { t with level := { t.level with
          branches := branches.map (Expr.shift n), items := items.map (Expr.shift n) } } where
  levels := by
    obtain ⟨kind', rest, heq, hhead⟩ := h.levels.head
    obtain ⟨hlevel, hrest⟩ := List.cons.inj heq
    change Stacked n kind outer ({ s.level with branches := branches, items := items } :: s.outer)
      ({ t.level with
        branches := branches.map (Expr.shift n), items := items.map (Expr.shift n) } :: t.outer)
    rw [hlevel, hrest]
    exact hhead branches items
  mode := ⟨h.mode.blanks, h.mode.classes⟩
  groups := h.groups
  names := h.names

theorem setItems (items : List Expr) :
    Mirrors n names kind outer { s with level := { s.level with items := items } }
      { t with level := { t.level with items := items.map (Expr.shift n) } } := by
  have hlevel := h.setLevel s.level.branches items
  rwa [← h.branches_eq] at hlevel

theorem push (e : Expr) : Mirrors n names kind outer (s.push e) (t.push (e.shift n)) := by
  have hitems := h.setItems (e :: s.level.items)
  rwa [List.map_cons, ← h.items_eq] at hitems

theorem push_self {e : Expr} (he : e.shift n = e) :
    Mirrors n names kind outer (s.push e) (t.push e) := by
  have hpush := h.push e
  rwa [he] at hpush

theorem withBlanks (blanks : Bool) :
    Mirrors n names kind outer { s with blanks := blanks } { t with blanks := blanks } where
  levels := h.levels
  mode := ⟨rfl, h.mode.classes⟩
  groups := h.groups
  names := h.names

theorem setBlanks (change : FlagChange) :
    Mirrors n names kind outer (s.setBlanks change) (t.setBlanks change) := by
  rw [State.setBlanks, State.setBlanks, h.mode.blanks]
  exact h.withBlanks _

theorem setClasses (classes : List ClassLevel) :
    Mirrors n names kind outer { s with classes := classes } { t with classes := classes } where
  levels := h.levels
  mode := ⟨h.mode.blanks, rfl⟩
  groups := h.groups
  names := h.names

theorem enter (inner : GroupKind) :
    Mirrors n names kind outer (s.enter inner) (t.enter (inner.shift n)) where
  levels := by
    have hinner : (⟨inner.shift n, [], [], t.blanks⟩ : Level) =
        (⟨inner, [], [], s.blanks⟩ : Level).shift n := by
      rw [h.mode.blanks]
      rfl
    change Stacked n kind outer (⟨inner, [], [], s.blanks⟩ :: s.levels)
      (⟨inner.shift n, [], [], t.blanks⟩ :: t.levels)
    rw [hinner]
    exact .above _ h.levels
  mode := ⟨h.mode.blanks, h.mode.classes⟩
  groups := h.groups
  names := h.names

theorem again {min : Nat} {max : Option Nat} {lazy : Bool}
    (hs : s.repeatLast min max lazy = .ok s') (ht : t.repeatLast min max lazy = .ok t') :
    Mirrors n names kind outer s' t' := by
  unfold State.repeatLast at hs
  split at hs
  · cases hs
  · cases hs
  · next e items hflags hitems =>
      obtain rfl := Except.ok.inj hs
      have hitems' : t.level.items = e.shift n :: items.map (Expr.shift n) := by
        rw [h.items_eq, hitems, List.map_cons]
      have hresult : t.repeatLast min max lazy = .ok { t with level := { t.level with
          items := .repetition min max lazy (e.shift n) :: items.map (Expr.shift n) } } := by
        unfold State.repeatLast
        rw [hitems']
        cases e with
        | flags change => exact absurd rfl (hflags change)
        | _ => rfl
      rw [hresult] at ht
      obtain rfl := Except.ok.inj ht
      exact h.setItems (.repetition min max lazy e :: items)

theorem close (hs : closeGroup s = .ok s') (ht : closeGroup t = .ok t') :
    Mirrors n names kind outer s' t' := by
  unfold closeGroup at hs
  split at hs
  · cases hs
  · next l ls houter =>
      obtain rfl := Except.ok.inj hs
      have hlevels := h.levels
      rw [State.levels, houter] at hlevels
      obtain ⟨rest, heq, hrest⟩ := hlevels.tail
      obtain ⟨hlevel, hrest'⟩ := List.cons.inj heq
      obtain ⟨kind', rest', rfl, -⟩ := hrest.head
      unfold closeGroup at ht
      rw [hrest'] at ht
      obtain rfl := Except.ok.inj ht
      have hopened : Mirrors n names kind outer
          { s with level := l, outer := ls, blanks := s.level.blanksBehind }
          { t with level := { l.shift n with kind := kind' }, outer := rest',
                   blanks := t.level.blanksBehind } :=
        ⟨hrest, ⟨by rw [hlevel]; rfl, h.mode.classes⟩, h.groups, h.names⟩
      have hgroup : Expr.group t.level.kind t.level.expr =
          (Expr.group s.level.kind s.level.expr).shift n := by
        rw [hlevel, Level.expr_shift]
        rfl
      rw [hgroup]
      exact hopened.push _

theorem pushClass (c : ClassExpr) :
    Mirrors n names kind outer (s.pushClass c) (t.pushClass c) := by
  unfold State.pushClass
  rw [h.mode.classes]
  split
  · exact h.push_self rfl
  · exact h.setClasses _

theorem closeClass : Mirrors n names kind outer (Parser.closeClass s) (Parser.closeClass t) := by
  unfold Parser.closeClass
  rw [h.mode.classes]
  split
  · exact h
  · exact (h.setClasses _).pushClass _

theorem operation (op : ClassOp) :
    Mirrors n names kind outer (s.operation op) (t.operation op) := by
  unfold State.operation
  rw [h.mode.classes]
  split
  · exact h
  · exact h.setClasses _

theorem openCapture {name : Option String} (hs : (Turn.openCapture name).apply s = .ok s')
    (ht : (Turn.openCapture name).apply t = .ok t') : Mirrors n names kind outer s' t' := by
  simp only [Turn.apply] at hs ht
  split at hs
  · cases hs
  · split at ht
    · cases ht
    · obtain rfl := Except.ok.inj hs
      obtain rfl := Except.ok.inj ht
      have hindex : t.groups + 1 = n + (s.groups + 1) := by rw [h.groups, Nat.add_assoc]
      have hentered := h.enter (.capture (s.groups + 1) name)
      rw [hindex]
      exact ⟨hentered.levels, ⟨hentered.mode.blanks, hentered.mode.classes⟩, rfl,
        by rw [h.names, List.append_assoc]⟩

theorem nextBranch : Mirrors n names kind outer s.nextBranch t.nextBranch := by
  have hlevel := h.setLevel (.ofItems s.level.items.reverse :: s.level.branches) []
  rwa [List.map_cons, ← h.branches_eq, Expr.shift_ofItems, List.map_reverse, ← h.items_eq]
    at hlevel

/-- After the same turn the states still correspond. -/
theorem turn {turn : Turn} (hs : turn.apply s = .ok s') (ht : turn.apply t = .ok t') :
    Mirrors n names kind outer s' t' := by
  cases turn with
  | stay =>
      obtain rfl := Except.ok.inj hs
      obtain rfl := Except.ok.inj ht
      exact h
  | push p =>
      obtain rfl := Except.ok.inj hs
      obtain rfl := Except.ok.inj ht
      exact h.push_self (p.shift_expr n)
  | again min max lazy => exact h.again hs ht
  | setFlags change =>
      obtain rfl := Except.ok.inj hs
      obtain rfl := Except.ok.inj ht
      have hflags : Mirrors n names kind outer (s.push (.flags change)) (t.push (.flags change)) :=
        h.push_self rfl
      exact hflags.setBlanks change
  | openPlain change =>
      obtain rfl := Except.ok.inj hs
      obtain rfl := Except.ok.inj ht
      exact (h.enter (.plain change)).setBlanks change
  | openCapture name => exact h.openCapture hs ht
  | close => exact h.close hs ht
  | branch =>
      obtain rfl := Except.ok.inj hs
      obtain rfl := Except.ok.inj ht
      exact h.nextBranch
  | openClass negated items =>
      obtain rfl := Except.ok.inj hs
      obtain rfl := Except.ok.inj ht
      rw [h.mode.classes]
      exact h.setClasses _
  | classItem c =>
      obtain rfl := Except.ok.inj hs
      obtain rfl := Except.ok.inj ht
      exact h.pushClass c
  | closeClass =>
      obtain rfl := Except.ok.inj hs
      obtain rfl := Except.ok.inj ht
      exact h.closeClass
  | operation op =>
      obtain rfl := Except.ok.inj hs
      obtain rfl := Except.ok.inj ht
      exact h.operation op

end Mirrors

/-! ## Reading in a group -/

/-- A closing parenthesis outside classes, whether or not blanks are passed over. -/
theorem step_close {s : State} (h : s.classes = []) (rest : List Char) :
    step s ')' rest = (closeGroup s).map (·, 0) := by
  have hblank : isBlank ')' = false := by decide
  have hsign : (')' == '#') = false := by decide
  simp only [step, hblank, hsign, h, Bool.and_false, Bool.false_eq_true, if_false,
    List.isEmpty_nil, if_true, itemStep]

/-- When the text has been read to its end, the group around it is innermost, and closing it gives
the expression of the text with later numbers. -/
theorem Mirrors.closeGroup_eq {n : Nat} {names : List String} {kind : GroupKind} {level : Level}
    {outer : List Level} {s t : State} (h : Mirrors n names kind (level :: outer) s t)
    (hclasses : s.classes = []) (houter : s.outer = []) :
    t.outer = level :: outer ∧ closeGroup t =
      .ok (outside (level.add [.group kind (s.level.expr.shift n)]) outer (n + s.groups)
        (s.names ++ names)) := by
  have hstacked := h.levels
  rw [State.levels, houter] at hstacked
  obtain ⟨heq, hblanks⟩ := hstacked.of_single
  obtain ⟨hlevel, hrest⟩ := List.cons.inj heq
  have hmode := h.mode.classes
  have hgroups := h.groups
  have hnames := h.names
  obtain ⟨l, ls, classes, blanks, groups, names'⟩ := t
  rw [hclasses] at hmode
  dsimp only at hlevel hrest hmode hgroups hnames
  subst hlevel hrest hmode hgroups hnames
  have hexpr : Level.expr ⟨kind, (s.level.shift n).branches, (s.level.shift n).items, false⟩ =
      s.level.expr.shift n := s.level.expr_shift n
  have hbehind : (s.level.shift n).blanksBehind = false := hblanks
  refine ⟨rfl, ?_⟩
  simp only [closeGroup, hbehind]
  rw [hexpr]
  rfl

theorem consume_all (s : State) (cs : List Char) :
    Text.consume step cs.length s cs = .ok s := by
  simpa using Text.consume_append step s cs []

/-- In the same mode the same turn is made, and the rest of the text is read behind it. -/
theorem Takes.exists_consume {c : Char} {s s' t v : State} {cs more : List Char} {used : Nat}
    {turn : Turn} {lost : Bool}
    (h : Takes (fun s cs => step s c cs) s cs s' used turn lost) (ht : SameMode s t)
    (hmore : Quiet lost more) (hread : Text.consume step 0 t (c :: cs ++ ')' :: more) = .ok v) :
    ∃ t', turn.apply t = .ok t' ∧
      Text.consume step (if lost then (cs ++ ')' :: more).length else used) t'
        (cs ++ ')' :: more) = .ok v := by
  rw [List.cons_append, Text.consume, h.elsewhere t more ht hmore] at hread
  cases happly : turn.apply t with
  | error e =>
      rw [happly] at hread
      cases hread
  | ok t' =>
      rw [happly] at hread
      exact ⟨t', rfl, hread⟩

/-- A text that is read by itself is read in the same way in a group that is closed behind it,
unless the text ends in a comment. -/
theorem consume_mirrors {s u : State} {cs : List Char} {skip : Nat} (hskip : skip ≤ cs.length)
    (h : Text.consume step skip s cs = .ok u) : ∃ lost, ∀ (n : Nat) (names : List String)
      (kind : GroupKind) (outer : List Level) (t v : State) (more : List Char),
      Mirrors n names kind outer s t → Quiet lost more →
      Text.consume step skip t (cs ++ ')' :: more) = .ok v →
      ∃ t', Mirrors n names kind outer u t' ∧
        Text.consume step 0 t' (grow lost more []) = .ok v := by
  induction cs generalizing skip s with
  | nil =>
      obtain rfl : skip = 0 := Nat.le_zero.1 hskip
      obtain rfl := Except.ok.inj h
      exact ⟨false, fun n names kind outer t v more ht _ hread => ⟨t, ht, hread⟩⟩
  | cons c cs ih =>
      cases skip with
      | succ skip => exact ih (Nat.le_of_succ_le_succ hskip) h
      | zero =>
          rw [Text.consume] at h
          split at h
          · next s' used hstep =>
              obtain ⟨turn, lost, htakes⟩ := uniform_step c hstep
              obtain ⟨lost', hlater⟩ := ih htakes.used_le h
              cases lost with
              | false =>
                  refine ⟨lost', fun n names kind outer t v more ht hmore hread => ?_⟩
                  obtain ⟨t', happly, hrest⟩ := htakes.exists_consume ht.mode quiet_false hread
                  exact hlater n names kind outer t' v more (ht.turn htakes.apply happly) hmore
                    hrest
              | true =>
                  -- Nothing is left of the text, nor of what stands behind it.
                  refine ⟨true, fun n names kind outer t v more ht hmore hread => ?_⟩
                  obtain ⟨t', happly, hrest⟩ := htakes.exists_consume ht.mode hmore hread
                  rw [if_pos rfl, consume_all] at hrest
                  obtain rfl := Except.ok.inj hrest
                  rw [htakes.atEnd rfl, consume_all] at h
                  obtain rfl := Except.ok.inj h
                  exact ⟨t', ht.turn htakes.apply happly, rfl⟩
          · cases h

end Parser

/-! ## Texts that are expressions by themselves -/

/-- The text is an expression by itself, and it is one in a group: it does not end in a comment that
would hide the parenthesis behind it. -/
def Standalone (text : List Char) : Prop :=
  (∃ e, parse (String.ofList text) = .ok e) ∧
    ∃ e, parse (String.ofList ("(?:".toList ++ text ++ [')'])) = .ok e

/-- Whether a text is an expression by itself and in a group. -/
def isStandalone (text : List Char) : Bool :=
  (parse (String.ofList text)).isOk &&
    (parse (String.ofList ("(?:".toList ++ text ++ [')']))).isOk

instance (text : List Char) : Decidable (Standalone text) :=
  decidable_of_iff (isStandalone text = true) (by
    rw [isStandalone, Bool.and_eq_true, isOk_iff, isOk_iff]
    rfl)

open PathRouter.Regex.Parser in
theorem parse_eq_ok {source : String} {e : Expr} (h : parse source = .ok e) :
    ∃ s, Text.consume step 0 .initial source.toList = .ok s ∧ s.classes = [] ∧ s.outer = [] ∧
      e = s.level.expr := by
  simp only [parse, bind_eq_ok_iff] at h
  obtain ⟨s, hconsume, e', hfinish, hdepth⟩ := h
  unfold State.finish at hfinish
  split at hfinish
  · next hclosed =>
      rw [Bool.and_eq_true, List.isEmpty_iff, List.isEmpty_iff] at hclosed
      obtain rfl := Except.ok.inj hfinish
      refine ⟨s, hconsume, hclosed.1, hclosed.2, ?_⟩
      split at hdepth
      · exact (pure_eq_ok_iff.1 hdepth).symm
      · cases hdepth
  · cases hfinish

section Reading
open PathRouter.Regex.Parser

theorem mirrors_initial (n : Nat) (names : List String) (kind : GroupKind) (outer : List Level) :
    Mirrors n names kind outer .initial (outside (.opened kind) outer n names) where
  levels := .whole ⟨.plain [], [], [], false⟩ rfl
  mode := ⟨rfl, rfl⟩
  groups := rfl
  names := rfl

/-- What is read in a group whose text is an expression by itself. If the text ends in a comment,
the parenthesis behind it is lost, and the group is never closed. -/
theorem consume_enclosed {text : List Char} {e : Expr} (h : parse (String.ofList text) = .ok e) :
    ∃ (lost : Bool) (groups : Nat) (added : List String),
      ∀ (n : Nat) (names : List String) (kind : GroupKind) (level : Level) (outer : List Level)
        (more : List Char) (v : State), Quiet lost more →
        Text.consume step 0 (outside (.opened kind) (level :: outer) n names)
          (text ++ ')' :: more) = .ok v →
        (lost = true → v.outer = level :: outer) ∧ (lost = false →
          Text.consume step 0 (outside (level.add [.group kind (e.shift n)]) outer (n + groups)
            (added ++ names)) more = .ok v) := by
  obtain ⟨u, hread, hclasses, houter, rfl⟩ := parse_eq_ok h
  rw [String.toList_ofList] at hread
  obtain ⟨lost, hmirrors⟩ := consume_mirrors (Nat.zero_le _) hread
  refine ⟨lost, u.groups, u.names, ?_⟩
  intro n names kind level outer more v hmore hgroup
  obtain ⟨t, ht, hend⟩ := hmirrors n names kind (level :: outer) _ v more
    (mirrors_initial _ _ _ _) hmore hgroup
  obtain ⟨hlevels, hclose⟩ := ht.closeGroup_eq hclasses houter
  cases lost with
  | true =>
      obtain rfl := Except.ok.inj hend
      exact ⟨fun _ => hlevels, nofun⟩
  | false =>
      refine ⟨nofun, fun _ => ?_⟩
      have hstep := step_close (ht.mode.classes.trans hclasses) more
      rw [hclose] at hstep
      rw [grow_false, List.nil_append, Text.consume, hstep] at hend
      exact hend

/-- What is read in a group whose text is an expression by itself and in a group. -/
theorem consume_standalone {text : List Char} (h : Standalone text) :
    ∃ (e : Expr) (groups : Nat) (added : List String), parse (String.ofList text) = .ok e ∧
      ∀ (n : Nat) (names : List String) (kind : GroupKind) (level : Level) (outer : List Level)
        (more : List Char) (v : State),
        Text.consume step 0 (outside (.opened kind) (level :: outer) n names)
          (text ++ ')' :: more) = .ok v →
        Text.consume step 0 (outside (level.add [.group kind (e.shift n)]) outer (n + groups)
          (added ++ names)) more = .ok v := by
  obtain ⟨⟨e, hparse⟩, e', hgroup⟩ := h
  obtain ⟨lost, groups, added, henclosed⟩ := consume_enclosed hparse
  have hclosed : lost ≠ true := by
    rintro rfl
    obtain ⟨v, hv, -, houter, -⟩ := parse_eq_ok hgroup
    have hopen : Text.consume step 0 (outside (.opened (.plain [])) [.opened (.plain [])] 0 [])
        (text ++ [')']) = .ok v := by
      rw [String.toList_ofList, List.append_assoc] at hv
      rw [← consume_openPlain]
      exact hv
    have hlevels := (henclosed 0 [] (.plain []) (.opened (.plain [])) [] [] v
      (fun _ => List.not_mem_nil) hopen).1 rfl
    rw [houter] at hlevels
    cases hlevels
  obtain rfl := (Bool.not_eq_true lost).mp hclosed
  refine ⟨e, groups, added, hparse, ?_⟩
  intro n names kind level outer more v hread
  exact (henclosed n names kind level outer more v quiet_false hread).2 rfl

end Reading

end PathRouter.Regex
