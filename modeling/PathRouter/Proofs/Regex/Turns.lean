import PathRouter.Proofs.Regex.Lookahead

/-!
# Turns

What one turn of the reader does is decided by the text in front of it, by whether blanks are passed
over and by whether a class is open. The groups that are open around it, what stands in them and how
many groups there have been make no difference, and neither does what stands behind a closing
parenthesis. So a turn is a thing of its own, and the same turn is taken wherever the same text
stands in the same mode.
-/

namespace PathRouter.Regex.Parser

open Text (isBlank usedUp)

/-- What one turn does. -/
inductive Turn where
  /-- Blanks or a comment are passed over. -/
  | stay
  | push (p : Primitive)
  /-- The last item gives way to its repetition. -/
  | again (min : Nat) (max : Option Nat) (lazy : Bool)
  | setFlags (change : FlagChange)
  | openPlain (change : FlagChange)
  | openCapture (name : Option String)
  | close
  | branch
  | openClass (negated : Bool) (items : List ClassExpr)
  | classItem (c : ClassExpr)
  | closeClass
  | operation (op : ClassOp)

/-- Opens a group. -/
def State.enter (s : State) (kind : GroupKind) : State :=
  { s with level := ⟨kind, [], [], s.blanks⟩, outer := s.level :: s.outer }

/-- Turns the passing over of blanks on or off, if the flags say so. -/
def State.setBlanks (s : State) (change : FlagChange) : State :=
  { s with blanks := (FlagChange.find? change .blanks).getD s.blanks }

/-- The state after a turn. A name of a group must be new. -/
def Turn.apply (s : State) : Turn → Except Error State
  | .stay => .ok s
  | .push p => .ok (s.push p.expr)
  | .again min max lazy => s.repeatLast min max lazy
  | .setFlags change => .ok ((s.push (.flags change)).setBlanks change)
  | .openPlain change => .ok ((s.enter (.plain change)).setBlanks change)
  | .openCapture name =>
    if name.any s.names.contains then .error .malformed
    else .ok { s.enter (.capture (s.groups + 1) name) with
      groups := s.groups + 1
      names := name.toList ++ s.names }
  | .close => closeGroup s
  | .branch => .ok s.nextBranch
  | .openClass negated items => .ok { s with classes := ⟨negated, none, items⟩ :: s.classes }
  | .classItem c => .ok (s.pushClass c)
  | .closeClass => .ok (Parser.closeClass s)
  | .operation op => .ok (s.operation op)

/-- The two states agree in what decides how a text is read. -/
structure SameMode (s t : State) : Prop where
  blanks : t.blanks = s.blanks
  classes : t.classes = s.classes

/-- A way of reading takes a turn in a state and uses up characters of the text in front of it. In
the same mode it takes the same turn if a closing parenthesis and more text stand behind the
text. -/
structure Takes (read : State → List Char → Except Error (State × Nat)) (s : State)
    (cs : List Char) (s' : State) (used : Nat) (turn : Turn) (lost : Bool) : Prop where
  apply : turn.apply s = .ok s'
  used_le : used ≤ cs.length
  atEnd : lost = true → used = cs.length
  elsewhere : ∀ (t : State) (more : List Char), SameMode s t → Quiet lost more →
    read t (cs ++ ')' :: more) =
      (turn.apply t).map (·, if lost then (cs ++ ')' :: more).length else used)

/-- Whenever a way of reading succeeds, it takes a turn. -/
def Uniform (read : State → List Char → Except Error (State × Nat)) : Prop :=
  ∀ {s : State} {cs : List Char} {s' : State} {used : Nat}, read s cs = .ok (s', used) →
    ∃ turn lost, Takes read s cs s' used turn lost

theorem usedUp_le (cs after : List Char) : usedUp cs after ≤ cs.length := Nat.sub_le _ _

theorem usedUp_grow {cs after : List Char} {lost : Bool} (h : Passes false cs lost after)
    (more : List Char) : usedUp (cs ++ ')' :: more) (grow lost more after) =
      if lost then (cs ++ ')' :: more).length else usedUp cs after := by
  cases lost with
  | true => rfl
  | false =>
      simp only [usedUp, grow_false, List.length_append, Bool.false_eq_true, if_false]
      omega

theorem usedUp_nil {cs after : List Char} (h : after = []) : usedUp cs after = cs.length := by
  rw [h]
  rfl

section
variable {read : State → List Char → Except Error (State × Nat)} {s s' : State}
  {cs after : List Char} {turn : Turn} {lost : Bool}

/-- A turn that is decided by what has been read when `after` is left. -/
theorem Takes.of_passes (hpass : Passes false cs lost after) (happly : turn.apply s = .ok s')
    (h : ∀ t more, SameMode s t → Quiet lost more → read t (cs ++ ')' :: more) =
      (turn.apply t).map (·, usedUp (cs ++ ')' :: more) (grow lost more after))) :
    Takes read s cs s' (usedUp cs after) turn lost where
  apply := happly
  used_le := usedUp_le cs after
  atEnd := fun hlost => usedUp_nil (hpass.atEnd hlost)
  elsewhere := fun t more ht hmore => by rw [h t more ht hmore, usedUp_grow hpass]

/-- A turn that uses up no further character. -/
theorem Takes.of_none (happly : turn.apply s = .ok s')
    (h : ∀ t more, SameMode s t → read t (cs ++ ')' :: more) = (turn.apply t).map (·, 0)) :
    Takes read s cs s' 0 turn false where
  apply := happly
  used_le := Nat.zero_le _
  atEnd := nofun
  elsewhere := fun t more ht _ => h t more ht

/-- A way of reading takes the turn of another one that reads the same. -/
theorem Takes.congr {other : State → List Char → Except Error (State × Nat)} {used : Nat}
    (h : Takes other s cs s' used turn lost)
    (heq : ∀ t more, SameMode s t → read t (cs ++ ')' :: more) = other t (cs ++ ')' :: more)) :
    Takes read s cs s' used turn lost where
  apply := h.apply
  used_le := h.used_le
  atEnd := h.atEnd
  elsewhere := fun t more ht hmore => (heq t more ht).trans (h.elsewhere t more ht hmore)

end

/-! ## Blanks before something -/

section
variable {blanks : Bool} {cs after : List Char} {c : Char}

/-- A number that ends before a character is read whatever follows the text. -/
theorem readDecimal_grow {n : Option Nat}
    (h : readDecimal blanks (skipBlanks blanks cs) = (n, c :: after)) :
    Passes false cs false after ∧ ∀ more,
      skipBlanks blanks (cs ++ ')' :: more) = skipBlanks blanks cs ++ ')' :: more ∧
      readDecimal blanks (skipBlanks blanks (cs ++ ')' :: more)) =
        (n, c :: (after ++ ')' :: more)) := by
  obtain ⟨lost₁, hskip, hgrow₁⟩ := passesOver_skipBlanks blanks false cs nofun
  obtain ⟨lost₂, hread, hgrow₂⟩ := passes_readDecimal blanks lost₁ _ hskip.atEnd
  rw [h] at hread hgrow₂
  obtain rfl := hread.not_lost
  refine ⟨(hskip.trans hread).tail, fun more => ?_⟩
  have hbehind : skipBlanks blanks (cs ++ ')' :: more) = grow lost₁ more (skipBlanks blanks cs) :=
    hgrow₁ more (quiet_false.mono hread.stays)
  have hlost : lost₁ = false := Bool.eq_false_iff.2 fun h => Bool.false_ne_true (hread.stays h)
  rw [hbehind]
  refine ⟨?_, hgrow₂ more quiet_false⟩
  rw [hlost, grow_false]

end

/-! ## Repetitions -/

theorem readRepetition_eq (s : State) (min : Nat) (max : Option Nat) (rest : List Char) :
    readRepetition s min max rest =
      (s.repeatLast min max (laziness rest).1).map (·, (laziness rest).2) := by
  simp only [readRepetition]
  cases s.repeatLast min max (laziness rest).1 <;> rfl

theorem laziness_used_le (cs : List Char) : (laziness cs).2 ≤ cs.length := by
  unfold laziness
  split
  · exact Nat.succ_le_succ (Nat.zero_le _)
  · exact Nat.zero_le _

theorem uniform_readRepetition (min : Nat) (max : Option Nat) :
    Uniform fun s cs => readRepetition s min max cs := by
  intro s cs s' used h
  dsimp only at h
  rw [readRepetition_eq, map_prodMk_eq_ok_iff] at h
  obtain ⟨hlast, rfl⟩ := h
  refine ⟨.again min max (laziness cs).1, false, hlast, laziness_used_le cs, nofun, ?_⟩
  intro t more _ _
  have hlazy := laziness_grow false more cs nofun
  rw [grow_false] at hlazy
  rw [readRepetition_eq, hlazy]
  rfl

/-- The bounds of a repetition written in braces, and what is left behind the closing brace. -/
inductive ReadsBounds (blanks : Bool) (cs : List Char) : Nat → Option Nat → List Char → Prop where
  | exactly {n : Nat} {after : List Char}
      (hlow : readDecimal blanks (skipBlanks blanks cs) = (some n, '}' :: after)) :
      ReadsBounds blanks cs n (some n) after
  | atLeast {n : Nat} {after behind : List Char}
      (hlow : readDecimal blanks (skipBlanks blanks cs) = (some n, ',' :: after))
      (hend : skipBlanks blanks after = '}' :: behind) : ReadsBounds blanks cs n none behind
  | between {n m : Nat} {after behind : List Char}
      (hlow : readDecimal blanks (skipBlanks blanks cs) = (some n, ',' :: after))
      (hother : ∀ rest, skipBlanks blanks after ≠ '}' :: rest)
      (hhigh : readDecimal blanks (skipBlanks blanks after) = (some m, '}' :: behind))
      (hle : n ≤ m) : ReadsBounds blanks cs n (some m) behind

section
variable {s s' : State} {blanks : Bool} {cs after : List Char} {min used : Nat} {max : Option Nat}

theorem ReadsBounds.readCount_eq (h : ReadsBounds s.blanks cs min max after) :
    readCount s cs =
      (s.repeatLast min max (laziness (skipBlanks s.blanks after)).1).map
        (·, usedUp cs (skipBlanks s.blanks after) + (laziness (skipBlanks s.blanks after)).2) := by
  cases h with
  | exactly hlow =>
      simp only [readCount, hlow]
      rfl
  | atLeast hlow hend =>
      simp only [readCount, hlow, hend]
      rfl
  | between hlow hother hhigh hle =>
      simp only [readCount, hlow, hhigh, if_pos hle]
      rfl

theorem exists_bounds_of_readCount (h : readCount s cs = .ok (s', used)) :
    ∃ min max after, ReadsBounds s.blanks cs min max after := by
  simp only [readCount] at h
  split at h
  · next n after hn hafter => exact ⟨_, _, _, .exactly (Prod.ext hn hafter)⟩
  · next n after hn hafter =>
      have hlow : readDecimal s.blanks (skipBlanks s.blanks cs) = (some n, ',' :: after) :=
        Prod.ext hn hafter
      split at h
      · next behind hend => exact ⟨_, _, _, .atLeast hlow hend⟩
      · next hother =>
          split at h
          · next m behind hhigh =>
              split at h
              · next hle => exact ⟨_, _, _, .between hlow hother hhigh hle⟩
              · cases h
          · cases h
  · cases h

/-- Bounds are read in the same way whatever follows the text. -/
theorem ReadsBounds.grow (h : ReadsBounds blanks cs min max after) :
    Passes false cs false after ∧
      ∀ more, ReadsBounds blanks (cs ++ ')' :: more) min max (after ++ ')' :: more) := by
  cases h with
  | exactly hlow =>
      obtain ⟨hpass, hread⟩ := readDecimal_grow hlow
      exact ⟨hpass, fun more => .exactly (hread more).2⟩
  | atLeast hlow hend =>
      obtain ⟨hpass, hread⟩ := readDecimal_grow hlow
      obtain ⟨hbehind, hskip⟩ := skipBlanks_grow false nofun hend
      exact ⟨hpass.trans hbehind.tail, fun more => .atLeast (hread more).2 (hskip more)⟩
  | between hlow hother hhigh hle =>
      obtain ⟨hpass, hread⟩ := readDecimal_grow hlow
      obtain ⟨hbehind, hread'⟩ := readDecimal_grow hhigh
      refine ⟨hpass.trans hbehind, fun more => .between (hread more).2 ?_ (hread' more).2 hle⟩
      -- No closing brace stands where there was none, so the bounds are still two.
      have hbrace : ('}' : Char) ≠ ')' := by decide
      rw [(hread' more).1]
      exact grow_ne_cons hbrace hother false more

theorem usedUp_add_laziness {lost : Bool} (h : Passes false cs lost after) (more : List Char) :
    usedUp (cs ++ ')' :: more) (grow lost more after) + (laziness after).2 =
      if lost then (cs ++ ')' :: more).length else usedUp cs after + (laziness after).2 := by
  rw [usedUp_grow h]
  cases lost with
  | true =>
      rw [h.atEnd rfl]
      rfl
  | false => rfl

end

theorem uniform_readCount : Uniform readCount := by
  intro s cs s' used h
  obtain ⟨min, max, after, hbounds⟩ := exists_bounds_of_readCount h
  obtain ⟨hpass, hbounds'⟩ := hbounds.grow
  obtain ⟨lost, hskip, hgrow⟩ := passesOver_skipBlanks s.blanks false after nofun
  rw [hbounds.readCount_eq, map_prodMk_eq_ok_iff] at h
  obtain ⟨hlast, rfl⟩ := h
  have hbehind := hpass.trans hskip
  refine ⟨.again min max _, lost, hlast, ?_, ?_, ?_⟩
  · have hlazy := laziness_used_le (skipBlanks s.blanks after)
    have hlength := hbehind.length_le
    rw [usedUp]
    omega
  · intro hlost
    rw [hbehind.atEnd hlost]
    rfl
  · intro t more ht hmore
    have hread : ReadsBounds t.blanks (cs ++ ')' :: more) min max (after ++ ')' :: more) := by
      rw [ht.blanks]
      exact hbounds' more
    have hgrown : skipBlanks s.blanks (after ++ ')' :: more) =
        grow lost more (skipBlanks s.blanks after) := hgrow more hmore
    rw [hread.readCount_eq, ht.blanks, hgrown, laziness_grow lost more _ hskip.atEnd,
      usedUp_add_laziness hbehind]
    rfl

/-! ## Opening parentheses -/

/-- Leading characters behind which one is left are the same whatever follows. -/
theorem takeWhile_append_of_drop {p : Char → Bool} {cs rest : List Char} {d : Char}
    (h : cs.drop (cs.takeWhile p).length = d :: rest) (more : List Char) :
    (cs ++ more).takeWhile p = cs.takeWhile p ∧
      (cs ++ more).drop (cs.takeWhile p).length = d :: (rest ++ more) := by
  have hlength : (cs.takeWhile p).length < cs.length := by
    apply Nat.lt_of_not_le
    intro hle
    rw [List.drop_eq_nil_of_le hle] at h
    cases h
  constructor
  · rw [List.takeWhile_append, if_neg (Nat.ne_of_lt hlength)]
  · rw [List.drop_append_of_le_length (Nat.le_of_lt hlength), h, List.cons_append]

theorem length_of_drop {n : Nat} {cs rest : List Char} {d : Char} (h : cs.drop n = d :: rest) :
    rest.length ≤ cs.length := by
  have hlength := congrArg List.length h
  rw [List.length_drop, List.length_cons] at hlength
  omega

/-- What an opening parenthesis begins, the index of the group apart. -/
inductive Opened where
  | flags (change : FlagChange)
  | plain (change : FlagChange)
  | capture (name : Option String)

/-- What is begun where a group would have an index and some names are taken. -/
def Opened.opening (index : Nat) (taken : List String) : Opened → Except Error Opening
  | .flags change => .ok (.flags change)
  | .plain change => .ok (.group (.plain change))
  | .capture name =>
    if name.any taken.contains then .error .malformed else .ok (.group (.capture index name))

/-- The turn that an opening parenthesis makes. -/
def Opened.turn : Opened → Turn
  | .flags change => .setFlags change
  | .plain change => .openPlain change
  | .capture name => .openCapture name

/-- Behind an opening parenthesis a text begins something, wherever it stands. -/
structure Opens (cs : List Char) (b : Opened) (after : List Char) : Prop where
  length_le : after.length ≤ cs.length
  read : ∀ (index : Nat) (taken : List String) (more : List Char),
    readOpening index taken (cs ++ ')' :: more) =
      (b.opening index taken).map (·, after ++ ')' :: more)

section
variable {index : Nat} {taken : List String} {cs after : List Char} {o : Opening}

/-- A name is read up to the bracket behind it, whatever follows that. -/
theorem readName_append (h : readName index taken cs = .ok (o, after)) :
    ∃ name, (Opened.capture name).opening index taken = .ok o ∧ after.length ≤ cs.length ∧
      ∀ (index : Nat) (taken : List String) (more : List Char),
        readName index taken (cs ++ more) =
          ((Opened.capture name).opening index taken).map (·, after ++ more) := by
  simp only [readName] at h
  split at h
  · next hname =>
      split at h
      · next d rest hrest =>
          obtain ⟨rfl, rfl⟩ := Prod.mk.inj (Except.ok.inj h)
          rw [Bool.and_eq_true, Bool.not_eq_true'] at hname
          refine ⟨some (String.ofList (cs.takeWhile (· != '>'))), ?_, length_of_drop hrest, ?_⟩
          · simp only [Opened.opening, Option.any_some, hname.2]
            rfl
          · intro index taken more
            obtain ⟨htake, hdrop⟩ := takeWhile_append_of_drop hrest more
            simp only [readName, htake, hdrop, hname.1, Bool.true_and, Opened.opening,
              Option.any_some]
            rcases Bool.eq_false_or_eq_true
              (taken.contains (String.ofList (cs.takeWhile (· != '>')))) with htaken | htaken
            · simp only [htaken]
              rfl
            · simp only [htaken]
              rfl
      · cases h
  · cases h

/-- Flags are read up to the colon or parenthesis behind them, whatever follows that. -/
theorem readFlags_append (h : readFlags cs = .ok (o, after)) :
    ∃ b : Opened, (∀ index taken, b.opening index taken = .ok o) ∧ after.length ≤ cs.length ∧
      ∀ more, readFlags (cs ++ more) = .ok (o, after ++ more) := by
  simp only [readFlags] at h
  split at h
  · next change rest hchange hrest =>
      obtain ⟨rfl, rfl⟩ := Prod.mk.inj (Except.ok.inj h)
      refine ⟨.plain change, fun _ _ => rfl, length_of_drop hrest, fun more => ?_⟩
      obtain ⟨htake, hdrop⟩ := takeWhile_append_of_drop hrest more
      simp only [readFlags, htake, hdrop, hchange]
  · cases h
  · next change rest hempty hchange hrest =>
      obtain ⟨rfl, rfl⟩ := Prod.mk.inj (Except.ok.inj h)
      refine ⟨.flags change, fun _ _ => rfl, length_of_drop hrest, fun more => ?_⟩
      obtain ⟨htake, hdrop⟩ := takeWhile_append_of_drop hrest more
      simp only [readFlags, htake, hdrop, hchange]
  · cases h

theorem opens_of_readName (before : List Char) (h : readName index taken cs = .ok (o, after))
    (hread : ∀ index taken more, readOpening index taken (before ++ (cs ++ ')' :: more)) =
      readName index taken (cs ++ ')' :: more)) :
    ∃ b : Opened, b.opening index taken = .ok o ∧ Opens (before ++ cs) b after := by
  obtain ⟨name, hopening, hlength, hname⟩ := readName_append h
  refine ⟨.capture name, hopening, ?_, fun index taken more => ?_⟩
  · rw [List.length_append]
    exact Nat.le_add_left_of_le hlength
  · rw [List.append_assoc, hread]
    exact hname index taken (')' :: more)

theorem opens_of_readFlags (h : readFlags cs = .ok (o, after))
    (hread : ∀ index taken more, readOpening index taken ('?' :: (cs ++ ')' :: more)) =
      readFlags (cs ++ ')' :: more)) :
    ∃ b : Opened, b.opening index taken = .ok o ∧ Opens ('?' :: cs) b after := by
  obtain ⟨b, hopening, hlength, hflags⟩ := readFlags_append h
  refine ⟨b, hopening index taken, Nat.le_succ_of_le hlength, fun index taken more => ?_⟩
  rw [List.cons_append, hread, hflags, hopening]
  rfl

end

section
variable (index : Nat) (taken : List String) {cs : List Char}

theorem readOpening_unmarked (h : ∀ rest, cs ≠ '?' :: rest) :
    readOpening index taken cs = .ok (.group (.capture index none), cs) := by
  unfold readOpening
  split <;> first | exact absurd rfl (h _) | rfl

theorem readOpening_name (hahead : ∀ rest, cs ≠ '=' :: rest) (hnot : ∀ rest, cs ≠ '!' :: rest) :
    readOpening index taken ('?' :: '<' :: cs) = readName index taken cs := by
  unfold readOpening
  split
  · next heq => cases (List.cons.inj (List.cons.inj heq).2).1
  · next heq => cases (List.cons.inj (List.cons.inj heq).2).1
  · next heq => exact absurd (List.cons.inj (List.cons.inj heq).2).2 (hahead _)
  · next heq => exact absurd (List.cons.inj (List.cons.inj heq).2).2 (hnot _)
  · next heq => cases (List.cons.inj (List.cons.inj heq).2).1
  · next heq => rw [(List.cons.inj (List.cons.inj heq).2).2]
  · next hname heq => exact absurd (List.cons.inj heq).2.symm (hname _)
  · next hflags => exact absurd rfl (hflags _)

theorem readOpening_flags (hahead : ∀ rest, cs ≠ '=' :: rest) (hnot : ∀ rest, cs ≠ '!' :: rest)
    (hnamed : ∀ rest, cs ≠ 'P' :: '<' :: rest) (hname : ∀ rest, cs ≠ '<' :: rest) :
    readOpening index taken ('?' :: cs) = readFlags cs := by
  unfold readOpening
  split
  · next heq => exact absurd (List.cons.inj heq).2 (hahead _)
  · next heq => exact absurd (List.cons.inj heq).2 (hnot _)
  · next heq => exact absurd (List.cons.inj heq).2 (hname _)
  · next heq => exact absurd (List.cons.inj heq).2 (hname _)
  · next heq => exact absurd (List.cons.inj heq).2 (hnamed _)
  · next heq => exact absurd (List.cons.inj heq).2 (hname _)
  · next heq => rw [(List.cons.inj heq).2]
  · next hflags => exact absurd rfl (hflags _)

end

section
variable {cs : List Char}

/-- No character other than a closing parenthesis comes to stand first. -/
theorem append_ne_cons {c : Char} (hc : c ≠ ')') (h : ∀ rest, cs ≠ c :: rest)
    (more rest : List Char) : cs ++ ')' :: more ≠ c :: rest := grow_ne_cons hc h false more rest

theorem append_ne_cons_cons {c d : Char} (hc : c ≠ ')') (hd : d ≠ ')')
    (h : ∀ rest, cs ≠ c :: d :: rest) (more rest : List Char) :
    cs ++ ')' :: more ≠ c :: d :: rest := by
  intro heq
  cases cs with
  | nil => exact hc (List.cons.inj heq).1.symm
  | cons e cs =>
      obtain ⟨rfl, hrest⟩ := List.cons.inj heq
      have hother : ∀ rest, cs ≠ d :: rest := fun rest hcs => h rest (congrArg (e :: ·) hcs)
      exact append_ne_cons hd hother more rest hrest

theorem opens_unmarked (h : ∀ rest, cs ≠ '?' :: rest) : Opens cs (.capture none) cs where
  length_le := Nat.le_refl _
  read index taken more :=
    readOpening_unmarked index taken (append_ne_cons (by decide) h more)

end

/-- What an opening parenthesis begins is read in the same way whatever follows it. Only the index
of a group, and whether its name is taken, depend on what was read before. -/
theorem opens_of_readOpening {index : Nat} {taken : List String} {cs after : List Char}
    {o : Opening} (h : readOpening index taken cs = .ok (o, after)) :
    ∃ b : Opened, b.opening index taken = .ok o ∧ Opens cs b after := by
  unfold readOpening at h
  split at h
  · cases h
  · cases h
  · cases h
  · cases h
  · exact opens_of_readName ['?', 'P', '<'] h fun _ _ _ => rfl
  · next behind hahead hnot =>
      apply opens_of_readName ['?', '<'] h
      intro index taken more
      exact readOpening_name index taken (append_ne_cons (by decide) hahead more)
        (append_ne_cons (by decide) hnot more)
  · next behind hahead hnot _ _ hnamed hname =>
      apply opens_of_readFlags h
      intro index taken more
      exact readOpening_flags index taken (append_ne_cons (by decide) hahead more)
        (append_ne_cons (by decide) hnot more)
        (append_ne_cons_cons (by decide) (by decide) hnamed more)
        (append_ne_cons (by decide) hname more)
  · next hmark =>
      obtain ⟨rfl, rfl⟩ := Prod.mk.inj (Except.ok.inj h)
      exact ⟨.capture none, rfl, opens_unmarked hmark⟩

/-- A text that only comments follow may be lost before an opening parenthesis begins something. -/
theorem readOpening_grow {index : Nat} {taken : List String} {cs after : List Char} {o : Opening}
    {lost : Bool} (hcs : lost = true → cs = []) (h : readOpening index taken cs = .ok (o, after)) :
    ∃ b : Opened, b.opening index taken = .ok o ∧ Passes lost cs lost after ∧
      ∀ (index : Nat) (taken : List String) (more : List Char),
        readOpening index taken (grow lost more cs) =
          (b.opening index taken).map (·, grow lost more after) := by
  cases lost with
  | false =>
      obtain ⟨b, hopening, hopens⟩ := opens_of_readOpening h
      exact ⟨b, hopening, ⟨id, nofun, hopens.length_le⟩, hopens.read⟩
  | true =>
      obtain rfl := hcs rfl
      obtain ⟨rfl, rfl⟩ := Prod.mk.inj (Except.ok.inj h)
      exact ⟨.capture none, rfl, .refl hcs, fun _ _ _ => rfl⟩

theorem openGroup_eq {s : State} {cs after : List Char} {b : Opened}
    (h : readOpening (s.groups + 1) s.names (skipBlanks s.blanks cs) =
      (b.opening (s.groups + 1) s.names).map (·, after)) :
    openGroup s cs = (b.turn.apply s).map (·, usedUp cs after) := by
  simp only [openGroup, h]
  cases b with
  | flags change => rfl
  | plain change => rfl
  | capture name =>
      simp only [Opened.opening, Opened.turn, Turn.apply]
      cases name.any s.names.contains <;> rfl

theorem uniform_openGroup : Uniform openGroup := by
  intro s cs s' used h
  obtain ⟨lost, hskip, hgrow⟩ := passesOver_skipBlanks s.blanks false cs nofun
  have hopening := h
  rw [openGroup, bind_eq_ok_iff] at hopening
  obtain ⟨⟨o, after⟩, hopening, -⟩ := hopening
  obtain ⟨b, hb, hpass, hread⟩ := readOpening_grow hskip.atEnd hopening
  have hself : readOpening (s.groups + 1) s.names (skipBlanks s.blanks cs) =
      (b.opening (s.groups + 1) s.names).map (·, after) := by
    rw [hopening, hb]
    rfl
  rw [openGroup_eq hself, map_prodMk_eq_ok_iff] at h
  obtain ⟨happly, rfl⟩ := h
  refine ⟨b.turn, lost, .of_passes (hskip.trans hpass) happly fun t more ht hmore => ?_⟩
  apply openGroup_eq
  have hgrown : skipBlanks s.blanks (cs ++ ')' :: more) =
      grow lost more (skipBlanks s.blanks cs) := hgrow more hmore
  rw [ht.blanks, hgrown, hread]

/-! ## Classes -/

/-- A class begins, and `after` is left behind the mark that negates it. -/
def State.beginClass (s : State) (rest : List Char) (negated : Bool) (after : List Char) :
    State × Nat :=
  let (hyphens, after) := takeChars s.blanks (· == '-') false after
  let items := hyphens.map fun c => ClassExpr.literal ⟨c, false⟩
  let (items, after) :=
    match items, after with
    | [], ']' :: after => ([ClassExpr.literal ⟨']', false⟩], skipBlanks s.blanks after)
    | items, after => (items, after)
  ({ s with classes := ⟨negated, none, items⟩ :: s.classes }, usedUp rest after)

theorem openClass_negated {s : State} {rest after : List Char}
    (h : skipBlanks s.blanks rest = '^' :: after) :
    openClass s rest = s.beginClass rest true (skipBlanks s.blanks after) := by
  simp only [openClass, h]
  rfl

theorem openClass_plain {s : State} {rest : List Char}
    (h : ∀ after, skipBlanks s.blanks rest ≠ '^' :: after) :
    openClass s rest = s.beginClass rest false (skipBlanks s.blanks rest) := by
  unfold openClass
  dsimp only
  split
  · next heq => exact absurd heq (h _)
  · rfl

/-- The items with which a class begins. -/
theorem beginClass_eq (blanks : Bool) {lost : Bool} {after : List Char}
    (hcs : lost = true → after = []) : ∃ items lost' behind, Passes lost after lost' behind ∧
      (∀ (s : State) (rest : List Char) (negated : Bool), s.blanks = blanks →
        s.beginClass rest negated after =
          ({ s with classes := ⟨negated, none, items⟩ :: s.classes }, usedUp rest behind)) ∧
      ∀ (s : State) (rest more : List Char) (negated : Bool), s.blanks = blanks →
        Quiet lost' more → s.beginClass rest negated (grow lost more after) =
          ({ s with classes := ⟨negated, none, items⟩ :: s.classes },
            usedUp rest (grow lost' more behind)) := by
  obtain ⟨lost₁, hhyphens, hgrow⟩ := passes_takeChars blanks (· == '-') (by decide) lost after hcs
  generalize htake : takeChars blanks (· == '-') false after = taken at hhyphens hgrow
  obtain ⟨hyphens, behind⟩ := taken
  by_cases hbracket : hyphens = [] ∧ ∃ rest, behind = ']' :: rest
  · obtain ⟨rfl, rest', rfl⟩ := hbracket
    obtain rfl := hhyphens.not_lost
    obtain ⟨lost₂, hskip, hgrow₂⟩ := passesOver_skipBlanks blanks false rest' nofun
    refine ⟨[.literal ⟨']', false⟩], lost₂, _, hhyphens.tail.trans hskip, ?_, ?_⟩
    · rintro s rest negated rfl
      simp only [State.beginClass, htake, List.map_nil]
    · rintro s rest more negated rfl hmore
      have h₁ := hgrow more quiet_false
      have h₂ := hgrow₂ more hmore
      rw [grow_false] at h₁ h₂
      simp only [State.beginClass, h₁, List.map_nil, List.cons_append, h₂]
  · refine ⟨hyphens.map fun c => .literal ⟨c, false⟩, lost₁, behind, hhyphens, ?_, ?_⟩
    · rintro s rest negated rfl
      simp only [State.beginClass, htake]
      split
      · next heq => exact absurd ⟨List.map_eq_nil_iff.1 heq, _, rfl⟩ hbracket
      · rfl
    · rintro s rest more negated rfl hmore
      simp only [State.beginClass, hgrow more hmore]
      split
      · next hitems hbehind =>
          have hhyphens := List.map_eq_nil_iff.1 hitems
          have hother : ∀ rest, behind ≠ ']' :: rest := fun rest h => hbracket ⟨hhyphens, rest, h⟩
          exact absurd hbehind (grow_ne_cons (by decide) hother lost₁ more _)
      · rfl

theorem openClass_eq (blanks : Bool) (cs : List Char) :
    ∃ negated items lost after, Passes false cs lost after ∧
      (∀ s : State, s.blanks = blanks → openClass s cs =
        ({ s with classes := ⟨negated, none, items⟩ :: s.classes }, usedUp cs after)) ∧
      ∀ (s : State) (more : List Char), s.blanks = blanks → Quiet lost more →
        openClass s (cs ++ ')' :: more) =
          ({ s with classes := ⟨negated, none, items⟩ :: s.classes },
            usedUp (cs ++ ')' :: more) (grow lost more after)) := by
  obtain ⟨lost₁, hskip, hgrow⟩ := passesOver_skipBlanks blanks false cs nofun
  by_cases hcaret : ∃ after, skipBlanks blanks cs = '^' :: after
  · obtain ⟨after, heq⟩ := hcaret
    rw [heq] at hskip hgrow
    obtain rfl := hskip.not_lost
    obtain ⟨lost₂, hbehind, hgrow₂⟩ := passesOver_skipBlanks blanks false after nofun
    obtain ⟨items, lost₃, behind, hpass, hread, hgrown⟩ := beginClass_eq blanks hbehind.atEnd
    refine ⟨true, items, lost₃, behind, hskip.tail.trans (hbehind.trans hpass), ?_, ?_⟩
    · rintro s rfl
      rw [openClass_negated heq, hread s cs true rfl]
    · rintro s more rfl hmore
      have h₁ : skipBlanks s.blanks (cs ++ ')' :: more) = '^' :: (after ++ ')' :: more) :=
        hgrow more quiet_false
      have h₂ := hgrow₂ more (hmore.mono hpass.stays)
      rw [openClass_negated h₁, ← hgrown s _ more true rfl hmore, ← h₂, grow_false]
  · have hother : ∀ after, skipBlanks blanks cs ≠ '^' :: after := fun after h =>
      hcaret ⟨after, h⟩
    obtain ⟨items, lost₃, behind, hpass, hread, hgrown⟩ := beginClass_eq blanks hskip.atEnd
    refine ⟨false, items, lost₃, behind, hskip.trans hpass, ?_, ?_⟩
    · rintro s rfl
      rw [openClass_plain hother, hread s cs false rfl]
    · rintro s more rfl hmore
      have h₁ := hgrow more (hmore.mono hpass.stays)
      rw [grow_false] at h₁
      have hcaret' : ('^' : Char) ≠ ')' := by decide
      rw [openClass_plain fun after => ?_, h₁, hgrown s _ more false rfl hmore]
      rw [h₁]
      exact grow_ne_cons hcaret' hother lost₁ more after

theorem uniform_openClass : Uniform fun s cs => .ok (openClass s cs) := by
  intro s cs s' used h
  obtain ⟨negated, items, lost, after, hpass, hread, hgrown⟩ := openClass_eq s.blanks cs
  dsimp only at h
  rw [hread s rfl] at h
  obtain ⟨rfl, rfl⟩ := Prod.mk.inj (Except.ok.inj h)
  refine ⟨.openClass negated items, lost, .of_passes hpass rfl fun t more ht hmore => ?_⟩
  rw [hgrown t more ht.blanks hmore]
  rfl

/-- The item of a class that begins with a character, and what is left behind it. A hyphen behind an
item makes a range if a character follows that may end one. -/
inductive ReadsClassItem (blanks : Bool) (c : Char) (cs : List Char) :
    ClassExpr → List Char → Prop where
  | lone {first : Primitive} {after : List Char} {item : ClassExpr}
      (hfirst : readItem blanks c cs = .ok (first, after))
      (hother : ∀ rest, skipBlanks blanks after ≠ '-' :: rest)
      (hitem : first.classItem = .ok item) :
      ReadsClassItem blanks c cs item (skipBlanks blanks after)
  | beforeHyphen {first : Primitive} {after behind : List Char} {item : ClassExpr}
      (hfirst : readItem blanks c cs = .ok (first, after))
      (hhyphen : skipBlanks blanks after = '-' :: behind)
      (hends : endsRange (peekRange blanks behind) = true)
      (hitem : first.classItem = .ok item) : ReadsClassItem blanks c cs item ('-' :: behind)
  | range {a b : Literal} {d : Char} {after behind inner last : List Char}
      (hfirst : readItem blanks c cs = .ok (.literal a, after))
      (hhyphen : skipBlanks blanks after = '-' :: behind)
      (hends : endsRange (peekRange blanks behind) = false)
      (hinner : skipBlanks blanks behind = d :: inner)
      (hlast : readItem blanks d inner = .ok (.literal b, last)) (hle : a.char ≤ b.char) :
      ReadsClassItem blanks c cs (.range a b) last

section
variable {s s' : State} {blanks : Bool} {c : Char} {cs after : List Char} {item : ClassExpr}
  {used : Nat}

theorem ReadsClassItem.readClassItem_eq (h : ReadsClassItem s.blanks c cs item after) :
    readClassItem s c cs = .ok (s.pushClass item, usedUp cs after) := by
  cases h with
  | lone hfirst hother hitem =>
      simp only [readClassItem, hfirst, bind, Except.bind, hitem]
      rfl
  | beforeHyphen hfirst hhyphen hends hitem =>
      rw [endsRange] at hends
      simp only [readClassItem, hfirst, bind, Except.bind, hhyphen, hends, hitem, if_true]
      rfl
  | range hfirst hhyphen hends hinner hlast hle =>
      rw [endsRange] at hends
      simp only [readClassItem, hfirst, bind, Except.bind, hhyphen, hends, hinner, hlast,
        if_pos hle]
      rfl

theorem exists_item_of_readClassItem (h : readClassItem s c cs = .ok (s', used)) :
    ∃ item after, ReadsClassItem s.blanks c cs item after := by
  simp only [readClassItem] at h
  obtain ⟨⟨first, after⟩, hfirst, h⟩ := bind_eq_ok_iff.1 h
  dsimp only at h
  split at h
  · next behind hhyphen =>
      split at h
      · next hends =>
          obtain ⟨item, hitem, -⟩ := bind_eq_ok_iff.1 h
          exact ⟨_, _, .beforeHyphen hfirst hhyphen hends hitem⟩
      · next hends =>
          split at h
          · cases h
          · next d inner hinner =>
              obtain ⟨⟨last, left⟩, hlast, h⟩ := bind_eq_ok_iff.1 h
              dsimp only at h
              split at h
              · next a b _ =>
                  split at h
                  · next hle =>
                      exact ⟨_, _, .range hfirst hhyphen (Bool.eq_false_iff.2 hends) hinner hlast
                        hle⟩
                  · cases h
              · cases h
  · next hother =>
      obtain ⟨item, hitem, -⟩ := bind_eq_ok_iff.1 h
      exact ⟨_, _, .lone hfirst hother hitem⟩

/-- An item is read up to the character behind the blanks that follow it, whatever follows that. -/
theorem readItem_grow {p : Primitive} {d : Char} {behind : List Char}
    (hread : readItem blanks c cs = .ok (p, after))
    (hnext : skipBlanks blanks after = d :: behind) :
    Passes false cs false (d :: behind) ∧ ∀ more,
      readItem blanks c (cs ++ ')' :: more) = .ok (p, after ++ ')' :: more) := by
  obtain ⟨lost, hitem, hgrow⟩ := local_readItem blanks c false cs p after nofun hread
  obtain ⟨hskip, -⟩ := skipBlanks_grow lost hitem.atEnd hnext
  have hlost : lost = false := Bool.eq_false_iff.2 fun h => Bool.false_ne_true (hskip.stays h)
  subst hlost
  exact ⟨hitem.trans hskip, fun more => hgrow more quiet_false⟩

theorem endsRange_grow {ends : Bool} {behind : List Char}
    (h : endsRange (peekRange blanks behind) = ends) (more : List Char) :
    endsRange (peekRange blanks (behind ++ ')' :: more)) = ends :=
  (endsRange_peekRange blanks behind more).trans h

/-- An item of a class is read in the same way if a closing parenthesis and more text follow. -/
theorem ReadsClassItem.grow (h : ReadsClassItem blanks c cs item after) :
    ∃ lost, Passes false cs lost after ∧ ∀ more, Quiet lost more →
      ReadsClassItem blanks c (cs ++ ')' :: more) item (Parser.grow lost more after) := by
  cases h with
  | lone hfirst hother hitem =>
      obtain ⟨lost₁, hpass, hgrow₁⟩ := local_readItem blanks c false cs _ _ nofun hfirst
      obtain ⟨lost₂, hskip, hgrow₂⟩ := passesOver_skipBlanks blanks lost₁ _ hpass.atEnd
      refine ⟨lost₂, hpass.trans hskip, fun more hmore => ?_⟩
      have hfirst' := hgrow₁ more (hmore.mono hskip.stays)
      -- No hyphen comes to stand behind the item, so it is still by itself.
      have hhyphen : ('-' : Char) ≠ ')' := by decide
      have hother' := grow_ne_cons hhyphen hother lost₂ more
      rw [← hgrow₂ more hmore] at hother' ⊢
      exact .lone hfirst' hother' hitem
  | beforeHyphen hfirst hhyphen hends hitem =>
      obtain ⟨hpass, hfirst'⟩ := readItem_grow hfirst hhyphen
      obtain ⟨-, hhyphen'⟩ := skipBlanks_grow false nofun hhyphen
      refine ⟨false, hpass, fun more _ => ?_⟩
      exact .beforeHyphen (hfirst' more) (hhyphen' more) (endsRange_grow hends more) hitem
  | range hfirst hhyphen hends hinner hlast hle =>
      obtain ⟨hpass, hfirst'⟩ := readItem_grow hfirst hhyphen
      obtain ⟨-, hhyphen'⟩ := skipBlanks_grow false nofun hhyphen
      obtain ⟨hbehind, hinner'⟩ := skipBlanks_grow false nofun hinner
      obtain ⟨lost, hend, hgrow⟩ := local_readItem blanks _ false _ _ _ nofun hlast
      refine ⟨lost, hpass.tail.trans (hbehind.tail.trans hend), fun more hmore => ?_⟩
      exact .range (hfirst' more) (hhyphen' more) (endsRange_grow hends more) (hinner' more)
        (hgrow more hmore) hle

end

theorem uniform_readClassItem (c : Char) : Uniform fun s cs => readClassItem s c cs := by
  intro s cs s' used h
  obtain ⟨item, after, hitem⟩ := exists_item_of_readClassItem h
  obtain ⟨lost, hpass, hgrow⟩ := hitem.grow
  obtain ⟨rfl, rfl⟩ := Prod.mk.inj (Except.ok.inj (hitem.readClassItem_eq.symm.trans h))
  refine ⟨.classItem item, lost, .of_passes hpass rfl fun t more ht hmore => ?_⟩
  have hread : ReadsClassItem t.blanks c (cs ++ ')' :: more) item (grow lost more after) := by
    rw [ht.blanks]
    exact hgrow more hmore
  exact hread.readClassItem_eq

/-! ## Turns of the reader -/

/-- Turns that do not look at the text. -/
theorem uniform_of_eq {read : State → List Char → Except Error (State × Nat)} (turn : Turn)
    (h : ∀ s cs, read s cs = (turn.apply s).map (·, 0)) : Uniform read := by
  intro s cs s' used hread
  rw [h, map_prodMk_eq_ok_iff] at hread
  obtain ⟨happly, rfl⟩ := hread
  exact ⟨turn, false, .of_none happly fun t more _ => h t _⟩

theorem asciiClassAt?_used_le {cs : List Char} {item : ClassExpr} {used : Nat}
    (h : asciiClassAt? cs = some (item, used)) : used ≤ cs.length := by
  have hnamed {negated : Bool} {before : Nat} {cs : List Char}
      (h : asciiClassAt?.named negated before cs = some (item, used)) :
      used ≤ before + cs.length := by
    simp only [asciiClassAt?.named] at h
    split at h
    · next hdrop =>
        obtain ⟨set, -, h⟩ := Option.bind_eq_some_iff.1 h
        obtain ⟨-, rfl⟩ := Prod.mk.inj (Option.some.inj h)
        have hlength := congrArg List.length hdrop
        rw [List.length_drop, List.length_cons, List.length_cons] at hlength
        omega
    · cases h
  unfold asciiClassAt? at h
  split at h
  · next rest =>
      have := hnamed h
      simp only [List.length_cons]
      omega
  · next rest _ =>
      have := hnamed h
      simp only [List.length_cons]
      omega
  · cases h

/-- A character that neither opens nor closes a class nor is one half of an operation begins an item
of the class. -/
theorem classStep_eq_readClassItem (s : State) {c : Char} {rest : List Char} (hopen : c ≠ '[')
    (hclose : c ≠ ']') (hoperation : ∀ behind, c ∈ ['&', '-', '~'] → rest ≠ c :: behind) :
    classStep s c rest = readClassItem s c rest := by
  unfold classStep
  split
  · exact absurd rfl hopen
  · exact absurd rfl hclose
  · exact absurd rfl (hoperation _ (by decide))
  · exact absurd rfl (hoperation _ (by decide))
  · exact absurd rfl (hoperation _ (by decide))
  · rfl

theorem classStep_ascii {rest : List Char} {item : ClassExpr} {used : Nat}
    (h : asciiClassAt? rest = some (item, used)) (s : State) :
    classStep s '[' rest = .ok (s.pushClass item, used) := by
  simp only [classStep, h]

theorem classStep_open {rest : List Char} (h : asciiClassAt? rest = none) (s : State) :
    classStep s '[' rest = .ok (openClass s rest) := by
  simp only [classStep, h]

theorem uniform_classStep_opening : Uniform fun s cs => classStep s '[' cs := by
  intro s cs s' used h
  cases hname : asciiClassAt? cs with
  | some named =>
      obtain ⟨item, count⟩ := named
      have heq := (classStep_ascii hname s).symm.trans h
      obtain ⟨rfl, rfl⟩ := Prod.mk.inj (Except.ok.inj heq)
      refine ⟨.classItem item, false, rfl, asciiClassAt?_used_le hname, Bool.noConfusion,
        fun t more _ _ => ?_⟩
      exact classStep_ascii ((asciiClassAt?_append cs more).trans hname) t
  | none =>
      have heq := (classStep_open hname s).symm.trans h
      obtain ⟨turn, lost, htakes⟩ := uniform_openClass heq
      refine ⟨turn, lost, htakes.congr fun t more _ => ?_⟩
      exact classStep_open ((asciiClassAt?_append cs more).trans hname) t

theorem uniform_classStep_closing : Uniform fun s cs => classStep s ']' cs :=
  uniform_of_eq .closeClass fun _ _ => rfl

/-- A character that stands twice makes an operation. -/
theorem exists_operation {c : Char} (h : c ∈ ['&', '-', '~']) :
    ∃ op, ∀ (s : State) (rest : List Char),
      classStep s c (c :: rest) = .ok (s.operation op, 1) := by
  simp only [List.mem_cons, List.not_mem_nil, or_false] at h
  rcases h with rfl | rfl | rfl
  · exact ⟨.intersection, fun _ _ => rfl⟩
  · exact ⟨.difference, fun _ _ => rfl⟩
  · exact ⟨.symmetricDifference, fun _ _ => rfl⟩

theorem uniform_classStep (c : Char) : Uniform fun s cs => classStep s c cs := by
  intro s cs s' used h
  by_cases hopen : c = '['
  · subst hopen
    exact uniform_classStep_opening h
  by_cases hclose : c = ']'
  · subst hclose
    exact uniform_classStep_closing h
  by_cases hoperation : ∀ behind, c ∈ ['&', '-', '~'] → cs ≠ c :: behind
  · dsimp only at h
    rw [classStep_eq_readClassItem s hopen hclose hoperation] at h
    obtain ⟨turn, lost, htakes⟩ := uniform_readClassItem c h
    refine ⟨turn, lost, htakes.congr fun t more _ => ?_⟩
    apply classStep_eq_readClassItem t hopen hclose
    intro behind hc
    have hparen : c ≠ ')' := by
      rintro rfl
      exact absurd hc (by decide)
    exact append_ne_cons hparen (fun rest => hoperation rest hc) more behind
  · simp only [not_forall, not_not] at hoperation
    obtain ⟨behind, hc, rfl⟩ := hoperation
    obtain ⟨op, hread⟩ := exists_operation hc
    obtain ⟨rfl, rfl⟩ := Prod.mk.inj (Except.ok.inj ((hread s behind).symm.trans h))
    refine ⟨.operation op, false, rfl, Nat.succ_le_succ (Nat.zero_le _), Bool.noConfusion,
      fun t more _ _ => ?_⟩
    exact hread t (behind ++ ')' :: more)

theorem uniform_itemStep (c : Char) : Uniform fun s cs => itemStep s c cs := by
  unfold itemStep
  split
  · exact uniform_openGroup
  · exact uniform_of_eq .close fun s cs => rfl
  · exact uniform_of_eq .branch fun s cs => rfl
  · exact uniform_openClass
  · exact uniform_readRepetition 0 (some 1)
  · exact uniform_readRepetition 0 none
  · exact uniform_readRepetition 1 none
  · exact uniform_readCount
  · intro s cs s' used h
    obtain ⟨⟨p, after⟩, hread, h⟩ := bind_eq_ok_iff.1 h
    obtain ⟨rfl, rfl⟩ := Prod.mk.inj (pure_eq_ok_iff.1 h)
    obtain ⟨lost, hpass, hgrow⟩ := local_readEscape s.blanks false cs p after nofun hread
    refine ⟨.push p, lost, .of_passes hpass rfl fun t more ht hmore => ?_⟩
    have hread' := hgrow more hmore
    rw [grow_false] at hread'
    simp only [ht.blanks, hread']
    rfl
  · exact uniform_of_eq (.push .dot) fun s cs => rfl
  · exact uniform_of_eq (.push (.anchor .lineStart)) fun s cs => rfl
  · exact uniform_of_eq (.push (.anchor .lineEnd)) fun s cs => rfl
  · exact uniform_of_eq (.push (plain c)) fun s cs => rfl

/-- Every turn of the reader is decided by the text and the mode. -/
theorem uniform_step (c : Char) : Uniform fun s cs => step s c cs := by
  intro s cs s' used h
  dsimp only [step] at h
  split at h
  · next hblank =>
      obtain ⟨rfl, rfl⟩ := Prod.mk.inj (Except.ok.inj h)
      refine ⟨.stay, false, .of_none rfl fun t more ht => ?_⟩
      simp only [step, ht.blanks, if_pos hblank]
      rfl
  · next hblank =>
      split at h
      · next hsign =>
          obtain ⟨rfl, rfl⟩ := Prod.mk.inj (Except.ok.inj h)
          obtain ⟨lost, hpass, hgrow⟩ := passesOver_afterComment false cs nofun
          refine ⟨.stay, lost, .of_passes hpass rfl fun t more ht hmore => ?_⟩
          have hcomment := hgrow more hmore
          rw [grow_false] at hcomment
          simp only [step, ht.blanks, if_neg hblank, if_pos hsign, hcomment]
          rfl
      · next hsign =>
          split at h
          · next hclasses =>
              obtain ⟨turn, lost, htakes⟩ := uniform_itemStep c h
              refine ⟨turn, lost, htakes.congr fun t more ht => ?_⟩
              simp only [step, ht.blanks, if_neg hblank, if_neg hsign, ht.classes, if_pos hclasses]
          · next hclasses =>
              obtain ⟨turn, lost, htakes⟩ := uniform_classStep c h
              refine ⟨turn, lost, htakes.congr fun t more ht => ?_⟩
              simp only [step, ht.blanks, if_neg hblank, if_neg hsign, ht.classes, if_neg hclasses]

/-- What every turn keeps is kept while a text is read. -/
theorem consume_keeps {P : State → Prop}
    (hP : ∀ (s s' : State) (turn : Turn), turn.apply s = .ok s' → P s → P s') {skip : Nat}
    {s t : State} {cs : List Char} (h : Text.consume step skip s cs = .ok t) (hs : P s) : P t := by
  induction cs generalizing skip s with
  | nil =>
      rw [Text.consume_nil] at h
      exact Except.ok.inj h ▸ hs
  | cons c cs ih =>
      cases skip with
      | succ skip => exact ih h hs
      | zero =>
          rw [Text.consume] at h
          split at h
          · next s' used hstep =>
              obtain ⟨turn, lost, htakes⟩ := uniform_step c hstep
              exact ih h (hP s s' turn htakes.apply hs)
          · cases h

end PathRouter.Regex.Parser
