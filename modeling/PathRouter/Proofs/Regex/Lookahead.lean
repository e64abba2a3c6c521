import PathRouter.Proofs.Outcome
import PathRouter.Proofs.Regex.Reading

/-!
# What a reader sees behind a text

A text that is read to its end is read in the same way if a closing parenthesis and more text stand
behind it: no part of an expression goes on with a closing parenthesis. Only a comment does. If the
text ends in one, the comment goes on to the next line feed, and if there is none, all that stands
behind the text is lost.
-/

namespace PathRouter.Regex.Parser

open Text (isBlank usedUp)

/-- What is left of a text behind which a closing parenthesis and more text were put, where `cs` is
left of the text itself: nothing, if all of it is `lost` in a comment. -/
def grow (lost : Bool) (more cs : List Char) : List Char := if lost then [] else cs ++ ')' :: more

/-- If the text behind the closing parenthesis gets lost in a comment, it has no line feed. -/
def Quiet (lost : Bool) (more : List Char) : Prop := lost = true → '\n' ∉ more

/-- From `cs` a reader comes to `after`. What is lost stays lost, and only the end of a text can be
lost. -/
structure Passes (lost : Bool) (cs : List Char) (lost' : Bool) (after : List Char) : Prop where
  stays : lost = true → lost' = true
  atEnd : lost' = true → after = []
  length_le : after.length ≤ cs.length

theorem grow_false (more cs : List Char) : grow false more cs = cs ++ ')' :: more := rfl

theorem grow_nil_true (more : List Char) : grow true more [] = [] := rfl

theorem eq_false_of_cons {lost : Bool} {c : Char} {cs : List Char}
    (h : lost = true → c :: cs = []) : lost = false :=
  Bool.eq_false_iff.2 fun hlost => absurd (h hlost) (List.cons_ne_nil c cs)

namespace Passes
variable {lost lost' lost'' : Bool} {cs after behind : List Char}

theorem refl (h : lost = true → cs = []) : Passes lost cs lost cs := ⟨id, h, Nat.le_refl _⟩

theorem trans (h : Passes lost cs lost' after) (h' : Passes lost' after lost'' behind) :
    Passes lost cs lost'' behind :=
  ⟨fun hlost => h'.stays (h.stays hlost), h'.atEnd, Nat.le_trans h'.length_le h.length_le⟩

/-- Where a character is left, nothing is lost. -/
theorem not_lost {c : Char} (h : Passes lost cs lost' (c :: after)) : lost' = false :=
  eq_false_of_cons h.atEnd

/-- Where a character is left, it can be passed over. -/
theorem tail {c : Char} (h : Passes lost cs lost' (c :: after)) : Passes lost cs lost' after where
  stays := h.stays
  atEnd := fun hlost => absurd (h.atEnd hlost) (List.cons_ne_nil c after)
  length_le := Nat.le_of_succ_le h.length_le

/-- A character further in front changes nothing. -/
theorem cons (h : Passes lost cs lost' after) (c : Char) : Passes lost (c :: cs) lost' after :=
  ⟨h.stays, h.atEnd, Nat.le_succ_of_le h.length_le⟩

end Passes

theorem quiet_false {more : List Char} : Quiet false more := nofun

theorem Quiet.mono {lost lost' : Bool} {more : List Char} (h : Quiet lost' more)
    (hlost : lost = true → lost' = true) : Quiet lost more := fun hl => h (hlost hl)

/-! ## Blanks and comments -/

theorem afterComment_eq_nil {cs : List Char} (h : '\n' ∉ cs) : afterComment cs = [] := by
  induction cs with
  | nil => rw [afterComment]
  | cons c cs ih =>
      rw [List.mem_cons, not_or] at h
      rw [afterComment, if_neg (Ne.symm h.1)]
      exact ih h.2

theorem afterBlanks_cons (c : Char) (cs : List Char) : afterBlanks (c :: cs) =
    if isBlank c then afterBlanks cs else if c = '#' then afterComment cs else c :: cs := by
  rw [afterBlanks]

theorem afterComment_cons (c : Char) (cs : List Char) : afterComment (c :: cs) =
    if c = '\n' then afterBlanks cs else afterComment cs := by
  rw [afterComment]

theorem pass_afterBlanks_afterComment (cs : List Char) :
    (∃ lost, Passes false cs lost (afterBlanks cs) ∧ ∀ more, Quiet lost more →
      afterBlanks (cs ++ ')' :: more) = grow lost more (afterBlanks cs)) ∧
    ∃ lost, Passes false cs lost (afterComment cs) ∧ ∀ more, Quiet lost more →
      afterComment (cs ++ ')' :: more) = grow lost more (afterComment cs) := by
  induction cs with
  | nil =>
      constructor
      · refine ⟨false, .refl nofun, fun more _ => ?_⟩
        rw [List.nil_append, afterBlanks_cons, if_neg (by decide), if_neg (by decide), afterBlanks]
        rfl
      · refine ⟨true, ⟨fun _ => rfl, fun _ => by rw [afterComment], by simp [afterComment]⟩,
          fun more hmore => ?_⟩
        rw [List.nil_append, afterComment_cons, if_neg (by decide),
          afterComment_eq_nil (hmore rfl)]
        rfl
  | cons c cs ih =>
      obtain ⟨⟨blankLost, hblank, hblankGrow⟩, ⟨commentLost, hcomment, hcommentGrow⟩⟩ := ih
      constructor
      · rw [afterBlanks_cons]
        split
        · next hc =>
            refine ⟨blankLost, hblank.cons c, fun more hmore => ?_⟩
            rw [List.cons_append, afterBlanks_cons, if_pos hc, hblankGrow more hmore]
        · next hc =>
            split
            · next hsign =>
                refine ⟨commentLost, hcomment.cons c, fun more hmore => ?_⟩
                rw [List.cons_append, afterBlanks_cons, if_neg hc, if_pos hsign,
                  hcommentGrow more hmore]
            · next hsign =>
                refine ⟨false, .refl nofun, fun more _ => ?_⟩
                rw [List.cons_append, afterBlanks_cons, if_neg hc, if_neg hsign]
                rfl
      · rw [afterComment_cons]
        split
        · next hc =>
            refine ⟨blankLost, hblank.cons c, fun more hmore => ?_⟩
            rw [List.cons_append, afterComment_cons, if_pos hc, hblankGrow more hmore]
        · next hc =>
            refine ⟨commentLost, hcomment.cons c, fun more hmore => ?_⟩
            rw [List.cons_append, afterComment_cons, if_neg hc, hcommentGrow more hmore]

/-- A way of passing over a part of a text that does not go on with a closing parenthesis. -/
def PassesOver (f : List Char → List Char) : Prop :=
  ∀ (lost : Bool) (cs : List Char), (lost = true → cs = []) → ∃ lost',
    Passes lost cs lost' (f cs) ∧ ∀ more, Quiet lost' more →
      f (grow lost more cs) = grow lost' more (f cs)

/-- Where nothing was lost before, it is enough to look at texts that go on. -/
theorem passesOver_of_grow {f : List Char → List Char} (hnil : f [] = [])
    (h : ∀ cs, ∃ lost', Passes false cs lost' (f cs) ∧ ∀ more, Quiet lost' more →
      f (cs ++ ')' :: more) = grow lost' more (f cs)) : PassesOver f := by
  intro lost cs hcs
  cases lost with
  | false => exact h cs
  | true =>
      obtain rfl := hcs rfl
      refine ⟨true, ⟨id, fun _ => hnil, Nat.le_of_eq (congrArg _ hnil)⟩, fun more _ => ?_⟩
      rw [grow_nil_true, hnil]
      rfl

theorem passesOver_afterComment : PassesOver afterComment :=
  passesOver_of_grow (by rw [afterComment]) fun cs => (pass_afterBlanks_afterComment cs).2

theorem passesOver_skipBlanks (blanks : Bool) : PassesOver (skipBlanks blanks) := by
  cases blanks with
  | true =>
      exact passesOver_of_grow (by rw [skipBlanks, if_pos rfl, afterBlanks])
        fun cs => (pass_afterBlanks_afterComment cs).1
  | false => exact fun lost cs hcs => ⟨lost, .refl hcs, fun _ _ => rfl⟩

/-- A character that comes first behind blanks is found whatever follows the text. -/
theorem skipBlanks_grow {blanks : Bool} {cs after : List Char} {c : Char} (lost : Bool)
    (hcs : lost = true → cs = []) (h : skipBlanks blanks cs = c :: after) :
    Passes lost cs false (c :: after) ∧
      ∀ more, skipBlanks blanks (grow lost more cs) = c :: (after ++ ')' :: more) := by
  obtain ⟨lost', hskip, hgrow⟩ := passesOver_skipBlanks blanks lost cs hcs
  rw [h] at hskip hgrow
  obtain rfl := hskip.not_lost
  exact ⟨hskip, fun more => hgrow more quiet_false⟩

theorem passesOver_dropBlanks : PassesOver (List.dropWhile isBlank) := by
  apply passesOver_of_grow rfl
  intro cs
  have hlength : (cs.dropWhile isBlank).length ≤ cs.length :=
    (List.dropWhile_suffix isBlank).length_le
  refine ⟨false, ⟨nofun, nofun, hlength⟩, fun more _ => ?_⟩
  clear hlength
  rw [grow_false]
  induction cs with
  | nil => rfl
  | cons c cs ih =>
      rw [List.cons_append, List.dropWhile_cons, List.dropWhile_cons]
      split
      · exact ih
      · rfl

/-! ## Leading characters -/

/-- What becomes of the first character where leading characters are taken. -/
inductive FirstChar where
  /-- It is passed over, and it may leave a comment open. -/
  | passed (comment : Bool)
  | taken
  | left

/-- What becomes of a character, if it stands in a comment or not. -/
def firstChar (blanks : Bool) (keep : Char → Bool) (comment : Bool) (c : Char) : FirstChar :=
  if comment then .passed (c != '\n')
  else if blanks && isBlank c then .passed false
  else if blanks && c == '#' then .passed true
  else if keep c then .taken
  else .left

theorem takeChars_cons (blanks : Bool) (keep : Char → Bool) (comment : Bool) (c : Char)
    (cs : List Char) : takeChars blanks keep comment (c :: cs) =
      match firstChar blanks keep comment c with
      | .passed comment => takeChars blanks keep comment cs
      | .taken => (c :: (takeChars blanks keep false cs).1, (takeChars blanks keep false cs).2)
      | .left => ([], c :: cs) := by
  rw [takeChars, firstChar]
  split_ifs <;> rfl

theorem takeChars_comment {blanks : Bool} {keep : Char → Bool} {cs : List Char} (h : '\n' ∉ cs) :
    takeChars blanks keep true cs = ([], []) := by
  induction cs with
  | nil => rfl
  | cons c cs ih =>
      rw [List.mem_cons, not_or] at h
      have hc : (c != '\n') = true := bne_iff_ne.2 (Ne.symm h.1)
      rw [takeChars, if_pos rfl, hc]
      exact ih h.2

theorem takeChars_grow (blanks : Bool) {keep : Char → Bool} (hkeep : keep ')' = false)
    (comment : Bool) (cs : List Char) :
    ∃ lost, Passes false cs lost (takeChars blanks keep comment cs).2 ∧ ∀ more, Quiet lost more →
      takeChars blanks keep comment (cs ++ ')' :: more) =
        ((takeChars blanks keep comment cs).1,
          grow lost more (takeChars blanks keep comment cs).2) := by
  induction cs generalizing comment with
  | nil =>
      cases comment with
      | true =>
          refine ⟨true, ⟨fun _ => rfl, fun _ => rfl, Nat.le_refl _⟩, fun more hmore => ?_⟩
          exact takeChars_comment (by simpa using hmore rfl)
      | false =>
          refine ⟨false, .refl nofun, fun more _ => ?_⟩
          have hblank : isBlank ')' = false := by decide
          simp [takeChars, hkeep, hblank, grow_false]
  | cons c cs ih =>
      simp only [List.cons_append, takeChars_cons]
      cases firstChar blanks keep comment c with
      | passed comment' =>
          obtain ⟨lost, hpass, hgrow⟩ := ih comment'
          exact ⟨lost, hpass.cons c, hgrow⟩
      | taken =>
          obtain ⟨lost, hpass, hgrow⟩ := ih false
          refine ⟨lost, hpass.cons c, fun more hmore => ?_⟩
          simp only [hgrow more hmore]
      | left => exact ⟨false, .refl nofun, fun _ _ => rfl⟩

theorem passes_takeChars (blanks : Bool) (keep : Char → Bool) (hkeep : keep ')' = false)
    (lost : Bool) (cs : List Char) (hcs : lost = true → cs = []) :
    ∃ lost', Passes lost cs lost' (takeChars blanks keep false cs).2 ∧ ∀ more, Quiet lost' more →
      takeChars blanks keep false (grow lost more cs) =
        ((takeChars blanks keep false cs).1,
          grow lost' more (takeChars blanks keep false cs).2) := by
  cases lost with
  | false => exact takeChars_grow blanks hkeep false cs
  | true =>
      obtain rfl := hcs rfl
      exact ⟨true, ⟨id, fun _ => rfl, Nat.le_refl _⟩, fun more _ => rfl⟩

theorem passes_takeHex (blanks : Bool) (n : Nat) {lost : Bool} {cs digits after : List Char}
    (hcs : lost = true → cs = []) (h : takeHex blanks n cs = some (digits, after)) :
    ∃ lost', Passes lost cs lost' after ∧ ∀ more, Quiet lost' more →
      takeHex blanks n (grow lost more cs) = some (digits, grow lost' more after) := by
  induction n generalizing lost cs digits with
  | zero =>
      obtain ⟨rfl, rfl⟩ := Prod.mk.inj (Option.some.inj h)
      exact ⟨lost, .refl hcs, fun _ _ => rfl⟩
  | succ n ih =>
      rw [takeHex] at h
      split at h
      · cases h
      · next c rest hfirst =>
          split at h
          · next hdigit =>
              obtain ⟨⟨digits', after'⟩, hrest, h⟩ := Option.bind_eq_some_iff.1 h
              obtain ⟨rfl, rfl⟩ := Prod.mk.inj (Option.some.inj h)
              obtain ⟨hpass, hskip⟩ := skipBlanks_grow lost hcs hfirst
              have hkept : false = true → rest = [] := nofun
              obtain ⟨lost', hbehind, hgrow⟩ := ih hkept hrest
              refine ⟨lost', hpass.tail.trans hbehind, fun more hmore => ?_⟩
              have hdigits : takeHex blanks n (rest ++ ')' :: more) =
                  some (digits', grow lost' more after') := hgrow more hmore
              simp [takeHex, hskip, hdigit, hdigits]
          · cases h

/-- Where a character is left behind the leading characters, nothing further is seen. -/
theorem takeChars_append {blanks comment : Bool} {keep : Char → Bool} {cs taken rest : List Char}
    {d : Char} (h : takeChars blanks keep comment cs = (taken, d :: rest)) (behind : List Char) :
    takeChars blanks keep comment (cs ++ behind) = (taken, d :: (rest ++ behind)) := by
  induction cs generalizing comment taken with
  | nil => cases (Prod.mk.inj h).2
  | cons c cs ih =>
      rw [takeChars_cons] at h
      rw [List.cons_append, takeChars_cons]
      cases hfirst : firstChar blanks keep comment c with
      | passed comment' =>
          rw [hfirst] at h
          exact ih h
      | taken =>
          rw [hfirst] at h
          obtain ⟨rfl, hrest⟩ := Prod.mk.inj h
          simp only [ih (Prod.ext rfl hrest)]
      | left =>
          rw [hfirst] at h
          obtain ⟨rfl, heq⟩ := Prod.mk.inj h
          obtain ⟨rfl, rfl⟩ := List.cons.inj heq
          rfl

theorem length_takeChars_le (blanks comment : Bool) (keep : Char → Bool) (cs : List Char) :
    (takeChars blanks keep comment cs).2.length ≤ cs.length := by
  induction cs generalizing comment with
  | nil => exact Nat.le_refl _
  | cons c cs ih =>
      rw [takeChars_cons]
      cases firstChar blanks keep comment c with
      | passed comment' => exact Nat.le_succ_of_le (ih comment')
      | taken => exact Nat.le_succ_of_le (ih false)
      | left => exact Nat.le_refl _

/-- Leading characters and the one behind them can be passed over. -/
theorem passes_of_takeChars {blanks : Bool} {keep : Char → Bool} {cs taken rest : List Char}
    {d : Char} (h : takeChars blanks keep false cs = (taken, d :: rest)) :
    Passes false cs false rest := by
  have hlength := length_takeChars_le blanks false keep cs
  rw [h] at hlength
  exact ⟨id, nofun, Nat.le_of_succ_le hlength⟩

theorem grow_ne_cons {c : Char} (hc : c ≠ ')') {cs : List Char} (h : ∀ rest, cs ≠ c :: rest)
    (lost : Bool) (more rest : List Char) : grow lost more cs ≠ c :: rest := by
  intro heq
  cases lost with
  | true => cases heq
  | false =>
      cases cs with
      | nil => exact hc (List.cons.inj heq).1.symm
      | cons d cs => exact h cs (congrArg (· :: cs) (List.cons.inj heq).1)

/-! ## Readers -/

/-- A reader that gives a result and what is left, neither of which depends on what stands behind a
closing parenthesis. -/
def Local {α : Type} (read : List Char → Except Error (α × List Char)) : Prop :=
  ∀ (lost : Bool) (cs : List Char) (a : α) (after : List Char), (lost = true → cs = []) →
    read cs = .ok (a, after) → ∃ lost', Passes lost cs lost' after ∧ ∀ more, Quiet lost' more →
      read (grow lost more cs) = .ok (a, grow lost' more after)

/-- A text in braces, and what is left behind the closing brace. -/
def InBraces (blanks : Bool) (cs text rest : List Char) : Prop :=
  ∃ inner, skipBlanks blanks cs = '{' :: inner ∧
    takeChars blanks (· != '}') false inner = (text, '}' :: rest)

/-- The digits of a character escape are in braces or counted. Blanks behind them are still left. -/
inductive ReadsHex (blanks : Bool) (count : Nat) (cs : List Char) :
    Primitive → List Char → Prop where
  | braces {digits rest : List Char} {c : Char} (hbraces : InBraces blanks cs digits rest)
      (hc : hexChar? digits = some c) : ReadsHex blanks count cs (plain c) rest
  | counted {digits rest : List Char} {c : Char}
      (hother : ∀ inner, skipBlanks blanks cs ≠ '{' :: inner)
      (htake : takeHex blanks count (skipBlanks blanks cs) = some (digits, rest))
      (hc : hexChar? digits = some c) :
      ReadsHex blanks count cs (.literal ⟨c, count == 2⟩) rest

/-- A property is named in braces or by a letter. -/
inductive ReadsProperty (blanks negated : Bool) (cs : List Char) :
    Primitive → List Char → Prop where
  | braces {text rest : List Char} (hbraces : InBraces blanks cs text rest) :
      ReadsProperty blanks negated cs
        (.named (negated != (braceClass text).1) (braceClass text).2) rest
  | letter {c : Char} {rest : List Char} (hskip : skipBlanks blanks cs = c :: rest)
      (hbrace : c ≠ '{') (hescape : c ≠ '\\') :
      ReadsProperty blanks negated cs (.named negated (.property [c])) (skipBlanks blanks rest)

/-- A word boundary may have a name in braces. Braces around something else are left. -/
inductive ReadsBoundary (blanks : Bool) : List Char → Primitive → List Char → Prop where
  | named {inner behind name rest : List Char} {c : Char} {a : Anchor}
      (hskip : skipBlanks blanks inner = c :: behind) (hc : isBoundaryChar c = true)
      (htake : takeChars blanks isBoundaryChar false (c :: behind) = (name, '}' :: rest))
      (hname : boundaryNamed? name = some a) : ReadsBoundary blanks ('{' :: inner) (.anchor a) rest
  | counted {inner behind : List Char} {c : Char} (hskip : skipBlanks blanks inner = c :: behind)
      (hc : isBoundaryChar c = false) :
      ReadsBoundary blanks ('{' :: inner) (.anchor .wordBoundary) ('{' :: inner)
  | bare {cs : List Char} (hother : ∀ inner, cs ≠ '{' :: inner) :
      ReadsBoundary blanks cs (.anchor .wordBoundary) cs

section
variable {blanks negated lost : Bool} {count : Nat} {cs text rest after : List Char} {p : Primitive}

theorem InBraces.grow (hcs : lost = true → cs = []) (h : InBraces blanks cs text rest) :
    Passes lost cs false rest ∧
      ∀ more, InBraces blanks (grow lost more cs) text (rest ++ ')' :: more) := by
  obtain ⟨inner, hopen, htake⟩ := h
  obtain ⟨hpass, hskip⟩ := skipBlanks_grow lost hcs hopen
  exact ⟨hpass.tail.trans (passes_of_takeChars htake),
    fun more => ⟨_, hskip more, takeChars_append htake _⟩⟩

theorem ReadsHex.readHex_eq (h : ReadsHex blanks count cs p rest) :
    readHex blanks count cs = .ok (p, skipBlanks blanks rest) := by
  cases h with
  | braces hbraces hc =>
      obtain ⟨inner, hopen, htake⟩ := hbraces
      simp only [readHex, hopen, htake, hc]
  | counted hother htake hc =>
      unfold readHex
      split
      · next heq => exact absurd heq (hother _)
      · simp only [htake, hc]

theorem exists_digits_of_readHex (h : readHex blanks count cs = .ok (p, after)) :
    ∃ rest, ReadsHex blanks count cs p rest ∧ after = skipBlanks blanks rest := by
  unfold readHex at h
  split at h
  · next inner hopen =>
      split at h
      · next digits rest htake =>
          split at h
          · next c hc =>
              obtain ⟨rfl, rfl⟩ := Prod.mk.inj (Except.ok.inj h)
              exact ⟨rest, .braces ⟨inner, hopen, htake⟩ hc, rfl⟩
          · cases h
      · cases h
  · next hother =>
      split at h
      · next digits rest htake =>
          split at h
          · next c hc =>
              obtain ⟨rfl, rfl⟩ := Prod.mk.inj (Except.ok.inj h)
              exact ⟨rest, .counted hother htake hc, rfl⟩
          · cases h
      · cases h

/-- Digits are read in the same way whatever follows the text. -/
theorem ReadsHex.grow (hcs : lost = true → cs = []) (h : ReadsHex blanks count cs p rest) :
    ∃ lost', Passes lost cs lost' rest ∧ ∀ more, Quiet lost' more →
      ReadsHex blanks count (grow lost more cs) p (grow lost' more rest) := by
  cases h with
  | braces hbraces hc =>
      obtain ⟨hpass, hbraces'⟩ := hbraces.grow hcs
      exact ⟨false, hpass, fun more _ => .braces (hbraces' more) hc⟩
  | counted hother htake hc =>
      obtain ⟨lost₁, hskip, hgrow₁⟩ := passesOver_skipBlanks blanks lost cs hcs
      obtain ⟨lost₂, hpass, hgrow₂⟩ := passes_takeHex blanks count hskip.atEnd htake
      refine ⟨lost₂, hskip.trans hpass, fun more hmore => .counted ?_ ?_ hc⟩
      · -- No opening brace stands where there was none, so the digits are still counted.
        have hbrace : ('{' : Char) ≠ ')' := by decide
        rw [hgrow₁ more (hmore.mono hpass.stays)]
        exact grow_ne_cons hbrace hother lost₁ more
      · rw [hgrow₁ more (hmore.mono hpass.stays)]
        exact hgrow₂ more hmore

theorem ReadsProperty.readProperty_eq (h : ReadsProperty blanks negated cs p after) :
    readProperty blanks negated cs = .ok (p, after) := by
  cases h with
  | braces hbraces =>
      obtain ⟨inner, hopen, htake⟩ := hbraces
      simp only [readProperty, hopen, htake]
  | letter hskip hbrace hescape =>
      unfold readProperty
      rw [hskip]
      split
      · next heq => cases heq
      · next heq => exact absurd (List.cons.inj heq).1 hbrace
      · next heq =>
          obtain ⟨rfl, rfl⟩ := List.cons.inj heq
          rw [if_neg hescape]

theorem readsProperty_of_readProperty (h : readProperty blanks negated cs = .ok (p, after)) :
    ReadsProperty blanks negated cs p after := by
  unfold readProperty at h
  split at h
  · cases h
  · next inner hopen =>
      split at h
      · next text rest htake =>
          obtain ⟨rfl, rfl⟩ := Prod.mk.inj (Except.ok.inj h)
          exact .braces ⟨inner, hopen, htake⟩
      · cases h
  · next c rest hbrace hskip =>
      split at h
      · cases h
      · next hescape =>
          obtain ⟨rfl, rfl⟩ := Prod.mk.inj (Except.ok.inj h)
          exact .letter hskip hbrace hescape

/-- A property is read in the same way whatever follows the text. -/
theorem ReadsProperty.grow (hcs : lost = true → cs = [])
    (h : ReadsProperty blanks negated cs p after) :
    ∃ lost', Passes lost cs lost' after ∧ ∀ more, Quiet lost' more →
      ReadsProperty blanks negated (grow lost more cs) p (grow lost' more after) := by
  cases h with
  | braces hbraces =>
      obtain ⟨hpass, hbraces'⟩ := hbraces.grow hcs
      exact ⟨false, hpass, fun more _ => .braces (hbraces' more)⟩
  | @letter c rest hskip hbrace hescape =>
      obtain ⟨hpass, hskip'⟩ := skipBlanks_grow lost hcs hskip
      obtain ⟨lost', hbehind, hgrow⟩ := passesOver_skipBlanks blanks false rest nofun
      refine ⟨lost', hpass.tail.trans hbehind, fun more hmore => ?_⟩
      rw [← hgrow more hmore]
      exact .letter (hskip' more) hbrace hescape

theorem ReadsBoundary.readBoundary_eq (h : ReadsBoundary blanks cs p after) :
    readBoundary blanks cs = .ok (p, after) := by
  cases h with
  | named hskip hc htake hname => simp only [readBoundary, hskip, if_pos hc, htake, hname]
  | counted hskip hc => simp only [readBoundary, hskip, hc, Bool.false_eq_true, if_false]
  | bare hother =>
      unfold readBoundary
      split
      · next heq => exact absurd rfl (hother _)
      · rfl

theorem readsBoundary_of_readBoundary (h : readBoundary blanks cs = .ok (p, after)) :
    ReadsBoundary blanks cs p after := by
  unfold readBoundary at h
  split at h
  · next inner =>
      split at h
      · cases h
      · next c behind hskip =>
          split at h
          · next hc =>
              split at h
              · next name rest htake =>
                  split at h
                  · next a hname =>
                      obtain ⟨rfl, rfl⟩ := Prod.mk.inj (Except.ok.inj h)
                      exact .named hskip hc htake hname
                  · cases h
              · cases h
          · next hc =>
              obtain ⟨rfl, rfl⟩ := Prod.mk.inj (Except.ok.inj h)
              exact .counted hskip (Bool.eq_false_iff.2 hc)
  · next hother =>
      obtain ⟨rfl, rfl⟩ := Prod.mk.inj (Except.ok.inj h)
      exact .bare hother

/-- A word boundary is read in the same way whatever follows the text. -/
theorem ReadsBoundary.grow (hcs : lost = true → cs = []) (h : ReadsBoundary blanks cs p after) :
    Passes lost cs lost after ∧
      ∀ more, ReadsBoundary blanks (grow lost more cs) p (grow lost more after) := by
  cases h with
  | @named inner behind name rest c a hskip hc htake hname =>
      obtain rfl := eq_false_of_cons hcs
      obtain ⟨hpass, hskip'⟩ := skipBlanks_grow false nofun hskip
      refine ⟨(hpass.trans (passes_of_takeChars htake)).cons '{', fun more => ?_⟩
      exact .named (hskip' more) hc (takeChars_append htake _) hname
  | counted hskip hc =>
      obtain rfl := eq_false_of_cons hcs
      obtain ⟨-, hskip'⟩ := skipBlanks_grow false nofun hskip
      exact ⟨.refl nofun, fun more => .counted (hskip' more) hc⟩
  | bare hother =>
      have hbrace : ('{' : Char) ≠ ')' := by decide
      exact ⟨.refl hcs, fun more => .bare (grow_ne_cons hbrace hother lost more)⟩

end

theorem local_readHex (blanks : Bool) (count : Nat) : Local (readHex blanks count) := by
  intro lost cs p after hcs h
  obtain ⟨rest, hdigits, rfl⟩ := exists_digits_of_readHex h
  obtain ⟨lost₁, hpass, hgrow₁⟩ := hdigits.grow hcs
  obtain ⟨lost₂, hbehind, hgrow₂⟩ := passesOver_skipBlanks blanks lost₁ rest hpass.atEnd
  refine ⟨lost₂, hpass.trans hbehind, fun more hmore => ?_⟩
  rw [(hgrow₁ more (hmore.mono hbehind.stays)).readHex_eq, hgrow₂ more hmore]

theorem local_readProperty (blanks negated : Bool) : Local (readProperty blanks negated) := by
  intro lost cs p after hcs h
  obtain ⟨lost', hpass, hgrow⟩ := (readsProperty_of_readProperty h).grow hcs
  exact ⟨lost', hpass, fun more hmore => (hgrow more hmore).readProperty_eq⟩

theorem local_readBoundary (blanks : Bool) : Local (readBoundary blanks) := by
  intro lost cs p after hcs h
  obtain ⟨hpass, hgrow⟩ := (readsBoundary_of_readBoundary h).grow hcs
  exact ⟨lost, hpass, fun more _ => (hgrow more).readBoundary_eq⟩

/-- What a character begins is read as what follows it. -/
theorem Local.cons {α : Type} {read : List Char → Except Error (α × List Char)} (h : Local read)
    {cs after : List Char} {a : α} (hread : read cs = .ok (a, after)) (c : Char) :
    ∃ lost', Passes false (c :: cs) lost' after ∧ ∀ more, Quiet lost' more →
      read (cs ++ ')' :: more) = .ok (a, grow lost' more after) := by
  obtain ⟨lost', hpass, hgrow⟩ := h false cs a after nofun hread
  exact ⟨lost', hpass.cons c, hgrow⟩

theorem local_readEscape (blanks : Bool) : Local (readEscape blanks) := by
  intro lost cs p after hcs h
  cases cs with
  | nil => cases h
  | cons c cs =>
      obtain rfl := eq_false_of_cons hcs
      simp only [grow_false, List.cons_append]
      unfold readEscape at h ⊢
      dsimp only at h ⊢
      have hself {q : Primitive} (h : (Except.ok (q, cs) : Except Error _) = .ok (p, after)) :
          ∃ lost', Passes false (c :: cs) lost' after ∧ ∀ more, Quiet lost' more →
            (Except.ok (q, cs ++ ')' :: more) : Except Error _) =
              .ok (p, grow lost' more after) := by
        obtain ⟨rfl, rfl⟩ := Prod.mk.inj (Except.ok.inj h)
        exact ⟨false, ⟨id, nofun, Nat.le_succ _⟩, fun _ _ => rfl⟩
      split at h
      · next hc =>
          simp only [if_pos hc]
          exact hself h
      · next hc =>
          simp only [if_neg hc]
          split at h
          · exact (local_readHex blanks 2).cons h _
          · exact (local_readHex blanks 4).cons h _
          · exact (local_readHex blanks 8).cons h _
          · exact (local_readProperty blanks false).cons h _
          · exact (local_readProperty blanks true).cons h _
          all_goals first
            | exact hself h
            | exact (local_readBoundary blanks).cons h _
            | cases h

theorem local_readItem (blanks : Bool) (c : Char) : Local (readItem blanks c) := by
  intro lost cs p after hcs h
  unfold readItem at h ⊢
  split at h
  · next hc =>
      simp only [if_pos hc]
      exact local_readEscape blanks lost cs p after hcs h
  · next hc =>
      simp only [if_neg hc]
      obtain ⟨rfl, rfl⟩ := Prod.mk.inj (Except.ok.inj h)
      exact ⟨lost, .refl hcs, fun _ _ => rfl⟩

/-! ## Numbers, repetitions and ranges -/

theorem passes_readDecimal (blanks lost : Bool) (cs : List Char) (hcs : lost = true → cs = []) :
    ∃ lost', Passes lost cs lost' (readDecimal blanks cs).2 ∧ ∀ more, Quiet lost' more →
      readDecimal blanks (grow lost more cs) =
        ((readDecimal blanks cs).1, grow lost' more (readDecimal blanks cs).2) := by
  obtain ⟨lost₁, hbefore, hgrow₁⟩ := passesOver_dropBlanks lost cs hcs
  obtain ⟨lost₂, hdigits, hgrow₂⟩ :=
    passes_takeChars blanks Char.isDigit (by decide) lost₁ _ hbefore.atEnd
  obtain ⟨lost₃, hbehind, hgrow₃⟩ := passesOver_dropBlanks lost₂ _ hdigits.atEnd
  refine ⟨lost₃, hbefore.trans (hdigits.trans hbehind), fun more hmore => ?_⟩
  have hmore₂ := hmore.mono hbehind.stays
  have hmore₁ := hmore₂.mono hdigits.stays
  simp only [readDecimal, hgrow₁ more hmore₁, hgrow₂ more hmore₂, hgrow₃ more hmore]

theorem laziness_grow (lost : Bool) (more cs : List Char)
    (hcs : lost = true → cs = []) : laziness (grow lost more cs) = laziness cs := by
  cases lost with
  | true =>
      obtain rfl := hcs rfl
      rfl
  | false =>
      cases cs with
      | nil => rfl
      | cons c cs =>
          rw [grow_false, List.cons_append]
          unfold laziness
          split
          · next heq =>
              obtain ⟨rfl, -⟩ := List.cons.inj heq
              rfl
          · next hother =>
              split
              · next heq =>
                  obtain ⟨rfl, -⟩ := List.cons.inj heq
                  exact absurd rfl (hother _)
              · rfl

/-- Whether a character behind a hyphen lets the hyphen stand for itself. -/
def endsRange (next : Option Char) : Bool := next == some ']' || next == some '-'

theorem peekRange_go_append (sign : Bool) (cs more : List Char) :
    peekRange.go sign (cs ++ ')' :: more) = (peekRange.go sign cs).or (some ')') := by
  induction cs generalizing sign with
  | nil =>
      have hblank : isBlank ')' = false := by decide
      simp [peekRange.go, hblank]
  | cons c cs ih =>
      rw [List.cons_append]
      simp only [peekRange.go]
      split
      · exact ih sign
      · split
        · exact ih true
        · rfl

/-- If only blanks and a number sign are left, the hyphen makes a range. -/
theorem endsRange_head? {sign : Bool} {cs : List Char} (h : peekRange.go sign cs = none) :
    endsRange cs.head? = false := by
  cases cs with
  | nil => rfl
  | cons c cs =>
      rw [List.head?_cons]
      apply Bool.eq_false_iff.2
      intro hends
      have hc : c = ']' ∨ c = '-' := by
        simpa [endsRange] using hends
      have hplain : isBlank c = false ∧ c ≠ '#' := by
        rcases hc with rfl | rfl <;> decide
      simp [peekRange.go, hplain.1, hplain.2] at h

theorem endsRange_peekRange (blanks : Bool) (cs more : List Char) :
    endsRange (peekRange blanks (cs ++ ')' :: more)) = endsRange (peekRange blanks cs) := by
  have hclose : endsRange (some ')') = false := by decide
  cases blanks with
  | false =>
      cases cs with
      | nil => exact hclose
      | cons c cs => rfl
  | true =>
      simp only [peekRange, if_true]
      rw [peekRange_go_append]
      cases h : peekRange.go false cs with
      | some c => rfl
      | none => exact hclose.trans (endsRange_head? h).symm

/-! ## Names of ASCII classes -/

theorem asciiClass?_eq_none {name : List Char} (h : ')' ∈ name) : asciiClass? name = none := by
  have hname {text : String} (htext : ')' ∉ text.toList) : String.ofList name ≠ text := by
    rintro rfl
    exact htext (by simpa using h)
  unfold asciiClass?
  split
  all_goals first
    | rfl
    | (next heq => exact absurd heq (hname (by decide)))

theorem asciiClassAt?_named_append (negated : Bool) (before : Nat) (cs more : List Char) :
    asciiClassAt?.named negated before (cs ++ ')' :: more) =
      asciiClassAt?.named negated before cs := by
  by_cases hcolon : ':' ∈ cs
  · obtain ⟨name, behind, rfl, hname⟩ := List.eq_append_cons_of_mem hcolon
    have htake (behind : List Char) : (name ++ ':' :: behind).takeWhile (· != ':') = name := by
      rw [takeWhile_ne_append hname]
      simp
    rw [List.append_assoc, List.cons_append]
    simp only [asciiClassAt?.named, htake, List.drop_left]
    match behind with
    | [] => rfl
    | ']' :: behind => rfl
    | c :: behind =>
        rw [List.cons_append]
        split
        · next heq =>
            obtain ⟨rfl, -⟩ := List.cons.inj (List.cons.inj heq).2
            rfl
        · next hother =>
            split
            · next heq =>
                obtain ⟨rfl, -⟩ := List.cons.inj (List.cons.inj heq).2
                exact absurd rfl (hother _)
            · rfl
  · have hnone : asciiClassAt?.named negated before cs = none := by
      have htake : cs.takeWhile (· != ':') = cs := by
        simpa using takeWhile_ne_append hcolon []
      simp only [asciiClassAt?.named, htake, List.drop_length]
    have hname : asciiClass? ((cs ++ ')' :: more).takeWhile (· != ':')) = none := by
      apply asciiClass?_eq_none
      rw [takeWhile_ne_append hcolon]
      simp
    rw [hnone]
    simp only [asciiClassAt?.named, hname]
    split <;> rfl

theorem asciiClassAt?_append (cs more : List Char) :
    asciiClassAt? (cs ++ ')' :: more) = asciiClassAt? cs := by
  cases cs with
  | nil => rfl
  | cons c cs =>
      by_cases hc : c = ':'
      · subst hc
        cases cs with
        | nil => exact asciiClassAt?_named_append false 1 [] more
        | cons d cs =>
            by_cases hd : d = '^'
            · subst hd
              exact asciiClassAt?_named_append true 2 cs more
            · have hhead (behind : List Char) : asciiClassAt? (':' :: d :: behind) =
                  asciiClassAt?.named false 1 (d :: behind) := by
                simp [asciiClassAt?, hd]
              rw [List.cons_append, List.cons_append, hhead, hhead]
              exact asciiClassAt?_named_append false 1 (d :: cs) more
      · have hnone (behind : List Char) : asciiClassAt? (c :: behind) = none := by
          simp [asciiClassAt?, hc]
        rw [List.cons_append, hnone, hnone]

end PathRouter.Regex.Parser
