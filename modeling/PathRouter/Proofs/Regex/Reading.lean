import PathRouter.Regex.Basic

/-!
# What a reader makes of a text

The parts of which the expressions of patterns are put together, and what is read of each: escaped
text, the two kinds of groups, a class with one repetition, and the mark behind an optional group.
Every statement holds before any further text that cannot be taken for a part of what was read.
-/

namespace PathRouter.Regex

open Text (consume usedUp)

namespace Parser

theorem takeWhile_ne_append {c : Char} {cs : List Char} (h : c ∉ cs) (behind : List Char) :
    (cs ++ behind).takeWhile (· != c) = cs ++ behind.takeWhile (· != c) := by
  apply List.takeWhile_append_of_pos
  intro d hd
  exact bne_iff_ne.2 fun heq => h (heq ▸ hd)

/-- A state outside classes in which blanks are not passed over. -/
def outside (level : Level) (outer : List Level) (groups : Nat) (names : List String) : State :=
  ⟨level, outer, [], false, groups, names⟩

def Level.add (l : Level) (items : List Expr) : Level :=
  { l with items := items.reverse ++ l.items }

/-- A group in which nothing has been read. -/
def Level.opened (kind : GroupKind) : Level := ⟨kind, [], [], false⟩

theorem Level.expr_add_opened (kind : GroupKind) (items : List Expr) :
    ((opened kind).add items).expr = .ofItems items := by
  simp [add, opened, expr, Expr.ofBranches]

theorem Level.add_add (l : Level) (as bs : List Expr) : (l.add as).add bs = l.add (as ++ bs) := by
  simp [add]

/-- The characters that have a meaning of their own outside classes. -/
def operators : List Char := ['(', ')', '|', '[', '?', '*', '+', '\x7b', '\\', '.', '^', '$']

theorem operators_subset : operators ⊆ metaChars := by decide

section Outside
variable (level : Level) (outer : List Level) (groups : Nat) (names : List String)

/-- A character without a meaning of its own stands for itself. -/
theorem step_plain {c : Char} (hc : c ∉ operators) (rest : List Char) :
    step (outside level outer groups names) c rest =
      .ok (outside (level.add [.literal ⟨c, false⟩]) outer groups names, 0) := by
  change itemStep _ c rest = _
  unfold itemStep
  split <;> first | exact absurd (by decide) hc | rfl

/-- Text without operators is read as its characters. -/
theorem consume_plain {text : List Char} (h : ∀ c ∈ text, c ∉ operators) (rest : List Char) :
    consume step 0 (outside level outer groups names) (text ++ rest) =
      consume step 0
        (outside (level.add (text.map fun c => .literal ⟨c, false⟩)) outer groups names) rest := by
  induction text generalizing level with
  | nil => rfl
  | cons c text ih =>
      obtain ⟨hc, htext⟩ := List.forall_mem_cons.1 h
      calc
        consume step 0 (outside level outer groups names) (c :: (text ++ rest)) =
            consume step 0 (outside (level.add [.literal ⟨c, false⟩]) outer groups names)
              (text ++ rest) :=
          Text.consume_cons_of_step_zero (step_plain level outer groups names hc _)
        _ = consume step 0 (outside ((level.add [.literal ⟨c, false⟩]).add
              (text.map fun c => .literal ⟨c, false⟩)) outer groups names) rest := ih _ htext
        _ = _ := by
          rw [Level.add_add]
          rfl

/-- A character with a meaning of its own stands for itself behind a backslash. -/
theorem step_escaped {c : Char} (hc : c ∈ metaChars) (rest : List Char) :
    step (outside level outer groups names) '\\' (c :: rest) =
      .ok (outside (level.add [.literal ⟨c, false⟩]) outer groups names, 1) := by
  have hall : metaChars.all standsForItself = true := by decide
  have hself : standsForItself c = true := List.all_eq_true.1 hall c hc
  have hread : readEscape false (c :: rest) = .ok (plain c, rest) := by
    unfold readEscape
    exact if_pos hself
  change (readEscape false (c :: rest) >>= fun _ => _) = _
  rw [hread]
  change Except.ok (_, usedUp ([c] ++ rest) rest) = _
  rw [Text.usedUp_append]
  rfl

/-- Escaped text is read as the characters of the text. -/
theorem consume_escapeChars (text rest : List Char) :
    consume step 0 (outside level outer groups names) (escapeChars text ++ rest) =
      consume step 0
        (outside (level.add (text.map fun c => .literal ⟨c, false⟩)) outer groups names) rest := by
  induction text generalizing level with
  | nil => rfl
  | cons c text ih =>
      have hadd : level.add ((c :: text).map fun c => .literal ⟨c, false⟩) =
          (level.add [.literal ⟨c, false⟩]).add (text.map fun c => .literal ⟨c, false⟩) := by
        rw [Level.add_add]
        rfl
      rw [hadd, ← ih]
      by_cases hc : c ∈ metaChars
      · have hsource : escapeChars (c :: text) ++ rest =
            '\\' :: ([c] ++ (escapeChars text ++ rest)) := by
          simp [escapeChars, hc]
        rw [hsource]
        exact Text.consume_cons_of_step (step_escaped level outer groups names hc _)
      · have hsource : escapeChars (c :: text) ++ rest = c :: (escapeChars text ++ rest) := by
          simp [escapeChars, hc]
        have hplain : c ∉ operators := fun hmem => hc (operators_subset hmem)
        rw [hsource]
        exact Text.consume_cons_of_step_zero (step_plain level outer groups names hplain _)

theorem consume_lineStart (rest : List Char) :
    consume step 0 (outside level outer groups names) ('^' :: rest) =
      consume step 0 (outside (level.add [.anchor .lineStart]) outer groups names) rest :=
  Text.consume_cons_of_step_zero rfl

theorem consume_lineEnd (rest : List Char) :
    consume step 0 (outside level outer groups names) ('$' :: rest) =
      consume step 0 (outside (level.add [.anchor .lineEnd]) outer groups names) rest :=
  Text.consume_cons_of_step_zero rfl

/-- A group that captures nothing begins. -/
theorem consume_openPlain (rest : List Char) :
    consume step 0 (outside level outer groups names) ("(?:".toList ++ rest) =
      consume step 0 (outside (.opened (.plain [])) (level :: outer) groups names) rest := by
  have hopening : readOpening (groups + 1) names ("?:".toList ++ rest) =
      .ok (.group (.plain []), rest) := rfl
  have hstep : step (outside level outer groups names) '(' ("?:".toList ++ rest) =
      .ok (outside (.opened (.plain [])) (level :: outer) groups names, "?:".toList.length) := by
    change (readOpening (groups + 1) names ("?:".toList ++ rest) >>= fun _ => _) = _
    rw [hopening, ← Text.usedUp_append "?:".toList rest]
    rfl
  exact Text.consume_cons_of_step hstep

theorem readOpening_named {name : List Char} (hname : isGroupName name = true) (hend : '>' ∉ name)
    (rest : List Char) :
    readOpening (groups + 1) names ("?P<".toList ++ (name ++ '>' :: rest)) =
      if String.ofList name ∈ names then .error .malformed
      else .ok (.group (.capture (groups + 1) (some (String.ofList name))), rest) := by
  have htake : (name ++ '>' :: rest).takeWhile (· != '>') = name := by
    rw [takeWhile_ne_append hend]
    simp
  change readName (groups + 1) names (name ++ '>' :: rest) = _
  by_cases htaken : String.ofList name ∈ names <;> simp [readName, htake, hname, htaken]

/-- A group with a name that no other group has begins. -/
theorem consume_openNamed {name : List Char} (hname : isGroupName name = true) (hend : '>' ∉ name)
    (hnew : String.ofList name ∉ names) (rest : List Char) :
    consume step 0 (outside level outer groups names)
      ("(?P<".toList ++ (name ++ '>' :: rest)) =
      consume step 0 (outside (.opened (.capture (groups + 1) (some (String.ofList name))))
        (level :: outer) (groups + 1) (String.ofList name :: names)) rest := by
  have hsplit : "?P<".toList ++ (name ++ '>' :: rest) =
      ("?P<".toList ++ (name ++ ['>'])) ++ rest := by simp
  have hopening := readOpening_named groups names hname hend rest
  rw [hsplit, if_neg hnew] at hopening
  have hstep : step (outside level outer groups names) '('
      (("?P<".toList ++ (name ++ ['>'])) ++ rest) =
      .ok (outside (.opened (.capture (groups + 1) (some (String.ofList name)))) (level :: outer)
        (groups + 1) (String.ofList name :: names), ("?P<".toList ++ (name ++ ['>'])).length) := by
    change (readOpening (groups + 1) names (("?P<".toList ++ (name ++ ['>'])) ++ rest) >>=
      fun _ => _) = _
    rw [hopening, ← Text.usedUp_append ("?P<".toList ++ (name ++ ['>'])) rest]
    rfl
  have hconsume := Text.consume_cons_of_step hstep
  rwa [← hsplit] at hconsume

/-- A group cannot have the name of another one. -/
theorem consume_openNamed_taken {name : List Char} (hname : isGroupName name = true)
    (hend : '>' ∉ name) (htaken : String.ofList name ∈ names) (rest : List Char) :
    consume step 0 (outside level outer groups names)
      ("(?P<".toList ++ (name ++ '>' :: rest)) = .error .malformed := by
  have hopening := readOpening_named groups names hname hend rest
  rw [if_pos htaken] at hopening
  have hstep : step (outside level outer groups names) '('
      ("?P<".toList ++ (name ++ '>' :: rest)) = .error .malformed := by
    change (readOpening (groups + 1) names ("?P<".toList ++ (name ++ '>' :: rest)) >>=
      fun _ => _) = _
    rw [hopening]
    rfl
  change consume step 0 _ ('(' :: ("?P<".toList ++ (name ++ '>' :: rest))) = _
  rw [consume, hstep]

/-- A group ends. -/
theorem consume_close {inner : Level} (hblanks : inner.blanksBehind = false) (rest : List Char) :
    consume step 0 (outside inner (level :: outer) groups names) (')' :: rest) =
      consume step 0 (outside (level.add [.group inner.kind inner.expr]) outer groups names)
        rest := by
  have hstep : step (outside inner (level :: outer) groups names) ')' rest =
      .ok (outside (level.add [.group inner.kind inner.expr]) outer groups names, 0) := by
    change Except.ok (({ outside inner (level :: outer) groups names with
      level := level, outer := outer, blanks := inner.blanksBehind } : State).push
        (.group inner.kind inner.expr), 0) = _
    rw [hblanks]
    rfl
  exact Text.consume_cons_of_step_zero hstep

/-- A mark for a repetition that another question mark does not follow. -/
theorem readRepetition_greedy {e : Expr} (he : ∀ change, e ≠ .flags change) (min : Nat)
    (max : Option Nat) {rest : List Char} (hrest : rest.head? ≠ some '?') :
    readRepetition (outside (level.add [e]) outer groups names) min max rest =
      .ok (outside (level.add [.repetition min max false e]) outer groups names, 0) := by
  have hlazy : laziness rest = (false, 0) := by
    unfold laziness
    split
    · exact absurd rfl hrest
    · rfl
  cases e with
  | flags change => exact absurd rfl (he change)
  | _ =>
      simp only [readRepetition, hlazy]
      rfl

theorem consume_optional {e : Expr} (he : ∀ change, e ≠ .flags change) {rest : List Char}
    (hrest : rest.head? ≠ some '?') :
    consume step 0 (outside (level.add [e]) outer groups names) ('?' :: rest) =
      consume step 0 (outside (level.add [.repetition 0 (some 1) false e]) outer groups names)
        rest := by
  have hstep := readRepetition_greedy level outer groups names he 0 (some 1) hrest
  exact Text.consume_cons_of_step_zero hstep

theorem consume_oneOrMore {e : Expr} (he : ∀ change, e ≠ .flags change) {rest : List Char}
    (hrest : rest.head? ≠ some '?') :
    consume step 0 (outside (level.add [e]) outer groups names) ('+' :: rest) =
      consume step 0 (outside (level.add [.repetition 1 none false e]) outer groups names)
        rest := by
  have hstep := readRepetition_greedy level outer groups names he 1 none hrest
  exact Text.consume_cons_of_step_zero hstep

/-! ## Classes -/

/-- A state in a class in which `items` have been read, the last one first. -/
def inClass (negated : Bool) (items : List ClassExpr) : State :=
  ⟨level, outer, [⟨negated, none, items⟩], false, groups, names⟩

/-- The characters that have a meaning of their own in a class. -/
def classChars : List Char := ['[', ']', '&', '-', '~', '\\', '^']

theorem consume_openClass {c : Char} (hc : c ∉ classChars) (rest : List Char) :
    consume step 0 (outside level outer groups names) ('[' :: c :: rest) =
      consume step 0 (inClass level outer groups names false []) (c :: rest) := by
  have hopen : openClass (outside level outer groups names) (c :: rest) =
      (inClass level outer groups names false [], 0) := by
    simp only [classChars, List.mem_cons, not_or] at hc
    simp [openClass, outside, inClass, skipBlanks, takeChars, usedUp, hc]
  apply Text.consume_cons_of_step_zero
  exact congrArg Except.ok hopen

theorem consume_openNegated {c : Char} (hc : c ∉ classChars) (rest : List Char) :
    consume step 0 (outside level outer groups names) ('[' :: '^' :: c :: rest) =
      consume step 0 (inClass level outer groups names true []) (c :: rest) := by
  have hopen : openClass (outside level outer groups names) (['^'] ++ c :: rest) =
      (inClass level outer groups names true [], ['^'].length) := by
    simp only [classChars, List.mem_cons, not_or] at hc
    simp [openClass, outside, inClass, skipBlanks, takeChars, usedUp, hc]
  have hstep : step (outside level outer groups names) '[' (['^'] ++ c :: rest) =
      .ok (inClass level outer groups names true [], ['^'].length) := congrArg Except.ok hopen
  exact Text.consume_cons_of_step hstep

/-- A character without a meaning of its own begins an item of a class. -/
theorem step_inClass {c : Char} (hc : c ∉ classChars) (negated : Bool) (items : List ClassExpr)
    (rest : List Char) :
    step (inClass level outer groups names negated items) c rest =
      readClassItem (inClass level outer groups names negated items) c rest := by
  change classStep _ c rest = _
  unfold classStep
  split <;> first | exact absurd (by decide) hc | rfl

theorem consume_range {a b : Char} (ha : a ∉ classChars) (hb : b ∉ classChars) (hab : a ≤ b)
    (negated : Bool) (items : List ClassExpr) (rest : List Char) :
    consume step 0 (inClass level outer groups names negated items) (a :: '-' :: b :: rest) =
      consume step 0 (inClass level outer groups names negated
        (.range ⟨a, false⟩ ⟨b, false⟩ :: items)) rest := by
  have hitem : readClassItem (inClass level outer groups names negated items) a
      (['-', b] ++ rest) =
      .ok (inClass level outer groups names negated (.range ⟨a, false⟩ ⟨b, false⟩ :: items),
        ['-', b].length) := by
    simp only [classChars, List.mem_cons, not_or] at ha hb
    simp [readClassItem, readItem, inClass, skipBlanks, peekRange, plain, State.pushClass, usedUp,
      ha, hb, hab, bind, Except.bind, pure, Except.pure]
    omega
  rw [← step_inClass level outer groups names ha] at hitem
  exact Text.consume_cons_of_step hitem

theorem consume_single {c d : Char} (hc : c ∉ classChars) (hd : d ≠ '-') (negated : Bool)
    (items : List ClassExpr) (rest : List Char) :
    consume step 0 (inClass level outer groups names negated items) (c :: d :: rest) =
      consume step 0 (inClass level outer groups names negated (.literal ⟨c, false⟩ :: items))
        (d :: rest) := by
  have hitem : readClassItem (inClass level outer groups names negated items) c (d :: rest) =
      .ok (inClass level outer groups names negated (.literal ⟨c, false⟩ :: items), 0) := by
    simp only [classChars, List.mem_cons, not_or] at hc
    simp [readClassItem, readItem, inClass, skipBlanks, plain, State.pushClass, usedUp,
      Primitive.classItem, hc, hd, bind, Except.bind, pure, Except.pure]
  apply Text.consume_cons_of_step_zero
  rw [step_inClass level outer groups names hc]
  exact hitem

theorem consume_closeClass (negated : Bool) (items : List ClassExpr) (rest : List Char) :
    consume step 0 (inClass level outer groups names negated items) (']' :: rest) =
      consume step 0 (outside (level.add [.chars (.bracket negated (.ofItems items.reverse))])
        outer groups names) rest :=
  Text.consume_cons_of_step_zero rfl

end Outside

end Parser

open PathRouter.Regex.Parser in
/-- Items that are read to the end outside groups make up the whole expression. -/
theorem parse_of_consume {source : String} {items : List Expr} {groups : Nat} {names : List String}
    (hread : consume step 0 (outside (.opened (.plain [])) [] 0 []) source.toList =
      .ok (outside ((Level.opened (.plain [])).add items) [] groups names))
    (hdepth : (Expr.ofItems items).depth ≤ maxDepth) : parse source = .ok (.ofItems items) := by
  have hexpr := Level.expr_add_opened (.plain []) items
  have hinitial : State.initial = outside (.opened (.plain [])) [] 0 [] := rfl
  have hfinish : (outside ((Level.opened (.plain [])).add items) [] groups names).finish =
      .ok (.ofItems items) := congrArg Except.ok hexpr
  have hresult : parse source = if (Expr.ofItems items).depth ≤ maxDepth then
      Except.ok (.ofItems items) else .error .malformed := by
    simp only [parse, hinitial, hread, hfinish, bind, Except.bind, pure, Except.pure]
    rfl
  rw [hresult, if_pos hdepth]

end PathRouter.Regex
