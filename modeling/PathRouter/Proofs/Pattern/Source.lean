import PathRouter.Pattern.Matcher
import PathRouter.Proofs.Pattern.Scan
import PathRouter.Proofs.Pattern.ValueClass
import PathRouter.Proofs.Text.Digit

/-!
# The expression of a pattern

If every placeholder stands for a built-in class, the expression of a pattern is always read,
whatever its literal text and its names are: the groups get numbers, not names of the pattern, and
literal text is escaped. This module gives the syntax tree that is read.
-/

namespace PathRouter.Pattern

open Regex (Expr GroupKind)
open Text (isDigit_of_mem_repr number_repr repr_toList_ne_nil)

/-- The class of the values of placeholders with a tag, if the tag stands for a built-in
expression. -/
def TypeRegistry.valueClass? (types : TypeRegistry) (tag : String) : Option ValueClass :=
  ValueClass.ofFragment? (types.resolve tag).fragment

/-- All tags stand for built-in expressions. -/
def BuiltIn (types : TypeRegistry) (segments : List Segment) : Prop :=
  ∀ p, .placeholder p ∈ segments →
    (types.resolve p.tag).fragment ∈ TypeRegistry.builtInTypes.map (·.2)

instance (types : TypeRegistry) (segments : List Segment) : Decidable (BuiltIn types segments) :=
  decidable_of_iff (∀ p ∈ Segment.placeholders segments,
    (types.resolve p.tag).fragment ∈ TypeRegistry.builtInTypes.map (·.2))
    (forall_congr' fun _ => imp_congr Segment.mem_placeholders_iff Iff.rfl)

theorem BuiltIn.tail {types : TypeRegistry} {segment : Segment} {segments : List Segment}
    (h : BuiltIn types (segment :: segments)) : BuiltIn types segments :=
  fun p hp => h p (List.mem_cons_of_mem _ hp)

theorem BuiltIn.valueClass {types : TypeRegistry} {p : Placeholder} {segments : List Segment}
    (h : BuiltIn types (.placeholder p :: segments)) : ∃ k, types.valueClass? p.tag = some k :=
  ValueClass.mem_builtInTypes_iff.1 (h p List.mem_cons_self)

theorem fragment_of_valueClass? {types : TypeRegistry} {tag : String} {k : ValueClass}
    (h : types.valueClass? tag = some k) : (types.resolve tag).fragment = k.fragment :=
  ValueClass.ofFragment?_eq_some_iff.1 h

/-! ## Names of groups -/

/-- The name of the group for the value of the `ordinal`th placeholder with a name. -/
def groupName (ordinal : Nat) : List Char := groupStem ++ (Nat.repr ordinal).toList

/-- The number of a group is read off its name. -/
theorem groupOrdinal?_groupName (ordinal : Nat) :
    groupOrdinal? (groupName ordinal) = some ordinal := by
  have hdigits : (Nat.repr ordinal).toList.all Char.isDigit = true :=
    List.all_eq_true.2 fun c hc => isDigit_of_mem_repr hc
  have hempty : (Nat.repr ordinal).toList.isEmpty = false :=
    List.isEmpty_eq_false_iff.2 (repr_toList_ne_nil ordinal)
  have hplus : (Nat.repr ordinal).toList.head? ≠ some '+' := by
    intro h
    exact absurd (isDigit_of_mem_repr (List.mem_of_mem_head? h)) (by decide)
  have hnumber := number_repr ordinal
  simp only [groupOrdinal?, groupName, List.isPrefixOf_iff_prefix, List.prefix_append, if_true,
    List.drop_left]
  cases h : (Nat.repr ordinal).toList with
  | nil => exact absurd h (repr_toList_ne_nil ordinal)
  | cons c cs =>
      rw [h] at hdigits hempty hplus hnumber
      unfold Text.signedNumber?
      split
      · next heq => exact absurd (congrArg List.head? heq) hplus
      · simp only [hempty, hdigits, hnumber, Bool.not_false, Bool.true_and, if_true]

theorem groupName_injective {m n : Nat} (h : groupName m = groupName n) : m = n := by
  have hm := groupOrdinal?_groupName m
  rw [h, groupOrdinal?_groupName n] at hm
  exact (Option.some.inj hm).symm

theorem isGroupName_groupName (ordinal : Nat) :
    Regex.Parser.isGroupName (groupName ordinal) = true := by
  have hdigits : (Nat.repr ordinal).toList.all Regex.Parser.continuesName = true := by
    apply List.all_eq_true.2
    intro c hc
    simp [Regex.Parser.continuesName, Char.isAlphanum, isDigit_of_mem_repr hc]
  change Regex.Parser.isGroupName ('_' :: ("_bkt".toList ++ (Nat.repr ordinal).toList)) = true
  rw [Regex.Parser.isGroupName, List.all_append, hdigits]
  decide

theorem not_mem_groupName (ordinal : Nat) : '>' ∉ groupName ordinal := by
  intro h
  rcases List.mem_append.1 h with h | h
  · exact absurd h (by decide)
  · exact absurd (isDigit_of_mem_repr h) (by decide)

/-! ## Syntax trees -/

def literalExprs (text : List Char) : List Expr := text.map fun c => .literal ⟨c, false⟩

namespace Placeholder

/-- The kind of the group for the value of a placeholder. -/
def valueKind (p : Placeholder) (ordinal : Nat) : GroupKind :=
  if p.isAnonymous then .plain []
  else .capture (ordinal + 1) (some (String.ofList (groupName ordinal)))

/-- The syntax tree of a placeholder that must be there. -/
def requiredExpr (k : ValueClass) (ordinal : Nat) (p : Placeholder) : Expr :=
  .group (.plain []) (.ofItems (literalExprs p.lead.text ++
    [.group (p.valueKind ordinal) k.expr]))

/-- The syntax tree of a placeholder. -/
def expr (k : ValueClass) (ordinal : Nat) (p : Placeholder) : Expr :=
  if p.optional then .repetition 0 (some 1) false (p.requiredExpr k ordinal)
  else p.requiredExpr k ordinal

/-- The number of the next group behind a placeholder. -/
def nextOrdinal (p : Placeholder) (ordinal : Nat) : Nat :=
  if p.isAnonymous then ordinal else ordinal + 1

end Placeholder

def segmentExprs (types : TypeRegistry) (ordinal : Nat) : List Segment → List Expr
  | [] => []
  | .literal text :: rest => literalExprs text ++ segmentExprs types ordinal rest
  | .placeholder p :: rest =>
    ((types.valueClass? p.tag).elim .empty fun k => p.expr k ordinal) ::
      segmentExprs types (p.nextOrdinal ordinal) rest

/-! ## Reading -/

section Reading
open Regex.Parser Text
variable (level : Level) (outer : List Level)

/-- All names are those of earlier groups. -/
def Numbered (ordinal : Nat) (names : List String) : Prop :=
  ∀ name ∈ names, ∃ n, n < ordinal ∧ name = String.ofList (groupName n)

theorem Numbered.not_mem {ordinal : Nat} {names : List String} (h : Numbered ordinal names) :
    String.ofList (groupName ordinal) ∉ names := by
  intro hmem
  obtain ⟨n, hn, hname⟩ := h _ hmem
  have := groupName_injective (String.ofList_injective hname)
  omega

theorem Numbered.cons {ordinal : Nat} {names : List String} (h : Numbered ordinal names) :
    Numbered (ordinal + 1) (String.ofList (groupName ordinal) :: names) := by
  intro name hname
  rcases List.mem_cons.1 hname with rfl | hname
  · exact ⟨ordinal, Nat.lt_succ_self _, rfl⟩
  · obtain ⟨n, hn, rfl⟩ := h name hname
    exact ⟨n, Nat.lt_succ_of_lt hn, rfl⟩

/-- The group for a value is opened, whatever the placeholder is called. -/
theorem consume_valueGroup (p : Placeholder) {ordinal : Nat} {names : List String}
    (hnames : Numbered ordinal names) (text : List Char) :
    ∃ names', Numbered (p.nextOrdinal ordinal) names' ∧
      consume step 0 (outside level outer ordinal names)
        (valueGroup p.isAnonymous ordinal ++ text) =
        consume step 0 (outside (.opened (p.valueKind ordinal)) (level :: outer)
          (p.nextOrdinal ordinal) names') text := by
  cases hp : p.isAnonymous with
  | true =>
      refine ⟨names, ?_, ?_⟩
      · simpa [Placeholder.nextOrdinal, hp] using hnames
      · simp only [valueGroup, Placeholder.valueKind, Placeholder.nextOrdinal, hp, if_true]
        exact consume_openPlain level outer ordinal names text
  | false =>
      refine ⟨String.ofList (groupName ordinal) :: names, ?_, ?_⟩
      · simpa [Placeholder.nextOrdinal, hp] using hnames.cons
      · have hopen := consume_openNamed level outer ordinal names (isGroupName_groupName ordinal)
          (not_mem_groupName ordinal) hnames.not_mem text
        simpa [valueGroup, Placeholder.valueKind, Placeholder.nextOrdinal, hp, groupName]
          using hopen

theorem head?_append_ne {cs ds : List Char} {c : Char} (hcs : cs.head? ≠ some c)
    (hds : ds.head? ≠ some c) : (cs ++ ds).head? ≠ some c := by
  cases cs with
  | nil => exact hds
  | cons d cs => exact hcs

/-- The pieces of which the expression of a placeholder is put together. -/
theorem source_append (types : TypeRegistry) (ordinal : Nat) (p : Placeholder)
    (text : List Char) :
    p.source types ordinal ++ text =
      "(?:".toList ++ (Regex.escapeChars p.lead.text ++ (valueGroup p.isAnonymous ordinal ++
        ((types.resolve p.tag).fragment.toList ++ ("))".toList ++
          ((if p.optional then ['?'] else []) ++ text))))) := by
  change "(?:".toList ++ Regex.escapeChars p.lead.text ++ valueGroup p.isAnonymous ordinal ++
    (types.resolve p.tag).fragment.toList ++ "))".toList ++ (if p.optional then ['?'] else []) ++
    text = _
  simp only [List.append_assoc]

/-- The expression of a placeholder is read as its syntax tree. -/
theorem consume_placeholder {types : TypeRegistry} (p : Placeholder) {k : ValueClass}
    (hk : types.valueClass? p.tag = some k) {ordinal : Nat} {names : List String}
    (hnames : Numbered ordinal names) {text : List Char} (htext : text.head? ≠ some '?') :
    ∃ names', Numbered (p.nextOrdinal ordinal) names' ∧
      consume step 0 (outside level outer ordinal names) (p.source types ordinal ++ text) =
        consume step 0 (outside (level.add [p.expr k ordinal]) outer (p.nextOrdinal ordinal) names')
          text := by
  obtain ⟨names', hnames', hgroup⟩ := consume_valueGroup
    ((Level.opened (.plain [])).add (literalExprs p.lead.text)) (level :: outer) p hnames
    ((types.resolve p.tag).fragment.toList ++ ("))".toList ++
      ((if p.optional then ['?'] else []) ++ text)))
  refine ⟨names', hnames', ?_⟩
  have hclose : (')' :: ')' :: ((if p.optional then ['?'] else []) ++ text)).head? ≠ some '?' := by
    simp
  rw [source_append, consume_openPlain, consume_escapeChars]
  change consume step 0 (outside ((Level.opened (.plain [])).add (literalExprs p.lead.text))
    (level :: outer) ordinal names) _ = _
  rw [hgroup, fragment_of_valueClass? hk]
  change consume step 0 _ (k.fragment.toList ++
    (')' :: ')' :: ((if p.optional then ['?'] else []) ++ text))) = _
  rw [k.consume_fragment _ _ _ _ hclose, consume_close _ _ _ _ rfl, consume_close _ _ _ _ rfl]
  have hrequired : (Expr.group (((Level.opened (.plain [])).add (literalExprs p.lead.text)).add
      [.group ((Level.opened (p.valueKind ordinal)).add [k.expr]).kind
        ((Level.opened (p.valueKind ordinal)).add [k.expr]).expr]).kind
      (((Level.opened (.plain [])).add (literalExprs p.lead.text)).add
      [.group ((Level.opened (p.valueKind ordinal)).add [k.expr]).kind
        ((Level.opened (p.valueKind ordinal)).add [k.expr]).expr]).expr) =
      p.requiredExpr k ordinal := by
    simp [Level.add, Level.opened, Level.expr, Expr.ofBranches, Expr.ofItems,
      Placeholder.requiredExpr]
  rw [hrequired]
  cases hp : p.optional with
  | false => simp [Placeholder.expr, hp]
  | true =>
      have hflags (change : Regex.FlagChange) : p.requiredExpr k ordinal ≠ .flags change :=
        Expr.noConfusion
      simp only [if_true, List.singleton_append, Placeholder.expr, hp]
      exact consume_optional level outer _ _ hflags htext

theorem head?_escapeChars (text : List Char) : (Regex.escapeChars text).head? ≠ some '?' := by
  cases text with
  | nil => exact nofun
  | cons c text =>
      intro h
      by_cases hc : c ∈ Regex.metaChars
      · simp [Regex.escapeChars, hc] at h
      · simp only [Regex.escapeChars, List.flatMap_cons, if_neg hc, List.singleton_append,
          List.head?_cons, Option.some.injEq] at h
        exact hc (h ▸ by decide)

theorem head?_segmentsSource (types : TypeRegistry) (ordinal : Nat) (segments : List Segment) :
    (segmentsSource types ordinal segments).head? ≠ some '?' := by
  induction segments with
  | nil => exact nofun
  | cons segment segments ih =>
      cases segment with
      | literal text => exact head?_append_ne (head?_escapeChars text) ih
      | placeholder p =>
          rw [segmentsSource, source_append]
          exact nofun

/-- The expression of segments is read as their syntax trees, one after the other. -/
theorem consume_segments {types : TypeRegistry} {segments : List Segment}
    (hbuiltIn : BuiltIn types segments) {ordinal : Nat} {names : List String}
    (hnames : Numbered ordinal names) {text : List Char} (htext : text.head? ≠ some '?') :
    ∃ ordinal' names', consume step 0 (outside level outer ordinal names)
        (segmentsSource types ordinal segments ++ text) =
      consume step 0 (outside (level.add (segmentExprs types ordinal segments)) outer ordinal'
        names') text := by
  induction segments generalizing level ordinal names with
  | nil => exact ⟨ordinal, names, rfl⟩
  | cons segment segments ih =>
      cases segment with
      | literal literal =>
          obtain ⟨ordinal', names', hrest⟩ :=
            ih (level.add (literalExprs literal)) hbuiltIn.tail hnames
          refine ⟨ordinal', names', ?_⟩
          rw [segmentsSource, List.append_assoc, consume_escapeChars]
          change consume step 0
            (outside (level.add (literalExprs literal)) outer ordinal names) _ = _
          rw [hrest, Level.add_add]
          rfl
      | placeholder p =>
          obtain ⟨k, hk⟩ := hbuiltIn.valueClass
          have hhead := head?_append_ne
            (head?_segmentsSource types (p.nextOrdinal ordinal) segments) htext
          obtain ⟨later, hlater, hvalue⟩ := consume_placeholder level outer p hk hnames hhead
          obtain ⟨ordinal', names', hrest⟩ :=
            ih (level.add [p.expr k ordinal]) hbuiltIn.tail hlater
          refine ⟨ordinal', names', ?_⟩
          have hexprs : segmentExprs types ordinal (.placeholder p :: segments) =
              [p.expr k ordinal] ++ segmentExprs types (p.nextOrdinal ordinal) segments := by
            simp [segmentExprs, hk]
          rw [hexprs, ← Level.add_add, ← hrest, ← hvalue, ← List.append_assoc]
          rfl

end Reading

/-! ## Depth -/

theorem depths_append (as bs : List Expr) :
    Expr.depths (as ++ bs) = max (Expr.depths as) (Expr.depths bs) := by
  induction as with
  | nil => simp [Expr.depths]
  | cons a as ih => simp only [List.cons_append, Expr.depths, ih, Nat.max_assoc]

theorem depth_ofItems_le (es : List Expr) : (Expr.ofItems es).depth ≤ Expr.depths es + 1 := by
  match es with
  | [] => simp [Expr.ofItems, Expr.depth]
  | [e] =>
      simp only [Expr.ofItems, Expr.depths]
      omega
  | e :: f :: es => simp [Expr.ofItems, Expr.depth]

theorem depths_literalExprs (text : List Char) : Expr.depths (literalExprs text) = 0 := by
  induction text with
  | nil => rfl
  | cons c text ih =>
      change max 0 (Expr.depths (literalExprs text)) = 0
      rw [ih]
      rfl

theorem depth_valueClass_le (k : ValueClass) : k.expr.depth ≤ 3 := by
  cases k <;> decide

theorem Placeholder.depth_expr_le (k : ValueClass) (ordinal : Nat) (p : Placeholder) :
    (p.expr k ordinal).depth ≤ 7 := by
  have hitems := depth_ofItems_le (literalExprs p.lead.text ++
    [.group (p.valueKind ordinal) k.expr])
  have hclass := depth_valueClass_le k
  have hbody : Expr.depths (literalExprs p.lead.text ++
      [.group (p.valueKind ordinal) k.expr]) ≤ 4 := by
    simp only [depths_append, depths_literalExprs, Expr.depths, Expr.depth]
    omega
  have hrequired : (p.requiredExpr k ordinal).depth ≤ 6 := by
    simp only [requiredExpr, Expr.depth]
    omega
  unfold expr
  split
  · simp only [Expr.depth]
    omega
  · omega

theorem depths_segmentExprs_le (types : TypeRegistry) (ordinal : Nat) (segments : List Segment) :
    Expr.depths (segmentExprs types ordinal segments) ≤ 7 := by
  induction segments generalizing ordinal with
  | nil => exact Nat.zero_le _
  | cons segment segments ih =>
      cases segment with
      | literal text =>
          rw [segmentExprs, depths_append, depths_literalExprs, Nat.zero_max]
          exact ih ordinal
      | placeholder p =>
          have hlater := ih (p.nextOrdinal ordinal)
          simp only [segmentExprs, Expr.depths]
          cases types.valueClass? p.tag with
          | none =>
              simp only [Option.elim_none, Expr.depth]
              omega
          | some k =>
              have := p.depth_expr_le k ordinal
              simp only [Option.elim_some]
              omega

/-! ## The whole expression -/

/-- The syntax tree of a pattern: its segments between the two anchors. -/
def patternExpr (types : TypeRegistry) (segments : List Segment) : Expr :=
  .ofItems (.anchor .lineStart :: segmentExprs types 0 segments ++ [.anchor .lineEnd])

open Regex.Parser Text in
/-- The expression of a pattern is read, whatever its literal text and its names are. -/
theorem parse_expressionSource {types : TypeRegistry} {segments : List Segment}
    (hbuiltIn : BuiltIn types segments) :
    Regex.parse (expressionSource types segments) = .ok (patternExpr types segments) := by
  have hnames : Numbered 0 [] := nofun
  have hend : ['$'].head? ≠ some '?' := by decide
  obtain ⟨ordinal, names, hsegments⟩ := consume_segments
    ((Level.opened (.plain [])).add [.anchor .lineStart]) [] hbuiltIn hnames hend
  have hsource : (expressionSource types segments).toList =
      '^' :: (segmentsSource types 0 segments ++ ['$']) := by
    simp [expressionSource]
  have hread : consume step 0 (outside (.opened (.plain [])) [] 0 [])
      (expressionSource types segments).toList =
      .ok (outside ((Level.opened (.plain [])).add (.anchor .lineStart ::
        segmentExprs types 0 segments ++ [.anchor .lineEnd])) [] ordinal names) := by
    rw [hsource, consume_lineStart, hsegments, consume_lineEnd, Level.add_add, Level.add_add]
    exact consume_nil _ _ _
  have hdepth : (patternExpr types segments).depth ≤ Regex.maxDepth := by
    have hitems := depth_ofItems_le (.anchor .lineStart :: segmentExprs types 0 segments ++
      [.anchor .lineEnd])
    have hsegments := depths_segmentExprs_le types 0 segments
    simp only [List.cons_append, Expr.depths, Expr.depth, depths_append] at hitems
    simp only [patternExpr, Regex.maxDepth, List.cons_append]
    omega
  exact Regex.parse_of_consume hread hdepth

end PathRouter.Pattern
