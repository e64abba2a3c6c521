import PathRouter.Proofs.Pattern.Split
import PathRouter.Proofs.Regex.Opening

/-!
# What the expression of a pattern matches

The term of a pattern reads literal text character by character and every value as one repetition.
Attempts at the term go through the splits of a text from the preferred one on, and note where the
values of the first one begin and end.
-/

namespace PathRouter.Pattern

open Regex (Expr Term Cursor Continuation Captures Flags)
open Unicode (CharSet)

/-! ## Terms -/

def literalTerms (text : List Char) : List Term := text.map fun c => .read (CharSet.singleton c)

namespace Placeholder

/-- The term of the value of a placeholder. -/
def valueTerm (k : ValueClass) (ordinal : Nat) (p : Placeholder) : Term :=
  if p.isAnonymous then k.term
  else .group (ordinal + 1) (some (String.ofList (groupName ordinal))) k.term

/-- The term of a placeholder that must be there. -/
def requiredTerm (k : ValueClass) (ordinal : Nat) (p : Placeholder) : Term :=
  .concat (literalTerms p.lead.text ++ [p.valueTerm k ordinal])

def term (k : ValueClass) (ordinal : Nat) (p : Placeholder) : Term :=
  if p.optional then .rep 0 0 (some 1) true (p.requiredTerm k ordinal)
  else p.requiredTerm k ordinal

end Placeholder

def segmentTerms (types : TypeRegistry) (ordinal : Nat) : List Segment → List Term
  | [] => []
  | .literal text :: rest => literalTerms text ++ segmentTerms types ordinal rest
  | .placeholder p :: rest =>
    ((types.valueClass? p.tag).elim .empty fun k => p.term k ordinal) ::
      segmentTerms types (p.nextOrdinal ordinal) rest

/-- The terms of a pattern behind the anchor for the beginning. -/
def patternTerms (types : TypeRegistry) (segments : List Segment) : List Term :=
  segmentTerms types 0 segments ++ [.look .textEnd]

theorem terms_append {f g h : Flags} {as bs : List Expr} {ts us : List Term}
    (ha : Expr.terms f as = .ok (ts, g)) (hb : Expr.terms g bs = .ok (us, h)) :
    Expr.terms f (as ++ bs) = .ok (ts ++ us, h) :=
  Regex.terms_append_eq_ok_iff.2 ⟨ts, g, us, ha, hb, rfl⟩

theorem term_ofItems {f g : Flags} {es : List Expr} {ts : List Term}
    (h : Expr.terms f es = .ok (ts, g)) : (Expr.ofItems es).term f = .ok (Term.concat ts, g) :=
  Regex.term_ofItems_eq_ok_iff.2 ⟨ts, h, rfl⟩

/-- A character is matched by itself, and where case makes no difference by what is equal to it up
to case. -/
theorem terms_foldedExprs (f : Flags) (text : List Char) :
    Expr.terms f (literalExprs text) = .ok (text.map fun c => .read (f.single c), f) := by
  induction text with
  | nil => rfl
  | cons c text ih =>
      have hfirst : Expr.terms f [.literal ⟨c, false⟩] = .ok ([.read (f.single c)], f) := by
        simp [Expr.terms, Expr.term, Regex.Literal.term, bind, Except.bind, pure, Except.pure]
      exact terms_append hfirst ih

theorem terms_literalExprs (text : List Char) :
    Expr.terms .default (literalExprs text) = .ok (literalTerms text, .default) :=
  terms_foldedExprs .default text

namespace Placeholder
variable (k : ValueClass) (ordinal : Nat) (p : Placeholder)

theorem term_valueExpr :
    (Expr.group (p.valueKind ordinal) k.expr).term .default =
      .ok (p.valueTerm k ordinal, .default) := by
  have hflags : (p.valueKind ordinal).flags .default = .default := by
    unfold valueKind
    split <;> rfl
  simp only [Expr.term, hflags, k.term_expr, bind, Except.bind, pure, Except.pure]
  unfold valueKind valueTerm
  split <;> rfl

theorem term_requiredExpr :
    (p.requiredExpr k ordinal).term .default = .ok (p.requiredTerm k ordinal, .default) := by
  have hvalue : Expr.terms .default [.group (p.valueKind ordinal) k.expr] =
      .ok ([p.valueTerm k ordinal], .default) := by
    simp only [Expr.terms, p.term_valueExpr k ordinal, bind, Except.bind, pure, Except.pure]
  have hitems := term_ofItems (terms_append (terms_literalExprs p.lead.text) hvalue)
  rw [requiredExpr, Expr.term]
  change (Expr.term .default _ >>= fun _ => _) = _
  rw [hitems]
  rfl

theorem readsNothing_requiredTerm : (p.requiredTerm k ordinal).readsNothing = false := by
  have hvalue : (p.valueTerm k ordinal).readsNothing = false := by
    unfold valueTerm
    split <;> rfl
  simp [requiredTerm, Term.readsNothing_concat, hvalue]

theorem term_expr : (p.expr k ordinal).term .default = .ok (p.term k ordinal, .default) := by
  unfold expr term
  split
  · rw [Expr.term]
    change (Expr.term .default _ >>= fun _ => _) = _
    rw [term_requiredExpr]
    exact congrArg (fun t => Except.ok (t, Flags.default))
      (Term.repetition_optional (p.readsNothing_requiredTerm k ordinal) true)
  · exact p.term_requiredExpr k ordinal

theorem simple_term : (p.term k ordinal).Simple := by
  have hvalue : (p.valueTerm k ordinal).Simple := by
    unfold valueTerm
    split <;> exact ⟨k.set, rfl⟩
  have hrequired : (p.requiredTerm k ordinal).Simple := by
    apply Term.simple_concat
    intro t ht
    rcases List.mem_append.1 ht with ht | ht
    · obtain ⟨c, -, rfl⟩ := List.mem_map.1 ht
      trivial
    · rw [List.mem_singleton.1 ht]
      exact hvalue
  unfold term
  split <;> exact hrequired

theorem groups_term : (p.term k ordinal).groups =
    if p.isAnonymous then [] else [(ordinal + 1, some (String.ofList (groupName ordinal)))] := by
  have hlead : (literalTerms p.lead.text).flatMap Term.groups = [] := by
    simp [literalTerms, List.flatMap_map, Term.groups]
  have hvalue : (p.valueTerm k ordinal).groups =
      if p.isAnonymous then [] else [(ordinal + 1, some (String.ofList (groupName ordinal)))] := by
    unfold valueTerm
    split <;> rfl
  have hrequired : (p.requiredTerm k ordinal).groups = (p.valueTerm k ordinal).groups := by
    rw [requiredTerm, Term.groups_concat, List.flatMap_append, hlead]
    simp
  rw [← hvalue, ← hrequired, term]
  split <;> rfl

end Placeholder

theorem terms_segmentExprs {types : TypeRegistry} {segments : List Segment}
    (h : BuiltIn types segments) (ordinal : Nat) :
    Expr.terms .default (segmentExprs types ordinal segments) =
      .ok (segmentTerms types ordinal segments, .default) := by
  induction segments generalizing ordinal with
  | nil => rfl
  | cons segment segments ih =>
      cases segment with
      | literal text => exact terms_append (terms_literalExprs text) (ih h.tail ordinal)
      | placeholder p =>
          obtain ⟨k, hk⟩ := h.valueClass
          simp only [segmentExprs, segmentTerms, hk, Option.elim_some, Expr.terms,
            p.term_expr k ordinal, ih h.tail, bind, Except.bind, pure, Except.pure]

theorem simple_segmentTerms {types : TypeRegistry} (ordinal : Nat) (segments : List Segment) :
    ∀ t ∈ segmentTerms types ordinal segments, t.Simple := by
  induction segments generalizing ordinal with
  | nil => exact nofun
  | cons segment segments ih =>
      intro t ht
      cases segment with
      | literal text =>
          rcases List.mem_append.1 ht with ht | ht
          · obtain ⟨c, -, rfl⟩ := List.mem_map.1 ht
            trivial
          · exact ih ordinal t ht
      | placeholder p =>
          rcases List.mem_cons.1 ht with rfl | ht
          · cases types.valueClass? p.tag with
            | none => trivial
            | some k => exact p.simple_term k ordinal
          · exact ih _ t ht

/-- The term that is compiled for a pattern. -/
theorem termOf_expressionSource {types : TypeRegistry} {segments : List Segment}
    (h : BuiltIn types segments) :
    Regex.termOf (expressionSource types segments) =
      .ok (.seq (.look .textStart) ((Term.concat (patternTerms types segments)).number 0).1) := by
  have hstart : Expr.terms .default [.anchor .lineStart] = .ok ([.look .textStart], .default) :=
    rfl
  have hend : Expr.terms .default [.anchor .lineEnd] = .ok ([.look .textEnd], .default) := rfl
  have hitems : Expr.terms .default
      (.anchor .lineStart :: segmentExprs types 0 segments ++ [.anchor .lineEnd]) =
      .ok (.look .textStart :: patternTerms types segments, .default) :=
    terms_append hstart (terms_append (terms_segmentExprs h 0) hend)
  have hconcat : Term.concat (.look .textStart :: patternTerms types segments) =
      .seq (.look .textStart) (Term.concat (patternTerms types segments)) := by
    apply Term.concat_look
    exact Term.concat_ne_empty (List.mem_append_right _ List.mem_cons_self) Term.noConfusion
  simp only [Regex.termOf, parse_expressionSource h, patternExpr, term_ofItems hitems, hconcat,
    Term.number, bind, Except.bind, pure, Except.pure]

/-! ## Attempts -/

/-- The cursor behind some text. -/
def behind (s : Cursor) (text rest : List Char) : Cursor :=
  ⟨text.getLast?.or s.before, s.index + text.length, rest⟩

theorem behind_cons (s : Cursor) (c : Char) (later text rest : List Char) :
    behind (s.next c later) text rest = behind s (c :: text) rest := by
  simp only [behind, Cursor.next, List.getLast?_cons, List.length_cons, Cursor.mk.injEq, and_true]
  constructor
  · cases text.getLast? <;> rfl
  · omega

/-- Literal text is attempted as a beginning of the text. -/
theorem attempt_literal (text : List Char) (k : Continuation) (s : Cursor) (captures : Captures) :
    (literalTerms text).foldr (fun t k => t.attempt k) k s captures =
      if text.isPrefixOf s.ahead then k (behind s text (s.ahead.drop text.length)) captures
      else none := by
  induction text generalizing s with
  | nil => rfl
  | cons c text ih =>
      change Regex.attemptRead (CharSet.singleton c)
        ((literalTerms text).foldr (fun t k => t.attempt k) k) s captures = _
      unfold Regex.attemptRead
      split
      · next hahead =>
          rw [hahead]
          rfl
      · next d rest hahead =>
          rw [hahead, CharSet.contains_singleton, ih, behind_cons]
          by_cases h : d = c
          · subst h
            simp [Cursor.next, List.isPrefixOf]
          · have h' : (c == d) = false := beq_false_of_ne (Ne.symm h)
            simp [List.isPrefixOf, h, h']

/-- Values of a class are attempted from the longest one on. -/
theorem attempt_value (k : ValueClass) (next : Continuation) (s : Cursor) (captures : Captures) :
    k.term.attempt next s captures = (readings k.accepts s.ahead).findSome? fun (value, rest) =>
      next (behind s value rest) captures := by
  obtain ⟨before, index, ahead⟩ := s
  change Regex.attemptRead k.set (Regex.attemptMany (Regex.attemptRead k.set) true next) _
    captures = _
  induction ahead generalizing before index with
  | nil => rfl
  | cons c rest ih =>
      simp only [Regex.attemptRead, k.contains_set, readings]
      split
      · rw [Regex.attemptMany_read, List.findSome?_append, List.findSome?_map,
          List.findSome?_singleton]
        have hlonger (r : List Char × List Char) :
            behind ⟨some c, index + 1, rest⟩ r.1 r.2 =
              behind ⟨before, index, c :: rest⟩ (c :: r.1) r.2 :=
          behind_cons ⟨before, index, c :: rest⟩ c rest r.1 r.2
        rw [Cursor.next, Regex.prefer, if_pos rfl, ih]
        simp only [hlonger, Function.comp_def, Option.orElse_eq_orElse, Option.orElse_eq_or]
        rfl
      · rfl

/-- What is noted of values: where those of named placeholders begin and end, and where the whole
match ends. -/
def noteValues (ordinal index : Nat) : List Segment → Values → Captures → Captures
  | .literal text :: segments, values, captures =>
    noteValues ordinal (index + text.length) segments values captures
  | .placeholder p :: segments, some value :: values, captures =>
    let start := index + p.lead.text.length
    let stop := start + value.length
    noteValues (p.nextOrdinal ordinal) stop segments values
      (if p.isAnonymous then captures
        else (captures.note (ordinal + 1) false start).note (ordinal + 1) true stop)
  | .placeholder p :: segments, none :: values, captures =>
    noteValues (p.nextOrdinal ordinal) index segments values captures
  | _, _, captures => captures.note 0 true index

theorem accepts_eq {types : TypeRegistry} {tag : String} {k : ValueClass}
    (h : types.valueClass? tag = some k) : types.accepts tag = k.accepts := by
  funext c
  rw [TypeRegistry.accepts, h, Option.any_some]

/-- A placeholder that must be there is attempted with each value that can be read. -/
theorem attempt_required {types : TypeRegistry} {p : Placeholder} {k : ValueClass}
    (hk : types.valueClass? p.tag = some k) (ordinal : Nat) (next : Continuation) (s : Cursor)
    (captures : Captures) :
    (p.requiredTerm k ordinal).attempt next s captures =
      if p.lead.text.isPrefixOf s.ahead then
        (readings (types.accepts p.tag) (s.ahead.drop p.lead.text.length)).findSome?
          fun (value, rest) =>
            next (behind (behind s p.lead.text (s.ahead.drop p.lead.text.length)) value rest)
              (if p.isAnonymous then captures
                else (captures.note (ordinal + 1) false (s.index + p.lead.text.length)).note
                  (ordinal + 1) true (s.index + p.lead.text.length + value.length))
      else none := by
  rw [Placeholder.requiredTerm, Term.attempt_concat, List.foldr_append, attempt_literal,
    accepts_eq hk]
  congr 1
  simp only [List.foldr_cons, List.foldr_nil, Placeholder.valueTerm]
  split
  · exact attempt_value k next _ captures
  · exact attempt_value k _ _ _

/-- What remains to be attempted behind the segments. -/
def toEnd : Continuation :=
  (Term.look .textEnd).attempt fun s captures => some (captures.note 0 true s.index)

/-- Attempts at segments find the first split. -/
theorem attempt_segments {types : TypeRegistry} {segments : List Segment}
    (h : BuiltIn types segments) (ordinal : Nat) (s : Cursor) (captures : Captures) :
    (segmentTerms types ordinal segments).foldr (fun t k => t.attempt k) toEnd s captures =
      (splits types segments s.ahead).head?.map fun values =>
        noteValues ordinal s.index segments values captures := by
  induction segments generalizing ordinal s captures with
  | nil =>
      obtain ⟨before, index, ahead⟩ := s
      cases ahead <;> rfl
  | cons segment segments ih =>
      cases segment with
      | literal text =>
          rw [segmentTerms, List.foldr_append, attempt_literal, splits]
          split
          · exact ih h.tail ordinal _ captures
          · rfl
      | placeholder p =>
          obtain ⟨k, hk⟩ := h.valueClass
          have hlater := ih h.tail
          have htaken : (p.requiredTerm k ordinal).attempt
              ((segmentTerms types (p.nextOrdinal ordinal) segments).foldr
                (fun t k => t.attempt k) toEnd) s captures =
              (if p.lead.text.isPrefixOf s.ahead then
                (readings (types.accepts p.tag) (s.ahead.drop p.lead.text.length)).flatMap
                  fun (value, rest) => (splits types segments rest).map (some value :: ·)
              else []).head?.map fun values =>
                noteValues ordinal s.index (.placeholder p :: segments) values captures := by
            rw [attempt_required hk]
            split
            · rw [List.head?_flatMap, List.map_findSome?]
              congr 1
              ext1 ⟨value, rest⟩
              simp only [hlater, Function.comp_apply, List.head?_map, Option.map_map]
              rfl
            · rfl
          have hleft : ((segmentTerms types (p.nextOrdinal ordinal) segments).foldr
                (fun t k => t.attempt k) toEnd) s captures =
              ((splits types segments s.ahead).map (none :: ·)).head?.map fun values =>
                noteValues ordinal s.index (.placeholder p :: segments) values captures := by
            rw [hlater, List.head?_map, Option.map_map]
            rfl
          -- A value is tried before none, and the splits stand in the same order.
          simp only [segmentTerms, hk, Option.elim_some, List.foldr_cons, splits, List.head?_append]
          rw [Option.map_or, ← htaken]
          unfold Placeholder.term
          split
          · rw [← hleft]
            exact Option.orElse_eq_or
          · simp

end PathRouter.Pattern
