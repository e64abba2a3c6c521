import PathRouter.Proofs.Outcome
import PathRouter.Proofs.Regex.Building
import PathRouter.Regex.Basic

/-!
# How terms begin

A term that begins with the anchor for the beginning of the text and with single characters matches
only texts that begin with these characters, whatever stands behind them in the term.
-/

namespace PathRouter.Regex

open Unicode (CharSet)

/-! ## From expressions to terms -/

/-- The text of an expression is read, and what was read becomes a term with numbered branchings. -/
theorem compile_eq_ok {source : String} {regex : Regex} (h : compile source = .ok regex) :
    ∃ e t flags, parse source = .ok e ∧ e.term .default = .ok (t, flags) ∧
      regex = ⟨source, (t.number 0).1⟩ := by
  simp only [compile, termOf, bind_eq_ok_iff, pure_eq_ok_iff] at h
  obtain ⟨_, ⟨e, hparse, ⟨t, flags⟩, hterm, rfl⟩, hregex⟩ := h
  refine ⟨e, t, flags, hparse, hterm, ?_⟩
  split at hregex
  · cases hregex
  · exact (Except.ok.inj hregex).symm

theorem term_repetition_eq_ok_iff {f g : Flags} {min : Nat} {max : Option Nat} {lazy : Bool}
    {body : Expr} {t : Term} : (Expr.repetition min max lazy body).term f = .ok (t, g) ↔
      ∃ u, body.term f = .ok (u, g) ∧ t = .repetition min max (lazy == g.swapGreed) u := by
  simp only [Expr.term, bind_eq_ok_iff, pure_eq_ok_iff]
  constructor
  · rintro ⟨⟨u, _⟩, hu, heq⟩
    obtain ⟨rfl, rfl⟩ := Prod.mk.inj heq
    exact ⟨u, hu, rfl⟩
  · rintro ⟨u, hu, rfl⟩
    exact ⟨_, hu, rfl⟩

/-- Flags that are changed in a group are changed inside the group only. -/
theorem term_group_eq_ok_iff {f g : Flags} {kind : GroupKind} {body : Expr} {t : Term} :
    (Expr.group kind body).term f = .ok (t, g) ↔
      ∃ u f', body.term (kind.flags f) = .ok (u, f') ∧ t = kind.term u ∧ g = f := by
  simp only [Expr.term, bind_eq_ok_iff, pure_eq_ok_iff]
  constructor
  · rintro ⟨⟨u, f'⟩, hu, heq⟩
    obtain ⟨rfl, rfl⟩ := Prod.mk.inj heq
    exact ⟨u, f', hu, rfl, rfl⟩
  · rintro ⟨u, f', hu, rfl, rfl⟩
    exact ⟨_, hu, rfl⟩

theorem term_concat_eq_ok_iff {f g : Flags} {items : List Expr} {t : Term} :
    (Expr.concat items).term f = .ok (t, g) ↔
      ∃ ts, Expr.terms f items = .ok (ts, g) ∧ t = Term.concat ts := by
  simp only [Expr.term, bind_eq_ok_iff, pure_eq_ok_iff]
  constructor
  · rintro ⟨⟨ts, _⟩, hts, heq⟩
    obtain ⟨rfl, rfl⟩ := Prod.mk.inj heq
    exact ⟨ts, hts, rfl⟩
  · rintro ⟨ts, hts, rfl⟩
    exact ⟨_, hts, rfl⟩

theorem term_alternatives_eq_ok_iff {f g : Flags} {branches : List Expr} {t : Term} :
    (Expr.alternatives branches).term f = .ok (t, g) ↔
      ∃ ts, Expr.terms f branches = .ok (ts, g) ∧ t = Term.alternatives ts := by
  simp only [Expr.term, bind_eq_ok_iff, pure_eq_ok_iff]
  constructor
  · rintro ⟨⟨ts, _⟩, hts, heq⟩
    obtain ⟨rfl, rfl⟩ := Prod.mk.inj heq
    exact ⟨ts, hts, rfl⟩
  · rintro ⟨ts, hts, rfl⟩
    exact ⟨_, hts, rfl⟩

theorem terms_nil_eq_ok_iff {f g : Flags} {ts : List Term} :
    Expr.terms f [] = .ok (ts, g) ↔ ts = [] ∧ g = f := by
  constructor
  · intro h
    obtain ⟨rfl, rfl⟩ := Prod.mk.inj (Except.ok.inj h)
    exact ⟨rfl, rfl⟩
  · rintro ⟨rfl, rfl⟩
    rfl

theorem terms_cons_eq_ok_iff {f g : Flags} {e : Expr} {es : List Expr} {ts : List Term} :
    Expr.terms f (e :: es) = .ok (ts, g) ↔ ∃ t f' us, e.term f = .ok (t, f') ∧
      Expr.terms f' es = .ok (us, g) ∧ ts = t :: us := by
  simp only [Expr.terms, bind_eq_ok_iff, pure_eq_ok_iff]
  constructor
  · rintro ⟨⟨t, f'⟩, ht, ⟨us, _⟩, hus, heq⟩
    obtain ⟨rfl, rfl⟩ := Prod.mk.inj heq
    exact ⟨t, f', us, ht, hus, rfl⟩
  · rintro ⟨t, f', us, ht, hus, rfl⟩
    exact ⟨_, ht, _, hus, rfl⟩

theorem terms_singleton_eq_ok_iff {f g : Flags} {e : Expr} {ts : List Term} :
    Expr.terms f [e] = .ok (ts, g) ↔ ∃ t, e.term f = .ok (t, g) ∧ ts = [t] := by
  simp only [terms_cons_eq_ok_iff, terms_nil_eq_ok_iff]
  constructor
  · rintro ⟨t, _, _, ht, ⟨rfl, rfl⟩, rfl⟩
    exact ⟨t, ht, rfl⟩
  · rintro ⟨t, ht, rfl⟩
    exact ⟨t, g, [], ht, ⟨rfl, rfl⟩, rfl⟩

/-- The terms of expressions are those of the first ones and then, with the flags in force behind
these, those of the others. -/
theorem terms_append_eq_ok_iff {f h : Flags} {as bs : List Expr} {vs : List Term} :
    Expr.terms f (as ++ bs) = .ok (vs, h) ↔ ∃ ts g us, Expr.terms f as = .ok (ts, g) ∧
      Expr.terms g bs = .ok (us, h) ∧ vs = ts ++ us := by
  induction as generalizing f vs with
  | nil =>
      constructor
      · intro hall
        exact ⟨[], f, vs, rfl, hall, rfl⟩
      · rintro ⟨ts, g, us, hts, hus, rfl⟩
        obtain ⟨rfl, rfl⟩ := terms_nil_eq_ok_iff.1 hts
        exact hus
  | cons a as ih =>
      rw [List.cons_append, terms_cons_eq_ok_iff]
      constructor
      · rintro ⟨t, f', later, ht, hlater, rfl⟩
        obtain ⟨ts, g, us, hts, hus, rfl⟩ := ih.1 hlater
        exact ⟨t :: ts, g, us, terms_cons_eq_ok_iff.2 ⟨t, f', ts, ht, hts, rfl⟩, hus, rfl⟩
      · rintro ⟨_, g, us, hfirst, hus, rfl⟩
        obtain ⟨t, f', ts, ht, hts, rfl⟩ := terms_cons_eq_ok_iff.1 hfirst
        exact ⟨t, f', ts ++ us, ht, ih.2 ⟨ts, g, us, hts, hus, rfl⟩, rfl⟩

theorem term_ofItems_eq_ok_iff {f g : Flags} {es : List Expr} {t : Term} :
    (Expr.ofItems es).term f = .ok (t, g) ↔
      ∃ ts, Expr.terms f es = .ok (ts, g) ∧ t = Term.concat ts := by
  match es with
  | [] =>
      constructor
      · intro h
        obtain ⟨rfl, rfl⟩ := Prod.mk.inj (Except.ok.inj h)
        exact ⟨[], rfl, rfl⟩
      · rintro ⟨ts, hts, rfl⟩
        obtain ⟨rfl, rfl⟩ := terms_nil_eq_ok_iff.1 hts
        rfl
  | [e] =>
      have hsingle (u : Term) : Term.concat [u] = u := u.append_empty
      constructor
      · intro h
        exact ⟨[t], terms_singleton_eq_ok_iff.2 ⟨t, h, rfl⟩, (hsingle t).symm⟩
      · rintro ⟨ts, hts, rfl⟩
        obtain ⟨u, hu, rfl⟩ := terms_singleton_eq_ok_iff.1 hts
        rw [hsingle]
        exact hu
  | e :: e' :: es => exact term_concat_eq_ok_iff

namespace Term

theorem items_append (s t : Term) : (s.append t).items = s.items ++ t.items := by
  fun_induction append s t with
  | case1 t => rfl
  | case2 a b t ih => rw [items, items, ih, List.cons_append]
  | case3 s => exact (List.append_nil _).symm
  | case4 s t hempty hseq =>
      cases s with
      | empty => exact absurd rfl hempty
      | seq a b => exact (hseq a b rfl).elim
      | _ => rfl

theorem items_concat (ts : List Term) : (concat ts).items = ts.flatMap items := by
  induction ts with
  | nil => rfl
  | cons t ts ih =>
      calc
        (concat (t :: ts)).items = t.items ++ (concat ts).items := items_append t (concat ts)
        _ = (t :: ts).flatMap items := by rw [ih, List.flatMap_cons]

/-- The term is a single character or a condition. -/
def IsAtom : Term → Prop
  | .read _ | .look _ => True
  | _ => False

theorem number_of_isAtom {u : Term} (h : u.IsAtom) (n : Nat) : (u.number n).1 = u := by
  cases u with
  | read set => rfl
  | look l => rfl
  | _ => cases h

/-- A term that begins with an item is this item, or a sequence that begins with it. -/
theorem eq_of_cons_prefix_items {u t : Term} {us : List Term} (h : u :: us <+: t.items) :
    (t = u ∧ us = []) ∨ ∃ t', t = .seq u t' ∧ us <+: t'.items := by
  cases t with
  | empty => exact absurd h (by simp [items])
  | seq a b =>
      rw [items, List.cons_prefix_cons] at h
      obtain ⟨rfl, hus⟩ := h
      exact .inr ⟨b, rfl, hus⟩
  | _ =>
      change u :: us <+: [_] at h
      rw [List.cons_prefix_cons, List.prefix_nil] at h
      exact .inl ⟨h.1.symm, h.2⟩

/-- Atoms at the beginning of a term are not affected by the numbers of branchings. -/
theorem prefix_items_number {us : List Term} (hus : ∀ u ∈ us, u.IsAtom) {t : Term}
    (h : us <+: t.items) (n : Nat) : us <+: (t.number n).1.items := by
  induction us generalizing t n with
  | nil => exact List.nil_prefix
  | cons u us ih =>
      have hu := number_of_isAtom (hus u List.mem_cons_self) n
      rcases eq_of_cons_prefix_items h with ⟨rfl, rfl⟩ | ⟨t', rfl, ht'⟩
      · rw [hu]
        exact h
      · rw [number, items, hu, List.cons_prefix_cons]
        refine ⟨rfl, ih ?_ ht' _⟩
        intro v hv
        exact hus v (List.mem_cons_of_mem _ hv)

end Term

/-! ## From terms to texts -/

/-- The terms that read a text. -/
def readText (text : List Char) : List Term := text.map fun c => .read (CharSet.singleton c)

theorem Step.andThen_singleton (passed : List Goals) (captures : Captures)
    (next : List Goals → Captures → List Step) :
    Step.andThen [.done passed captures] next = next passed captures := by
  rw [andThen, List.flatMap_singleton]

/-- A way that waits for a character is followed only if this character comes next. -/
theorem exists_of_follow_read {c : Char} {goals : Goals} {captures : Captures} {index : Nat}
    {cs : List Char} (h : follow index [.read (CharSet.singleton c) goals captures] cs ≠ none) :
    ∃ rest, cs = c :: rest ∧ follow (index + 1)
      (Goals.visit ⟨some c, index + 1, rest.head?⟩ goals [] captures) rest ≠ none := by
  cases cs with
  | nil => exact absurd rfl h
  | cons d rest =>
      have hfollow : follow index [.read (CharSet.singleton c) goals captures] (d :: rest) =
          if (CharSet.singleton c).contains d then
            follow (index + 1) (Goals.visit ⟨some d, index + 1, rest.head?⟩ goals [] captures) rest
          else none := by
        rw [← outcome?_read_cons]
        simp [follow]
      rw [hfollow] at h
      split at h
      · next hd =>
          rw [CharSet.contains_singleton, beq_iff_eq] at hd
          subst hd
          exact ⟨rest, rfl, h⟩
      · exact absurd rfl h

/-- A term that begins by reading a text is followed only through texts that begin so. -/
theorem prefix_of_follow {text : List Char} {t : Term} (h : readText text <+: t.items) {p : Place}
    {goals : Goals} {passed : List Goals} {captures : Captures}
    {next : List Goals → Captures → List Step} {index : Nat} {cs : List Char}
    (hfollow : follow index (Step.andThen (t.visit p goals passed captures) next) cs ≠ none) :
    text <+: cs := by
  induction text generalizing t p goals passed captures next index cs with
  | nil => exact List.nil_prefix
  | cons c text ih =>
      rcases Term.eq_of_cons_prefix_items h with ⟨rfl, htext⟩ | ⟨t', rfl, htext⟩
      · obtain rfl : text = [] := List.map_eq_nil_iff.1 htext
        obtain ⟨rest, rfl, -⟩ := exists_of_follow_read hfollow
        exact List.cons_prefix_cons.2 ⟨rfl, List.nil_prefix⟩
      · obtain ⟨rest, rfl, hrest⟩ := exists_of_follow_read hfollow
        exact List.cons_prefix_cons.2 ⟨rfl, ih htext hrest⟩

/-- A term that begins with the anchor for the beginning does not match elsewhere. -/
theorem visit_eq_nil {us : List Term} {t : Term} (h : .look .textStart :: us <+: t.items)
    {p : Place} (hp : p.before.isNone = false) (goals : Goals) (passed : List Goals)
    (captures : Captures) : t.visit p goals passed captures = [] := by
  have hlook (goals : Goals) :
      (Term.look .textStart).visit p goals passed captures = [] := by
    simp [Term.visit, Look.holds, hp]
  rcases Term.eq_of_cons_prefix_items h with ⟨rfl, -⟩ | ⟨t', rfl, -⟩
  · exact hlook goals
  · rw [Term.visit, hlook]
    rfl

theorem seek_eq_none {start : Place → List Step}
    (h : ∀ p : Place, p.before.isNone = false → start p = []) (index : Nat) (cs : List Char) :
    seek start index cs = none := by
  induction cs generalizing index with
  | nil => rfl
  | cons c cs ih =>
      rw [seek, h _ rfl, ih]
      rfl

/-- A term that begins with the anchor for the beginning is followed from there only. -/
theorem search_of_textStart {us : List Term} {t : Term} (h : .look .textStart :: us <+: t.items)
    (text : List Char) : t.search text = follow 0
      (Goals.visit ⟨none, 0, text.head?⟩ [.term t, .close 0] [] (Captures.note [] 0 false 0))
      text := by
  have hseek : seek (fun p => Term.visit p (.group 0 none t) [] [] []) 0 text = none := by
    apply seek_eq_none
    intro p hp
    rw [Term.visit, visit_eq_nil h hp]
    rfl
  rw [Term.search, run_eq, hseek, if_pos rfl]
  simp only [Option.orElse_eq_orElse, Option.orElse_eq_or, Option.or_none]
  rfl

/-- A term that begins with the anchor for the beginning and a text matches only texts that begin
with this text. -/
theorem prefix_of_search {text : List Char} {t : Term}
    (h : .look .textStart :: readText text <+: t.items) {cs : List Char}
    (hsearch : t.search cs ≠ none) : text <+: cs := by
  rw [search_of_textStart h] at hsearch
  rcases Term.eq_of_cons_prefix_items h with ⟨rfl, htext⟩ | ⟨t', rfl, htext⟩
  · obtain rfl : text = [] := List.map_eq_nil_iff.1 htext
    exact List.nil_prefix
  · have hholds : (Term.look .textStart).visit ⟨none, 0, cs.head?⟩ [.term t', .close 0] []
        (Captures.note [] 0 false 0) = [.done [] (Captures.note [] 0 false 0)] := rfl
    rw [Goals.visit, Goal.visit, Term.visit, hholds, Step.andThen_singleton] at hsearch
    exact prefix_of_follow htext hsearch

end PathRouter.Regex
