import Mathlib.Data.List.TakeWhile
import PathRouter.Proofs.Router.WellFormed

/-!
# Setting a base path again

Blanks are removed from the ends of a base path first and slashes second, once each. A blank before
the slashes at the end is only laid bare by this, and it goes when the base path is set again. Main
statement: in no other way does a base path in normal form change.
-/

namespace PathRouter

/-! ## Trimmed texts -/

namespace Text

/-- A text with no removable character at either end. -/
structure Trimmed (p : Char → Bool) (cs : List Char) : Prop where
  first : ∀ c, cs.head? = some c → p c = false
  last : ∀ c, cs.getLast? = some c → p c = false

theorem trimmed_trim (p : Char → Bool) (cs : List Char) : Trimmed p (trim p cs) where
  first _ h := neg_of_head?_trim h
  last _ h := neg_of_getLast?_trim h

/-- A text is made of removable characters and a rest that begins with none. -/
theorem exists_front (p : Char → Bool) (cs : List Char) :
    ∃ front rest, cs = front ++ rest ∧ (∀ c ∈ front, p c = true) ∧
      ∀ c, rest.head? = some c → p c = false := by
  refine ⟨cs.takeWhile p, cs.dropWhile p, List.takeWhile_append_dropWhile.symm,
    fun c hc => List.mem_takeWhile_imp hc, fun c hc => ?_⟩
  have hhead := List.head?_dropWhile_not p cs
  rw [hc] at hhead
  exact hhead

/-- A text is its trimmed text between removable characters. -/
theorem exists_trim (p : Char → Bool) (cs : List Char) :
    ∃ front behind, cs = front ++ (trim p cs ++ behind) ∧ (∀ c ∈ front, p c = true) ∧
      ∀ c ∈ behind, p c = true := by
  let rest := cs.dropWhile p
  let behind := (rest.reverse.takeWhile p).reverse
  have hrest : trim p cs ++ behind = rest := by
    rw [trim, trimEnd, ← List.reverse_append, List.takeWhile_append_dropWhile,
      List.reverse_reverse]
  refine ⟨cs.takeWhile p, behind, ?_, fun c hc => List.mem_takeWhile_imp hc, fun c hc => ?_⟩
  · rw [hrest, List.takeWhile_append_dropWhile]
  · exact List.mem_takeWhile_imp (List.mem_reverse.1 hc)

theorem dropWhile_eq_self {p : Char → Bool} {cs : List Char}
    (h : ∀ c, cs.head? = some c → p c = false) : cs.dropWhile p = cs := by
  cases cs with
  | nil => rfl
  | cons c cs =>
      apply List.dropWhile_cons_of_neg
      rw [h c rfl]
      exact Bool.false_ne_true

theorem trimEnd_append {p : Char → Bool} {cs behind : List Char}
    (h : ∀ c, cs.getLast? = some c → p c = false) (hbehind : ∀ c ∈ behind, p c = true) :
    trimEnd p (cs ++ behind) = cs := by
  have hlast : ∀ c, cs.reverse.head? = some c → p c = false := by
    intro c hc
    rw [List.head?_reverse] at hc
    exact h c hc
  have hcut : ∀ c ∈ behind.reverse, p c = true := fun c hc => hbehind c (List.mem_reverse.1 hc)
  rw [trimEnd, List.reverse_append, List.dropWhile_append_of_pos hcut, dropWhile_eq_self hlast,
    List.reverse_reverse]

/-- A trimmed text is found again between removable characters. -/
theorem Trimmed.trim_append {p : Char → Bool} {cs front behind : List Char} (h : Trimmed p cs)
    (hfront : ∀ c ∈ front, p c = true) (hbehind : ∀ c ∈ behind, p c = true) :
    trim p (front ++ (cs ++ behind)) = cs := by
  rw [trim, List.dropWhile_append_of_pos hfront]
  cases cs with
  | nil =>
      have hall : behind.dropWhile p = [] := List.dropWhile_eq_nil_iff.2 hbehind
      rw [List.nil_append, hall]
      rfl
  | cons c cs =>
      have hfirst : ∀ d, (c :: cs ++ behind).head? = some d → p d = false := h.first
      rw [dropWhile_eq_self hfirst]
      exact trimEnd_append h.last hbehind

end Text

/-! ## Normal forms -/

namespace Request

open Text (Trimmed exists_front exists_trim isBlank trim trimmed_trim)

/-- The last character is a blank. -/
def EndsBlank (cs : List Char) : Prop :=
  ∃ c, cs.getLast? = some c ∧ isBlank c = true

/-- A blank stands before the slashes at the end, behind which there may be more blanks, and it is
none of the blanks at the beginning. -/
def BlankBeforeSlashes (cs : List Char) : Prop :=
  ∃ before c slashes behind, cs = before ++ c :: (slashes ++ behind) ∧
    (∃ d ∈ before, isBlank d = false) ∧ isBlank c = true ∧ slashes ≠ [] ∧
    (∀ d ∈ slashes, d = '/') ∧ ∀ d ∈ behind, isBlank d = true

/-- What is left of a base path without the blanks and slashes at its ends. -/
def baseText (cs : List Char) : List Char := trim (· == '/') (trim isBlank cs)

theorem toList_normalizeBasePath (path : String) :
    (normalizeBasePath path).toList =
      if baseText path.toList = [] then [] else '/' :: baseText path.toList := by
  rw [normalizeBasePath, baseText]
  split
  · next h => rw [if_pos h, String.toList_empty]
  · next c cs h => rw [h, if_neg (List.cons_ne_nil c cs), String.toList_ofList]

theorem isBlank_slash : isBlank '/' = false := by decide

theorem isSlash_of_isBlank {c : Char} (h : isBlank c = true) : (c == '/') = false := by
  apply beq_false_of_ne
  rintro rfl
  exact Bool.false_ne_true (isBlank_slash.symm.trans h)

/-- A base path is the text that is left of it, between slashes, between blanks. -/
theorem exists_baseText (cs : List Char) :
    ∃ front lead slashes behind,
      cs = front ++ ((lead ++ (baseText cs ++ slashes)) ++ behind) ∧
      (∀ c ∈ front, isBlank c = true) ∧ (∀ c ∈ lead, c = '/') ∧ (∀ c ∈ slashes, c = '/') ∧
      (∀ c ∈ behind, isBlank c = true) ∧ Trimmed isBlank (lead ++ (baseText cs ++ slashes)) := by
  obtain ⟨front, behind, hcs, hfront, hbehind⟩ := exists_trim isBlank cs
  obtain ⟨lead, slashes, hinner, hlead, hslashes⟩ := exists_trim (· == '/') (trim isBlank cs)
  change trim isBlank cs = lead ++ (baseText cs ++ slashes) at hinner
  refine ⟨front, lead, slashes, behind, ?_, hfront, fun c hc => beq_iff_eq.1 (hlead c hc),
    fun c hc => beq_iff_eq.1 (hslashes c hc), hbehind, ?_⟩
  · rwa [← hinner]
  · rw [← hinner]
    exact trimmed_trim isBlank cs

/-- A text between slashes, between blanks, is what is left. -/
theorem baseText_append {front lead text slashes behind : List Char}
    (hfront : ∀ c ∈ front, isBlank c = true) (hlead : ∀ c ∈ lead, c = '/')
    (hslashes : ∀ c ∈ slashes, c = '/') (hbehind : ∀ c ∈ behind, isBlank c = true)
    (hinner : Trimmed isBlank (lead ++ (text ++ slashes))) (htext : Trimmed (· == '/') text) :
    baseText (front ++ ((lead ++ (text ++ slashes)) ++ behind)) = text := by
  rw [baseText, hinner.trim_append hfront hbehind]
  exact htext.trim_append (fun c hc => beq_iff_eq.2 (hlead c hc))
    fun c hc => beq_iff_eq.2 (hslashes c hc)

/-- A blank before the slashes at the end is laid bare. -/
theorem BlankBeforeSlashes.endsBlank {cs : List Char} (h : BlankBeforeSlashes cs) :
    EndsBlank (baseText cs) := by
  obtain ⟨before, c, slashes, behind, rfl, ⟨d, hd, hdark⟩, hc, hne, hslashes, hbehind⟩ := h
  obtain ⟨front, rest, rfl, hfront, hrest⟩ := exists_front isBlank before
  obtain ⟨lead, kept, rfl, hlead, hkept⟩ := exists_front (· == '/') rest
  have hdark : d ∈ lead ++ kept := by
    rcases List.mem_append.1 hd with hd | hd
    · exact absurd (hfront d hd) (by rw [hdark]; exact Bool.false_ne_true)
    · exact hd
  have htext : Trimmed (· == '/') (kept ++ [c]) := by
    constructor
    · intro x hx
      cases kept with
      | nil =>
          obtain rfl := Option.some.inj hx
          exact isSlash_of_isBlank hc
      | cons e kept => exact hkept x hx
    · intro x hx
      rw [List.getLast?_concat] at hx
      obtain rfl := Option.some.inj hx
      exact isSlash_of_isBlank hc
  have hinner : Trimmed isBlank (lead ++ ((kept ++ [c]) ++ slashes)) := by
    constructor
    · intro x hx
      apply hrest x
      rw [List.append_assoc, ← List.append_assoc] at hx
      rwa [List.head?_append_of_ne_nil _ (List.ne_nil_of_mem hdark)] at hx
    · intro x hx
      rw [← List.append_assoc, List.getLast?_append_of_ne_nil _ hne] at hx
      obtain rfl := hslashes x (List.mem_of_getLast? hx)
      exact isBlank_slash
  have hbase : baseText (front ++ ((lead ++ ((kept ++ [c]) ++ slashes)) ++ behind)) = kept ++ [c] :=
    baseText_append hfront (fun x hx => beq_iff_eq.1 (hlead x hx)) hslashes hbehind hinner htext
  refine ⟨c, ?_, hc⟩
  have hcs : front ++ (lead ++ kept) ++ c :: (slashes ++ behind) =
      front ++ ((lead ++ ((kept ++ [c]) ++ slashes)) ++ behind) := by simp
  rw [hcs, hbase, List.getLast?_concat]

/-- A blank is left at the end only if it stood before the slashes there. -/
theorem blankBeforeSlashes_of_endsBlank {cs : List Char} (h : EndsBlank (baseText cs)) :
    BlankBeforeSlashes cs := by
  obtain ⟨c, hlast, hc⟩ := h
  obtain ⟨kept, hkept⟩ := List.getLast?_eq_some_iff.1 hlast
  obtain ⟨front, lead, slashes, behind, hcs, -, -, hslashes, hbehind, hinner⟩ := exists_baseText cs
  rw [hkept] at hcs hinner
  refine ⟨front ++ (lead ++ kept), c, slashes, behind, ?_, ?_, hc, ?_, hslashes, hbehind⟩
  · rw [hcs]
    simp
  · -- What is between the blanks begins with none, so it does not begin with `c`.
    cases hhead : lead ++ kept with
    | nil =>
        have hfirst := hinner.first c
        rw [List.append_assoc, ← List.append_assoc, hhead] at hfirst
        exact absurd (hfirst rfl) (by rw [hc]; decide)
    | cons d rest =>
        have hfirst := hinner.first d
        rw [List.append_assoc, ← List.append_assoc, hhead] at hfirst
        exact ⟨d, by simp, hfirst rfl⟩
  · rintro rfl
    have hend := hinner.last c
    rw [List.append_nil, ← List.append_assoc, List.getLast?_concat] at hend
    exact absurd (hend rfl) (by rw [hc]; decide)

theorem endsBlank_baseText_iff {cs : List Char} :
    EndsBlank (baseText cs) ↔ BlankBeforeSlashes cs :=
  ⟨blankBeforeSlashes_of_endsBlank, BlankBeforeSlashes.endsBlank⟩

theorem endsBlank_cons_iff {c : Char} {cs : List Char} (h : cs ≠ []) :
    EndsBlank (c :: cs) ↔ EndsBlank cs := by
  obtain ⟨d, cs, rfl⟩ := List.exists_cons_of_ne_nil h
  rw [EndsBlank, EndsBlank, List.getLast?_cons_cons]

theorem not_endsBlank_nil : ¬EndsBlank [] := by
  rintro ⟨c, hc, -⟩
  cases hc

/-- A normal form ends in a blank if there was one before the slashes at the end. -/
theorem endsBlank_normalizeBasePath_iff (path : String) :
    EndsBlank (normalizeBasePath path).toList ↔ BlankBeforeSlashes path.toList := by
  rw [toList_normalizeBasePath, ← endsBlank_baseText_iff]
  split
  · next h => rw [h]
  · next h => exact endsBlank_cons_iff h

/-- What is left of a base path with a slash in front. -/
theorem baseText_eq_self {text : List Char} (hne : text ≠ []) (htext : Trimmed (· == '/') text)
    (hblank : ¬EndsBlank text) : baseText ('/' :: text) = text := by
  have hinner : Trimmed isBlank (['/'] ++ (text ++ [])) := by
    constructor
    · intro c hc
      obtain rfl := Option.some.inj hc
      exact isBlank_slash
    · intro c hc
      rw [List.append_nil, List.getLast?_append_of_ne_nil _ hne] at hc
      exact Bool.eq_false_iff.2 fun hc' => hblank ⟨c, hc, hc'⟩
  have hslash : ∀ c ∈ ['/'], c = '/' := fun c hc => List.mem_singleton.1 hc
  have hbase : baseText ([] ++ ((['/'] ++ (text ++ [])) ++ [])) = text :=
    baseText_append nofun hslash nofun nofun hinner htext
  simpa using hbase

/-- A blank at the end goes. -/
theorem baseText_ne_self {text : List Char} (hblank : EndsBlank text) :
    baseText ('/' :: text) ≠ text := by
  intro heq
  obtain ⟨front, lead, slashes, behind, hcs, -, -, -, -, hinner⟩ := exists_baseText ('/' :: text)
  rw [heq] at hcs hinner
  obtain ⟨c, hlast, hc⟩ := hblank
  have hend : (lead ++ (text ++ slashes)).getLast? ≠ some c := by
    intro h
    exact Bool.false_ne_true ((hinner.last c h).symm.trans hc)
  have hslashes : slashes ≠ [] := by
    rintro rfl
    apply hend
    rw [List.append_nil, List.getLast?_append, hlast, Option.some_or]
  have hbehind : behind ≠ [] := by
    rintro rfl
    apply hend
    have hinner : lead ++ (text ++ slashes) ≠ [] := by simp [hslashes]
    have hwhole : ('/' :: text).getLast? = some c := by
      rw [← List.singleton_append, List.getLast?_append, hlast, Option.some_or]
    rwa [hcs, List.append_nil, List.getLast?_append_of_ne_nil _ hinner] at hwhole
  have hlength := congrArg List.length hcs
  have hslash := List.length_pos_iff.2 hslashes
  have hbehind := List.length_pos_iff.2 hbehind
  simp only [List.length_cons, List.length_append] at hlength
  omega

/-- A base path in normal form is changed by being set if it ends in a blank, and only then. -/
theorem IsBasePath.normalizeBasePath_eq_iff {path : String} (h : IsBasePath path) :
    normalizeBasePath path = path ↔ ¬EndsBlank path.toList := by
  rcases h with rfl | ⟨text, hpath, hne, hfirst, hlast⟩
  · exact iff_of_true rfl not_endsBlank_nil
  · have htext : Trimmed (· == '/') text :=
      ⟨fun c hc => beq_false_of_ne fun heq => hfirst (heq ▸ hc),
        fun c hc => beq_false_of_ne fun heq => hlast (heq ▸ hc)⟩
    rw [← String.toList_inj, toList_normalizeBasePath, hpath, endsBlank_cons_iff hne]
    constructor
    · intro heq hblank
      split at heq
      · cases heq
      · exact baseText_ne_self hblank (List.cons.inj heq).2
    · intro hblank
      rw [baseText_eq_self hne htext hblank, if_neg hne]

end Request

/-! ## Routers -/

namespace Router

open Request (BlankBeforeSlashes EndsBlank endsBlank_normalizeBasePath_iff
  isBasePath_normalizeBasePath normalizeBasePath)

theorem setBasePath_eq_self_iff (r : Router) (path : String) :
    r.setBasePath path = r ↔ normalizeBasePath path = r.basePath := by
  constructor
  · exact congrArg basePath
  · intro h
    rw [setBasePath, h]

/-- Setting the base path that a router has changes nothing, unless that path ends in a blank. It
ends in a blank if, when it was set, there was one before the slashes at the end. -/
theorem setBasePath_again (edits : List Edit) (path : String) :
    let r := empty.applyAll edits
    (normalizeBasePath (normalizeBasePath path) = normalizeBasePath path ↔
      ¬BlankBeforeSlashes path.toList) ∧
    (r.setBasePath r.basePath = r ↔ ¬EndsBlank r.basePath.toList) ∧
    ((r.setBasePath path).setBasePath (r.setBasePath path).basePath = r.setBasePath path ↔
      ¬BlankBeforeSlashes path.toList) := by
  intro r
  have hnormal : normalizeBasePath (normalizeBasePath path) = normalizeBasePath path ↔
      ¬BlankBeforeSlashes path.toList := by
    rw [(isBasePath_normalizeBasePath path).normalizeBasePath_eq_iff,
      endsBlank_normalizeBasePath_iff]
  have hreachable : Request.IsBasePath r.basePath := (receives_applyAll empty edits).isBasePath
  refine ⟨hnormal, ?_, ?_⟩
  · rw [setBasePath_eq_self_iff, hreachable.normalizeBasePath_eq_iff]
  · rw [setBasePath_eq_self_iff]
    exact hnormal

/-- A slash at the end hides a blank, which is left at the end of the base path and goes when that
path is set again. -/
theorem setBasePath_again_blank :
    let r := empty.applyAll [.setBasePath "a /"]
    normalizeBasePath (normalizeBasePath "a /") ≠ normalizeBasePath "a /" ∧
      r.basePath = "/a " ∧ (r.setBasePath r.basePath).basePath = "/a" ∧
      r.setBasePath r.basePath ≠ r := by
  decide

end Router

end PathRouter
