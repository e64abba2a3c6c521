import PathRouter.Proofs.Pattern.Scan
import Mathlib.Data.List.Chain
import Mathlib.Data.List.TakeWhile

/-!
# Canonical segments

A list of segments is canonical if every placeholder stands where its offset says, literal texts
are as long as they can be, and neither a lead nor a question mark is left in a literal text beside
a placeholder that would have taken it. Main statement: scanning and putting the texts of segments
together are inverse to each other between the patterns that can be scanned and the canonical lists.
-/

namespace PathRouter.Pattern

open Text (Utf8.size)

/-- A tag ends at the first colon of an inner text and the name follows; without a colon the whole
text is the name. -/
def SplitAtColon (inner tag name : List Char) : Prop :=
  (':' ∉ inner ∧ tag = [] ∧ name = inner) ∨ (':' ∉ tag ∧ inner = tag ++ ':' :: name)

theorem splitAtColon_splitColon (cs : List Char) :
    SplitAtColon cs (Placeholder.splitColon cs).1 (Placeholder.splitColon cs).2 := by
  have hparts := List.takeWhile_append_dropWhile (p := (· != ':')) (l := cs)
  have htag : ':' ∉ cs.takeWhile (· != ':') := by
    intro hmem
    simpa using List.mem_takeWhile_imp hmem
  unfold Placeholder.splitColon
  split
  · next hrest =>
      rw [hrest, List.append_nil] at hparts
      exact .inl ⟨hparts ▸ htag, rfl, rfl⟩
  · next c name hrest =>
      have hcolon : c = ':' := by
        simpa [hrest] using List.head?_dropWhile_not (· != ':') cs
      subst hcolon
      rw [hrest] at hparts
      exact .inr ⟨htag, hparts.symm⟩

/-- A placeholder is written as a lead, an inner text in brackets, and a question mark if it is
optional. -/
structure Placeholder.WellWritten (p : Placeholder) : Prop where
  inner_ne_nil : p.inner ≠ []
  noOpening : '[' ∉ p.inner
  noClosing : ']' ∉ p.inner
  lead : p.lead.text = [] ∨ p.lead.text = ['/'] ∨ p.lead.text = ['.']
  full : p.full = p.lead.text ++ '[' :: p.inner ++ ']' :: (if p.optional then ['?'] else [])
  parts : SplitAtColon p.inner p.tag.toList p.name.toList

theorem Placeholder.wellWritten {p : Placeholder} (hne : p.inner ≠ []) (hopening : '[' ∉ p.inner)
    (hclosing : ']' ∉ p.inner) : p.WellWritten where
  inner_ne_nil := hne
  noOpening := hopening
  noClosing := hclosing
  lead := by cases p.lead <;> simp [Lead.text]
  full := rfl
  parts := by
    rw [Placeholder.tag, Placeholder.name, String.toList_ofList, String.toList_ofList]
    exact splitAtColon_splitColon p.inner

namespace Segment

/-- The segment is canonical behind `start` octets. -/
def CanonicalAt (start : Nat) : Segment → Prop
  | .literal text => text ≠ [] ∧ '[' ∉ text
  | .placeholder p => p.offset = start ∧ p.bracketOffset = start + Utf8.size p.lead.text ∧
      p.WellWritten

/-- The second segment may stand behind the first: no text could have been read otherwise. -/
def Adjacent : Segment → Segment → Prop
  | .literal _, .literal _ => False
  | .literal text, .placeholder p =>
    p.lead = .none → text.getLast? ≠ some '/' ∧ text.getLast? ≠ some '.'
  | .placeholder p, .literal text => p.optional = false → text.head? ≠ some '?'
  | .placeholder _, .placeholder _ => True

/-- Behind `start` octets, the segments are those that a scan makes of their text. -/
structure Canonical (start : Nat) (segments : List Segment) : Prop where
  placed : ∀ earlier segment later, segments = earlier ++ segment :: later →
    segment.CanonicalAt (start + Utf8.size (textOf earlier))
  adjacent : segments.IsChain Adjacent

theorem canonical_nil (start : Nat) : Canonical start [] where
  placed := by
    intro earlier segment later h
    cases earlier <;> cases h
  adjacent := .nil

theorem canonical_cons_iff {start : Nat} {segment : Segment} {segments : List Segment} :
    Canonical start (segment :: segments) ↔ segment.CanonicalAt start ∧
      (∀ next ∈ segments.head?, Adjacent segment next) ∧
      Canonical (start + Utf8.size segment.text) segments := by
  have htext (earlier : List Segment) : start + Utf8.size (textOf (segment :: earlier)) =
      start + Utf8.size segment.text + Utf8.size (textOf earlier) := by
    rw [textOf, List.flatMap_cons, Text.Utf8.size_append, Nat.add_assoc]
    rfl
  constructor
  · rintro ⟨hplaced, hadjacent⟩
    rw [List.isChain_cons] at hadjacent
    refine ⟨hplaced [] segment segments rfl, hadjacent.1, ?_, hadjacent.2⟩
    intro earlier other later h
    rw [← htext]
    apply hplaced (segment :: earlier) other later
    rw [h]
    rfl
  · rintro ⟨hfirst, hnext, hplaced, hadjacent⟩
    refine ⟨?_, List.isChain_cons.2 ⟨hnext, hadjacent⟩⟩
    intro earlier other later h
    cases earlier with
    | nil =>
        obtain ⟨rfl, rfl⟩ := List.cons.inj h
        exact hfirst
    | cons first earlier =>
        obtain ⟨rfl, rfl⟩ := List.cons.inj h
        rw [htext]
        exact hplaced earlier other later rfl

/-! ## Leads -/

theorem takeLead_append_text {kept : List Char} {lead : Lead}
    (h : lead = .none → kept.getLast? ≠ some '/' ∧ kept.getLast? ≠ some '.') :
    takeLead (kept ++ lead.text) = (kept, lead) := by
  cases lead with
  | none =>
      obtain ⟨hslash, hdot⟩ := h rfl
      rw [Lead.text, List.append_nil]
      unfold takeLead
      split
      · next heq => exact absurd heq hslash
      · next heq => exact absurd heq hdot
      · rfl
  | slash => simp [takeLead, Lead.text]
  | dot => simp [takeLead, Lead.text]

/-- A text before a placeholder without a lead ends in nothing that could be one. -/
theorem getLast?_takeLead {cs : List Char} (h : (takeLead cs).2 = .none) :
    (takeLead cs).1.getLast? ≠ some '/' ∧ (takeLead cs).1.getLast? ≠ some '.' := by
  unfold takeLead at h ⊢
  split at h
  · cases h
  · cases h
  · next hslash hdot => exact ⟨hslash, hdot⟩

theorem not_mem_takeLead {cs : List Char} {c : Char} (h : c ∉ cs) : c ∉ (takeLead cs).1 := by
  intro hmem
  apply h
  rw [← takeLead_append cs]
  exact List.mem_append_left _ hmem

/-! ## From patterns to segments -/

theorem head?_textOf_literal {text : List Char} {segments : List Segment} (hne : text ≠ []) :
    (textOf (.literal text :: segments)).head? = text.head? := by
  obtain ⟨c, cs, rfl⟩ := List.exists_cons_of_ne_nil hne
  rfl

theorem canonical_ofText {start : Nat} {cs : List Char} (h : '[' ∉ cs) :
    Canonical start (ofText cs) := by
  cases cs with
  | nil => exact canonical_nil start
  | cons c cs =>
      rw [ofText, canonical_cons_iff]
      refine ⟨⟨List.cons_ne_nil c cs, h⟩, ?_, canonical_nil _⟩
      simp

theorem size_beforeBracket (start : Nat) (cs inner : List Char) (optional : Bool) :
    Utf8.size (textOf (beforeBracket start cs inner optional)) =
      Utf8.size cs + Utf8.size inner + 2 + if optional then 1 else 0 := by
  rw [textOf_beforeBracket]
  have hbracket : '['.utf8Size = 1 ∧ ']'.utf8Size = 1 ∧ '?'.utf8Size = 1 := by decide
  obtain ⟨hopening, hclosing, hmark⟩ := hbracket
  cases optional <;> simp [hopening, hclosing, hmark] <;> omega

/-- A text, a placeholder behind it and the segments that follow are canonical. -/
theorem canonical_beforeBracket {start stop : Nat} {cs inner : List Char} {optional : Bool}
    {later : List Segment} (hcs : '[' ∉ cs) (hne : inner ≠ []) (hopening : '[' ∉ inner)
    (hclosing : ']' ∉ inner)
    (hstop : start + Utf8.size (textOf (beforeBracket start cs inner optional)) = stop)
    (hlater : Canonical stop later)
    (hnext : optional = false → (textOf later).head? ≠ some '?') :
    Canonical start (beforeBracket start cs inner optional ++ later) := by
  let p : Placeholder :=
    ⟨(takeLead cs).2, inner, optional, start + Utf8.size (takeLead cs).1⟩
  have hplaceholder : Canonical (start + Utf8.size (takeLead cs).1) (.placeholder p :: later) := by
    rw [canonical_cons_iff]
    refine ⟨⟨rfl, rfl, Placeholder.wellWritten hne hopening hclosing⟩, ?_, ?_⟩
    · intro next hmem
      cases later with
      | nil => cases hmem
      | cons first later =>
          obtain rfl := Option.some.inj hmem
          cases first with
          | placeholder q => trivial
          | literal text =>
              intro hoptional
              rw [canonical_cons_iff] at hlater
              rw [← head?_textOf_literal hlater.1.1]
              exact hnext hoptional
    · have hsize : start + Utf8.size (takeLead cs).1 + Utf8.size (Segment.placeholder p).text =
          stop := by
        rw [← hstop]
        simp only [beforeBracket, textOf_append, textOf_ofText, Text.Utf8.size_append,
          Nat.add_assoc]
        simp [textOf, p]
      rw [hsize]
      exact hlater
  -- If the lead was all there was, no literal segment stands before the placeholder.
  cases hkept : (takeLead cs).1 with
  | nil =>
      have hsegments : beforeBracket start cs inner optional = [.placeholder p] := by
        simp [beforeBracket, hkept, ofText, p]
      rw [hkept] at hplaceholder
      rw [hsegments]
      exact hplaceholder
  | cons c kept =>
      have hsegments : beforeBracket start cs inner optional =
          [.literal (c :: kept), .placeholder p] := by
        simp [beforeBracket, hkept, ofText, p]
      rw [hsegments, List.cons_append, canonical_cons_iff]
      rw [hkept] at hplaceholder
      refine ⟨⟨List.cons_ne_nil c kept, hkept ▸ not_mem_takeLead hcs⟩, ?_, hplaceholder⟩
      intro next hmem
      obtain rfl := Option.some.inj hmem
      intro hlead
      rw [← hkept]
      exact getLast?_takeLead hlead

/-- What a placeholder that is complete leaves to be read. -/
theorem canonical_of_bind {start stop : Nat} {cs inner behind : List Char} (optional : Bool)
    {segments : List Segment} (hcs : '[' ∉ cs) (hne : inner ≠ []) (hopening : '[' ∉ inner)
    (hclosing : ']' ∉ inner)
    (hstop : start + Utf8.size (textOf (beforeBracket start cs inner optional)) = stop)
    (hnext : optional = false → behind.head? ≠ some '?')
    (hlater : ∀ later, scanText stop [] behind = .ok later → Canonical stop later)
    (h : (do
      let later ← scanText stop [] behind
      pure (beforeBracket start cs inner optional ++ later)) = .ok segments) :
    Canonical start segments := by
  obtain ⟨later, hscan, hsegments⟩ := bind_eq_ok_iff.1 h
  rw [← pure_eq_ok_iff.1 hsegments]
  apply canonical_beforeBracket hcs hne hopening hclosing hstop (hlater later hscan)
  rw [textOf_scanText hscan]
  exact hnext

mutual

theorem canonical_scanText {start : Nat} {cs rest : List Char} {segments : List Segment}
    (h : scanText start cs rest = .ok segments) (hcs : '[' ∉ cs) : Canonical start segments := by
  match rest with
  | [] =>
      rw [scanText] at h
      rw [← Except.ok.inj h]
      exact canonical_ofText hcs
  | c :: rest =>
      rw [scanText] at h
      split at h
      · exact canonical_scanInner h hcs List.not_mem_nil List.not_mem_nil
      · next hc =>
          apply canonical_scanText h
          simp [hcs, Ne.symm hc]
termination_by rest.length

theorem canonical_scanInner {start : Nat} {cs inner rest : List Char} {segments : List Segment}
    (h : scanInner start cs inner rest = .ok segments) (hcs : '[' ∉ cs) (hopening : '[' ∉ inner)
    (hclosing : ']' ∉ inner) : Canonical start segments := by
  match rest with
  | [] => cases h
  | c :: rest =>
      rw [scanInner] at h
      split at h
      · cases h
      · next hc =>
          split at h
          · split at h
            · cases h
            · next hne =>
                have hne : inner ≠ [] := by simpa using hne
                dsimp only at h
                split at h
                · next behind =>
                    apply canonical_of_bind true hcs hne hopening hclosing _ nofun _ h
                    · rw [size_beforeBracket, if_pos rfl]
                      omega
                    · intro later hlater
                      exact canonical_scanText hlater List.not_mem_nil
                · next hmark =>
                    apply canonical_of_bind false hcs hne hopening hclosing _ _ _ h
                    · rw [size_beforeBracket, if_neg Bool.false_ne_true]
                      omega
                    · intro _ hhead
                      obtain ⟨behind, rfl⟩ := List.head?_eq_some_iff.1 hhead
                      exact hmark behind rfl
                    · intro later hlater
                      exact canonical_scanText hlater List.not_mem_nil
          · next hc' =>
              apply canonical_scanInner h hcs
              · simp [hopening, Ne.symm hc]
              · simp [hclosing, Ne.symm hc']
termination_by rest.length

end

theorem canonical_scan {pattern : String} {segments : List Segment}
    (h : scan pattern = .ok segments) : Canonical 0 segments :=
  canonical_scanText h List.not_mem_nil

/-! ## From segments to patterns -/

theorem scanText_append (start : Nat) {cs ds : List Char} (h : '[' ∉ ds) (rest : List Char) :
    scanText start cs (ds ++ rest) = scanText start (cs ++ ds) rest := by
  induction ds generalizing cs with
  | nil => rw [List.nil_append, List.append_nil]
  | cons d ds ih =>
      rw [List.mem_cons, not_or] at h
      rw [List.cons_append, scanText, if_neg (Ne.symm h.1), ih h.2, List.append_assoc,
        List.singleton_append]

theorem scanInner_append (start : Nat) {cs inner ds : List Char} (hopening : '[' ∉ ds)
    (hclosing : ']' ∉ ds) (rest : List Char) :
    scanInner start cs inner (ds ++ rest) = scanInner start cs (inner ++ ds) rest := by
  induction ds generalizing inner with
  | nil => rw [List.nil_append, List.append_nil]
  | cons d ds ih =>
      rw [List.mem_cons, not_or] at hopening hclosing
      rw [List.cons_append, scanInner, if_neg (Ne.symm hopening.1), if_neg (Ne.symm hclosing.1),
        ih hopening.2 hclosing.2, List.append_assoc, List.singleton_append]

/-- A placeholder ends with its closing bracket, or with the question mark behind it. -/
theorem scanInner_close (start : Nat) {cs inner : List Char} (hne : inner ≠ []) (optional : Bool)
    {rest : List Char} (hnext : optional = false → rest.head? ≠ some '?') :
    scanInner start cs inner (']' :: ((if optional then ['?'] else []) ++ rest)) = (do
      let later ← scanText
        (start + Utf8.size (textOf (beforeBracket start cs inner optional))) [] rest
      pure (beforeBracket start cs inner optional ++ later)) := by
  have hinner : inner.isEmpty = false := List.isEmpty_eq_false_iff.2 hne
  rw [size_beforeBracket, scanInner, if_neg (by decide), if_pos rfl, hinner,
    if_neg Bool.false_ne_true]
  cases optional with
  | true => simp only [if_true, List.singleton_append, Nat.add_assoc]
  | false =>
      simp only [Bool.false_eq_true, if_false, List.nil_append, Nat.add_zero, Nat.add_assoc]
      split
      · exact absurd rfl (hnext rfl)
      · rfl

/-- A text and a placeholder behind it are found again. -/
theorem scanText_placeholder {start : Nat} {kept : List Char} {p : Placeholder}
    (hkept : '[' ∉ kept)
    (hlead : p.lead = .none → kept.getLast? ≠ some '/' ∧ kept.getLast? ≠ some '.')
    (hp : (Segment.placeholder p).CanonicalAt (start + Utf8.size kept)) {rest : List Char}
    (hnext : p.optional = false → rest.head? ≠ some '?') :
    scanText start [] (kept ++ (p.full ++ rest)) = (do
      let later ← scanText (start + Utf8.size kept + Utf8.size p.full) [] rest
      pure (ofText kept ++ .placeholder p :: later)) := by
  obtain ⟨hoffset, -, hwritten⟩ := hp
  have htext : '[' ∉ kept ++ p.lead.text := by
    rw [List.mem_append, not_or]
    refine ⟨hkept, ?_⟩
    cases p.lead <;> decide
  have hsegments : beforeBracket start (kept ++ p.lead.text) p.inner p.optional =
      ofText kept ++ [.placeholder p] := by
    rw [beforeBracket, takeLead_append_text hlead]
    dsimp only
    rw [← hoffset]
  have hsource : kept ++ (p.full ++ rest) = (kept ++ p.lead.text) ++
      ('[' :: (p.inner ++ (']' :: ((if p.optional then ['?'] else []) ++ rest)))) := by
    simp [Placeholder.full]
  rw [hsource, scanText_append start htext, List.nil_append, scanText, if_pos rfl,
    scanInner_append start hwritten.noOpening hwritten.noClosing, List.nil_append,
    scanInner_close start hwritten.inner_ne_nil p.optional hnext, hsegments, textOf_append,
    textOf_ofText, Text.Utf8.size_append, Nat.add_assoc]
  simp [textOf, text]

theorem textOf_cons (segment : Segment) (segments : List Segment) :
    textOf (segment :: segments) = segment.text ++ textOf segments :=
  List.flatMap_cons

/-- No question mark follows a placeholder that is not optional. -/
theorem Canonical.head?_textOf {start : Nat} {p : Placeholder} {later : List Segment}
    (h : Canonical start (.placeholder p :: later)) (hp : p.optional = false) :
    (textOf later).head? ≠ some '?' := by
  rw [canonical_cons_iff] at h
  obtain ⟨-, hnext, hlater⟩ := h
  cases later with
  | nil => exact nofun
  | cons next later =>
      rw [canonical_cons_iff] at hlater
      cases next with
      | literal text =>
          rw [head?_textOf_literal hlater.1.1]
          exact hnext _ rfl hp
      | placeholder q =>
          rw [textOf_cons, text, Placeholder.full]
          cases q.lead <;> simp [Lead.text]

/-- The text of canonical segments is scanned as these segments. -/
theorem scanText_textOf {start : Nat} {segments : List Segment} (h : Canonical start segments) :
    scanText start [] (textOf segments) = .ok segments := by
  match segments with
  | [] => rfl
  | .placeholder p :: later =>
      have hmark := h.head?_textOf
      rw [canonical_cons_iff] at h
      obtain ⟨hp, -, hlater⟩ := h
      have hscan := @scanText_placeholder start [] p List.not_mem_nil
        (fun _ => ⟨nofun, nofun⟩) hp (textOf later) hmark
      have hrest := scanText_textOf hlater
      rw [List.nil_append] at hscan
      rw [text] at hrest
      rw [textOf_cons, text, hscan, Text.Utf8.size_nil, Nat.add_zero, hrest]
      rfl
  | [.literal content] =>
      rw [canonical_cons_iff] at h
      obtain ⟨c, cs, rfl⟩ := List.exists_cons_of_ne_nil h.1.1
      rw [textOf_cons, text, scanText_of_not_mem start]
      · simp [textOf, ofText]
      · simpa [textOf] using h.1.2
  | .literal content :: .literal other :: later =>
      rw [canonical_cons_iff] at h
      exact (h.2.1 _ rfl).elim
  | .literal content :: .placeholder p :: later =>
      rw [canonical_cons_iff] at h
      obtain ⟨hcontent, hnext, hplaceholder⟩ := h
      have hmark := hplaceholder.head?_textOf
      rw [canonical_cons_iff] at hplaceholder
      obtain ⟨hp, -, hlater⟩ := hplaceholder
      have hscan := scanText_placeholder hcontent.2 (hnext _ rfl) hp hmark
      have hrest := scanText_textOf hlater
      obtain ⟨c, cs, rfl⟩ := List.exists_cons_of_ne_nil hcontent.1
      rw [text, text] at hrest
      rw [textOf_cons, textOf_cons, text, text, hscan, hrest]
      rfl

/-- The segments of a pattern are the canonical ones with its text. -/
theorem scan_eq_ok_iff {pattern : String} {segments : List Segment} :
    scan pattern = .ok segments ↔
      Canonical 0 segments ∧ String.ofList (textOf segments) = pattern := by
  constructor
  · intro h
    refine ⟨canonical_scan h, ?_⟩
    rw [textOf_scan h, String.ofList_toList]
  · rintro ⟨hcanonical, rfl⟩
    rw [scan, String.toList_ofList]
    exact scanText_textOf hcanonical

/-- A dot behind a placeholder leads to the next one; places are counted in octets. -/
example : scan "/é[:a]?.[b:c]" = .ok [.literal "/é".toList,
    .placeholder ⟨.none, ":a".toList, true, 3⟩, .placeholder ⟨.dot, "b:c".toList, false, 8⟩] := by
  decide

end Segment

end PathRouter.Pattern
