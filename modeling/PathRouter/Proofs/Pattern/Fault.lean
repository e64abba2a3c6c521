import PathRouter.Proofs.Pattern.Canonical
import PathRouter.Proofs.Text.Utf8

/-!
# Brackets at fault

A scan goes on as long as every bracket that opens also closes around something. It stops at the
first one that does not, and the next bracket behind that one says what is wrong with it. Main
statement: a scan fails exactly with the fault of that bracket, and there is at most one.
-/

namespace PathRouter.Pattern

open Text.Utf8 (encode size)

/-! ## Texts without faults -/

/-- Every bracket that opens closes around something that has no brackets. A question mark behind a
closing bracket belongs to the placeholder. -/
inductive WellBracketed : List Char → Prop where
  | nil : WellBracketed []
  | plain {c : Char} {rest : List Char} : c ≠ '[' → WellBracketed rest → WellBracketed (c :: rest)
  | placeholder {inner rest : List Char} (optional : Bool) : inner ≠ [] → '[' ∉ inner →
      ']' ∉ inner → (optional = false → rest.head? ≠ some '?') → WellBracketed rest →
      WellBracketed ('[' :: (inner ++ ']' :: ((if optional then ['?'] else []) ++ rest)))

namespace Segment

/-- Behind a text without faults a scan goes on as it would begin there. -/
theorem scanText_wellBracketed {before : List Char} (h : WellBracketed before) {rest : List Char}
    (hrest : rest.head? ≠ some '?') (start : Nat) (cs : List Char) :
    ∃ stop text earlier, stop + size text = start + size (cs ++ before) ∧
      scanText start cs (before ++ rest) = (scanText stop text rest).map (earlier ++ ·) := by
  induction h generalizing start cs with
  | nil =>
      refine ⟨start, cs, [], by rw [List.append_nil], ?_⟩
      cases hscan : scanText start cs rest <;> simp [hscan, Except.map]
  | @plain c before hc _ ih =>
      obtain ⟨stop, text, earlier, hsize, hscan⟩ := ih start (cs ++ [c])
      rw [List.append_assoc, List.singleton_append] at hsize
      refine ⟨stop, text, earlier, hsize, ?_⟩
      rw [List.cons_append, scanText, if_neg hc, hscan]
  | @placeholder inner before optional hne hopening hclosing hmark _ ih =>
      have hnext : optional = false → (before ++ rest).head? ≠ some '?' := by
        intro hoptional
        cases before with
        | nil => exact hrest
        | cons c before => exact hmark hoptional
      obtain ⟨stop, text, earlier, hsize, hscan⟩ := ih
        (start + size (textOf (beforeBracket start cs inner optional))) []
      refine ⟨stop, text, beforeBracket start cs inner optional ++ earlier, ?_, ?_⟩
      · rw [hsize, textOf_beforeBracket]
        simp only [Text.Utf8.size_append, Text.Utf8.size_cons, List.nil_append, List.append_assoc,
          List.cons_append]
        omega
      · have hsource : '[' :: (inner ++ ']' :: ((if optional then ['?'] else []) ++ before)) ++
            rest = '[' :: (inner ++ (']' :: ((if optional then ['?'] else []) ++
              (before ++ rest)))) := by
          simp
        rw [hsource, scanText, if_pos rfl, scanInner_append start hopening hclosing,
          List.nil_append, scanInner_close start hne optional hnext, hscan]
        cases scanText stop text rest <;> simp [Except.map, bind, Except.bind, pure, Except.pure]

/-- What has no faults can be scanned. -/
theorem exists_scanText_of_wellBracketed {cs : List Char} (h : WellBracketed cs) :
    ∃ segments, scanText 0 [] cs = .ok segments := by
  have hend : ([] : List Char).head? ≠ some '?' := nofun
  obtain ⟨stop, text, earlier, -, hscan⟩ := scanText_wellBracketed h hend 0 []
  rw [List.append_nil] at hscan
  exact ⟨earlier ++ ofText text, hscan⟩

end Segment

/-! ## Faults -/

/-- Whether a character is a bracket. -/
def isBracket (c : Char) : Bool := c == '[' || c == ']'

theorem isBracket_iff {c : Char} : isBracket c = true ↔ c = '[' ∨ c = ']' := by
  simp [isBracket]

/-- What stands behind an opening bracket that is at fault in this way. -/
def BracketError.Shows (behind : List Char) : BracketError → Prop
  | .unclosed _ => behind.find? isBracket = none
  | .nested _ => behind.find? isBracket = some '['
  | .empty _ => behind.head? = some ']'

theorem not_mem_of_not_isBracket {cs : List Char} (h : ∀ c ∈ cs, isBracket c = false) :
    '[' ∉ cs ∧ ']' ∉ cs :=
  ⟨fun hmem => absurd (h _ hmem) (by decide), fun hmem => absurd (h _ hmem) (by decide)⟩

/-- A bracket that opens closes around something, or else is at fault. -/
theorem closes_or_shows (behind : List Char) :
    (∃ inner rest, behind = inner ++ ']' :: rest ∧ inner ≠ [] ∧ '[' ∉ inner ∧ ']' ∉ inner) ∨
      ∀ position, ∃ e : BracketError, e.position = position ∧ e.Shows behind := by
  cases hfind : behind.find? isBracket with
  | none => exact .inr fun position => ⟨.unclosed position, rfl, hfind⟩
  | some c =>
      obtain ⟨hc, inner, rest, rfl, hinner⟩ := List.find?_eq_some_iff_append.1 hfind
      rcases isBracket_iff.1 hc with rfl | rfl
      · exact .inr fun position => ⟨.nested position, rfl, hfind⟩
      · cases inner with
        | nil => exact .inr fun position => ⟨.empty position, rfl, rfl⟩
        | cons d inner =>
            have hplain := not_mem_of_not_isBracket fun c hc => by
              simpa using hinner c hc
            exact .inl ⟨d :: inner, rest, rfl, List.cons_ne_nil d inner, hplain⟩

/-- A question mark belongs to the placeholder that it follows. -/
theorem exists_mark (rest : List Char) :
    ∃ optional later, rest = (if optional then ['?'] else []) ++ later ∧
      (optional = false → later.head? ≠ some '?') := by
  by_cases h : rest.head? = some '?'
  · obtain ⟨later, rfl⟩ := List.head?_eq_some_iff.1 h
    exact ⟨true, later, rfl, fun h => Bool.noConfusion h⟩
  · exact ⟨false, rest, rfl, fun _ => h⟩

/-- A text has no faults or a first one. -/
theorem wellBracketed_or_shows (cs : List Char) :
    WellBracketed cs ∨ ∃ before behind, cs = before ++ '[' :: behind ∧ WellBracketed before ∧
      ∀ position, ∃ e : BracketError, e.position = position ∧ e.Shows behind := by
  match cs with
  | [] => exact .inl .nil
  | c :: rest =>
      by_cases hc : c = '['
      · subst hc
        rcases closes_or_shows rest with ⟨inner, closed, rfl, hne, hopening, hclosing⟩ | hshows
        · obtain ⟨optional, later, rfl, hmark⟩ := exists_mark closed
          rcases wellBracketed_or_shows later with hlater | ⟨before, behind, rfl, hbefore, hshows⟩
          · exact .inl (.placeholder optional hne hopening hclosing hmark hlater)
          · refine .inr ⟨_, behind, ?_,
              .placeholder optional hne hopening hclosing ?_ hbefore, hshows⟩
            · simp
            · intro hoptional
              cases before with
              | nil => exact nofun
              | cons d before => exact hmark hoptional
        · exact .inr ⟨[], rest, rfl, .nil, hshows⟩
      · rcases wellBracketed_or_shows rest with hrest | ⟨before, behind, rfl, hbefore, hshows⟩
        · exact .inl (.plain hc hrest)
        · exact .inr ⟨c :: before, behind, rfl, .plain hc hbefore, hshows⟩
termination_by cs.length

namespace Segment

theorem scanInner_of_shows {start : Nat} {cs behind : List Char} {e : BracketError}
    (h : e.Shows behind) (hposition : e.position = start + size cs) :
    scanInner start cs [] behind = .error e := by
  cases e with
  | unclosed position =>
      obtain ⟨hopening, hclosing⟩ := not_mem_of_not_isBracket fun c hc => by
        simpa using List.find?_eq_none.1 h c hc
      have hscan := @scanInner_append start cs [] behind hopening hclosing []
      rw [List.append_nil] at hscan
      rw [hscan, scanInner, ← hposition]
      rfl
  | nested position =>
      obtain ⟨-, inner, rest, rfl, hinner⟩ := List.find?_eq_some_iff_append.1 h
      obtain ⟨hopening, hclosing⟩ := not_mem_of_not_isBracket fun c hc => by
        simpa using hinner c hc
      rw [scanInner_append start hopening hclosing, scanInner, if_pos rfl, ← hposition]
      rfl
  | empty position =>
      obtain ⟨rest, rfl⟩ := List.head?_eq_some_iff.1 h
      rw [scanInner, if_neg (by decide), if_pos rfl, ← hposition]
      rfl

/-- A scan fails with the first fault. -/
theorem scanText_of_shows {before behind : List Char} {e : BracketError}
    (hbefore : WellBracketed before) (h : e.Shows behind) (hposition : e.position = size before) :
    scanText 0 [] (before ++ '[' :: behind) = .error e := by
  have hopening : ('[' :: behind).head? ≠ some '?' := by simp
  obtain ⟨stop, text, earlier, hsize, hscan⟩ := scanText_wellBracketed hbefore hopening 0 []
  rw [List.nil_append, Nat.zero_add, ← hposition] at hsize
  rw [hscan, scanText, if_pos rfl, scanInner_of_shows h hsize.symm]
  rfl

theorem exists_scanText_iff {cs : List Char} :
    (∃ segments, scanText 0 [] cs = .ok segments) ↔ WellBracketed cs := by
  constructor
  · rintro ⟨segments, hscan⟩
    rcases wellBracketed_or_shows cs with h | ⟨before, behind, rfl, hbefore, hshows⟩
    · exact h
    · obtain ⟨e, hposition, he⟩ := hshows (size before)
      rw [scanText_of_shows hbefore he hposition] at hscan
      cases hscan
  · exact exists_scanText_of_wellBracketed

end Segment

/-! ## Faults by octets -/

def octets (text : String) : List UInt8 := encode text.toList

/-- Whether an octet is a bracket. -/
def isBracketOctet (b : UInt8) : Bool := b == '['.toUInt8 || b == ']'.toUInt8

/-- What the octets behind an opening bracket are that is at fault in this way: no bracket comes
next, an opening one, or at once a closing one. -/
def BracketError.Explains (behind : List UInt8) : BracketError → Prop
  | .unclosed _ => behind.find? isBracketOctet = none
  | .nested _ => behind.find? isBracketOctet = some '['.toUInt8
  | .empty _ => behind.head? = some ']'.toUInt8

/-- At the position of the fault stands an opening bracket, what stands before it can be scanned,
and what stands behind it explains the fault. -/
structure Offends (pattern : String) (e : BracketError) : Prop where
  opening : (octets pattern)[e.position]? = some '['.toUInt8
  before : ∃ earlier segments, octets earlier = (octets pattern).take e.position ∧
    Segment.scan earlier = .ok segments
  behind : e.Explains ((octets pattern).drop (e.position + 1))

theorem find?_isBracketOctet_encode (cs : List Char) :
    (encode cs).find? isBracketOctet = (cs.find? isBracket).map Char.toUInt8 := by
  induction cs with
  | nil => rfl
  | cons c cs ih =>
      cases hc : isBracket c with
      | true =>
          rw [List.find?_cons_of_pos hc]
          rcases isBracket_iff.1 hc with rfl | rfl <;> rfl
      | false =>
          have hnone : (String.utf8EncodeChar c).find? isBracketOctet = none := by
            apply List.find?_eq_none.2
            intro b hb hbracket
            simp only [isBracketOctet, Bool.or_eq_true, beq_iff_eq] at hbracket
            rcases hbracket with rfl | rfl
            · exact Text.Utf8.not_mem_utf8EncodeChar (d := '[') (by decide)
                (by rintro rfl; cases hc) hb
            · exact Text.Utf8.not_mem_utf8EncodeChar (d := ']') (by decide)
                (by rintro rfl; cases hc) hb
          rw [Text.Utf8.encode_cons, List.find?_append, hnone, Option.none_or, ih,
            List.find?_cons_of_neg (by simp [hc])]

theorem BracketError.explains_encode_iff {behind : List Char} {e : BracketError} :
    e.Explains (encode behind) ↔ e.Shows behind := by
  cases e with
  | unclosed position =>
      simp only [Explains, Shows, find?_isBracketOctet_encode, Option.map_eq_none_iff]
  | nested position =>
      simp only [Explains, Shows, find?_isBracketOctet_encode, Option.map_eq_some_iff]
      constructor
      · rintro ⟨c, hfind, hc⟩
        rcases isBracket_iff.1 (List.find?_some hfind) with rfl | rfl
        · exact hfind
        · exact absurd hc (by decide)
      · intro hfind
        exact ⟨'[', hfind, rfl⟩
  | empty position =>
      simp only [Explains, Shows, List.head?_eq_some_iff]
      constructor
      · rintro ⟨bs, hbehind⟩
        obtain ⟨later, rfl, -⟩ := Text.Utf8.exists_of_encode_eq_cons (c := ']') (by decide) hbehind
        exact ⟨later, rfl⟩
      · rintro ⟨later, rfl⟩
        exact ⟨_, Text.Utf8.encode_small (by decide) later⟩

/-- The octets of a pattern show the first fault where its characters do. -/
theorem offends_iff {pattern : String} {e : BracketError} :
    Offends pattern e ↔ ∃ before behind, pattern.toList = before ++ '[' :: behind ∧
      e.position = size before ∧ WellBracketed before ∧ e.Shows behind := by
  constructor
  · rintro ⟨hopening, ⟨earlier, segments, hearlier, hscan⟩, hbehind⟩
    obtain ⟨hlt, hopening⟩ := List.getElem?_eq_some_iff.1 hopening
    have hsplit : encode pattern.toList = encode earlier.toList ++
        ('['.toUInt8 :: (octets pattern).drop (e.position + 1)) := by
      rw [← hopening, ← List.drop_eq_getElem_cons hlt]
      exact (hearlier ▸ List.take_append_drop e.position (octets pattern)).symm
    obtain ⟨later, hpattern, hlater⟩ := Text.Utf8.exists_of_encode_eq_append hsplit
    obtain ⟨behind, rfl, henc⟩ := Text.Utf8.exists_of_encode_eq_cons (c := '[') (by decide) hlater
    rw [← henc, BracketError.explains_encode_iff] at hbehind
    have hsize : e.position = size earlier.toList := by
      have hlength := congrArg List.length hearlier
      rw [List.length_take, Nat.min_eq_left (Nat.le_of_lt hlt)] at hlength
      rw [← hlength, octets, Text.Utf8.length_encode]
    exact ⟨earlier.toList, behind, hpattern, hsize,
      Segment.exists_scanText_iff.1 ⟨segments, hscan⟩, hbehind⟩
  · rintro ⟨before, behind, hpattern, hsize, hbefore, hshows⟩
    obtain ⟨segments, hscan⟩ := Segment.exists_scanText_iff.2 hbefore
    have hoctets : octets pattern = encode before ++ ('['.toUInt8 :: encode behind) := by
      rw [octets, hpattern, Text.Utf8.encode_append, Text.Utf8.encode_small (by decide)]
      rfl
    rw [← Text.Utf8.length_encode] at hsize
    refine ⟨?_, ⟨String.ofList before, segments, ?_, ?_⟩, ?_⟩
    · rw [hoctets, hsize, List.getElem?_append_right (Nat.le_refl _), Nat.sub_self]
      rfl
    · rw [hoctets, hsize, List.take_left, octets, String.toList_ofList]
    · rw [Segment.scan, String.toList_ofList, hscan]
    · have hdrop : (octets pattern).drop (e.position + 1) = encode behind := by
        rw [hoctets, hsize]
        simp
      rw [hdrop, BracketError.explains_encode_iff]
      exact hshows

/-! ## Scans that fail -/

/-- A scan fails exactly with the fault of an opening bracket before which there is none, and it
succeeds exactly if there is no such bracket; there is at most one, and it has only one fault. -/
theorem scan_eq_error_iff (pattern : String) :
    (∀ e, Segment.scan pattern = .error e ↔ Offends pattern e) ∧
      ((∃ segments, Segment.scan pattern = .ok segments) ↔ ∀ e, ¬Offends pattern e) ∧
      ∀ e e', Offends pattern e → Offends pattern e' → e = e' := by
  have herror (e : BracketError) (h : Offends pattern e) : Segment.scan pattern = .error e := by
    obtain ⟨before, behind, hpattern, hposition, hbefore, hshows⟩ := offends_iff.1 h
    rw [Segment.scan, hpattern]
    exact Segment.scanText_of_shows hbefore hshows hposition
  have hoffends (e : BracketError) (h : Segment.scan pattern = .error e) : Offends pattern e := by
    rcases wellBracketed_or_shows pattern.toList with
      hwell | ⟨before, behind, hpattern, hbefore, hshows⟩
    · obtain ⟨segments, hscan⟩ := Segment.exists_scanText_iff.2 hwell
      cases h.symm.trans hscan
    · obtain ⟨e', hposition, he'⟩ := hshows (size before)
      have hfault := offends_iff.2 ⟨before, behind, hpattern, hposition, hbefore, he'⟩
      obtain rfl := Except.error.inj (h.symm.trans (herror e' hfault))
      exact hfault
  refine ⟨fun e => ⟨hoffends e, herror e⟩, ⟨?_, ?_⟩, ?_⟩
  · rintro ⟨segments, hscan⟩ e h
    cases hscan.symm.trans (herror e h)
  · intro hnone
    cases hscan : Segment.scan pattern with
    | ok segments => exact ⟨segments, rfl⟩
    | error e => exact absurd (hoffends e hscan) (hnone e)
  · intro e e' h h'
    exact Except.error.inj ((herror e h).symm.trans (herror e' h'))

/-- Of several faults the first one counts, and its place is counted in octets. -/
example : Segment.scan "é]/[a]?[[]" = .error (.nested 8) := by decide

end PathRouter.Pattern
