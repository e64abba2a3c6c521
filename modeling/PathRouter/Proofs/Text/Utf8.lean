import PathRouter.Text.Utf8
import Mathlib.Data.List.Basic

/-!
# Reading what was encoded

The octets of a text read as the text. A character has one to four octets; the first one announces
the others, and each of the others adds six bits.
-/

namespace PathRouter.Text.Utf8

theorem toNat_ofNat {n : Nat} (h : n < 256) : (UInt8.ofNat n).toNat = n := by
  simp [Nat.mod_eq_of_lt h]

/-! ## First octets -/

theorem of?_one {n : Nat} (h : n < 0x80) : Lead.of? n = some ⟨n, 0, 0x80, 0xBF⟩ := if_pos h

theorem of?_two {n : Nat} (hlow : 2 ≤ n) (hhigh : n < 0x20) :
    Lead.of? (n + 0xC0) = some ⟨n, 1, 0x80, 0xBF⟩ := by
  rw [Lead.of?, if_neg (by omega), if_neg (by omega), if_pos (by omega), Nat.add_sub_cancel]

theorem of?_three {n : Nat} (h : n < 0x10) :
    Lead.of? (n + 0xE0) =
      some ⟨n, 2, if n = 0 then 0xA0 else 0x80, if n = 0xD then 0x9F else 0xBF⟩ := by
  rw [Lead.of?, if_neg (by omega), if_neg (by omega), if_neg (by omega)]
  by_cases hzero : n = 0
  · subst hzero
    rfl
  · by_cases hsurrogate : n = 0xD
    · subst hsurrogate
      rfl
    · rw [if_neg (by simpa using hzero), if_neg (by simp; omega), if_pos (by omega),
        if_neg hzero, if_neg hsurrogate, Nat.add_sub_cancel]

theorem of?_four {n : Nat} (h : n ≤ 4) :
    Lead.of? (n + 0xF0) =
      some ⟨n, 3, if n = 0 then 0x90 else 0x80, if n = 4 then 0x8F else 0xBF⟩ := by
  match n, h with
  | 0, _ => rfl
  | 1, _ => rfl
  | 2, _ => rfl
  | 3, _ => rfl
  | 4, _ => rfl

/-! ## Further octets -/

theorem read_first {n : Nat} (h : n < 256) {lead : Lead} (hlead : Lead.of? n = some lead)
    (hmore : lead.followers ≠ 0) (bs : List UInt8) :
    read .start (UInt8.ofNat n :: bs) =
      read (.inside lead.bits lead.followers lead.low lead.high) bs := by
  rw [read, toNat_ofNat h, read.first, hlead]
  exact if_neg hmore

theorem read_next {bits owed low high n : Nat} (hn : n < 64) (hlow : low ≤ n + 0x80)
    (hhigh : n + 0x80 ≤ high) (bs : List UInt8) :
    read (.inside bits (owed + 2) low high) (UInt8.ofNat (n + 0x80) :: bs) =
      read (.inside (bits * 64 + n) (owed + 1) 0x80 0xBF) bs := by
  rw [read, toNat_ofNat (by omega), if_pos ⟨hlow, hhigh⟩, Nat.add_sub_cancel]
  rfl

theorem read_last {bits low high n : Nat} (hn : n < 64) (hlow : low ≤ n + 0x80)
    (hhigh : n + 0x80 ≤ high) (bs : List UInt8) :
    read (.inside bits 1 low high) (UInt8.ofNat (n + 0x80) :: bs) =
      some (Char.ofNat (bits * 64 + n)) :: read .start bs := by
  rw [read, toNat_ofNat (by omega), if_pos ⟨hlow, hhigh⟩, Nat.add_sub_cancel]
  rfl

/-! ## Characters -/

/-- The octets of a character read as the character, whatever follows. -/
theorem read_char (c : Char) (bs : List UInt8) :
    read .start (String.utf8EncodeChar c ++ bs) = some c :: read .start bs := by
  have hchar : Char.ofNat c.val.toNat = c := Char.ofNat_toNat c
  have hvalid : c.val.toNat < 0xD800 ∨ 0xDFFF < c.val.toNat ∧ c.val.toNat < 0x110000 := c.valid
  generalize hv : c.val.toNat = v at hchar hvalid
  rw [String.utf8EncodeChar]
  simp only [hv]
  split
  · next h1 =>
      rw [List.singleton_append, read, toNat_ofNat (by omega), read.first, of?_one (by omega)]
      exact congrArg (fun c => some c :: read .start bs) hchar
  · next h1 =>
      split
      · next h2 =>
          have hsum : v / 64 % 0x20 * 64 + v % 0x40 = v := by omega
          simp only [List.cons_append, List.nil_append]
          rw [read_first (by omega) (of?_two (by omega) (by omega)) Nat.one_ne_zero,
            read_last (by omega) (Nat.le_add_left _ _) (by dsimp only; omega), hsum, hchar]
      · next h2 =>
          split
          · next h3 =>
              have hsum : (v / 4096 % 0x10 * 64 + v / 64 % 0x40) * 64 + v % 0x40 = v := by omega
              simp only [List.cons_append, List.nil_append]
              rw [read_first (by omega) (of?_three (by omega)) (by simp),
                read_next (by omega) (by dsimp only; split <;> omega)
                  (by dsimp only; split <;> omega),
                read_last (by omega) (by simp) (by omega), hsum, hchar]
          · next h3 =>
              have hsum : ((v / 262144 % 0x8 * 64 + v / 4096 % 0x40) * 64 + v / 64 % 0x40) * 64 +
                  v % 0x40 = v := by omega
              simp only [List.cons_append, List.nil_append]
              rw [read_first (by omega) (of?_four (by omega)) (by simp),
                read_next (by omega) (by dsimp only; split <;> omega)
                  (by dsimp only; split <;> omega),
                read_next (by omega) (by simp) (by omega),
                read_last (by omega) (by simp) (by omega), hsum, hchar]

/-- The octets of a text are read as the text, whatever follows. -/
theorem read_encode_append (cs : List Char) (bs : List UInt8) :
    read .start (encode cs ++ bs) = cs.map some ++ read .start bs := by
  induction cs with
  | nil => rfl
  | cons c cs ih => rw [encode_cons, List.append_assoc, read_char, ih, List.map_cons,
      List.cons_append]

theorem read_encode (cs : List Char) : read .start (encode cs) = cs.map some := by
  have h := read_encode_append cs []
  rw [List.append_nil] at h
  rw [h]
  simp [read]

/-- Octets that encode a text are this text. -/
theorem decode?_encode (cs : List Char) : decode? (encode cs) = some cs := by
  rw [decode?, read_encode]
  induction cs with
  | nil => rfl
  | cons c cs ih => rw [List.map_cons, List.mapM_cons, ih]; rfl

/-- The octets of a text read as the text. -/
theorem decodeLossy_encode (cs : List Char) : decodeLossy (encode cs) = cs := by
  calc
    decodeLossy (encode cs) = (cs.map some).map (·.getD replacement) := by
      rw [decodeLossy, read_encode]
    _ = cs := by
      rw [List.map_map]
      exact List.map_id cs

/-! ## Octets of a text -/

theorem length_encode (cs : List Char) : (encode cs).length = size cs := by
  induction cs with
  | nil => rfl
  | cons c cs ih =>
      rw [encode_cons, List.length_append, String.length_utf8EncodeChar, ih, size_cons]

/-- An ASCII character is its own octet. -/
theorem encode_small {c : Char} (h : c.toNat < 0x80) (cs : List Char) :
    encode (c :: cs) = UInt8.ofNat c.toNat :: encode cs := by
  have hone : String.utf8EncodeChar c = [UInt8.ofNat c.toNat] := if_pos (Nat.le_of_lt_succ h)
  rw [encode_cons, hone, List.singleton_append]

/-- The octet of an ASCII character is no octet of any other character. -/
theorem not_mem_utf8EncodeChar {c d : Char} (hd : d.toNat < 0x80) (hne : c ≠ d) :
    UInt8.ofNat d.toNat ∉ String.utf8EncodeChar c := by
  have hother {n : Nat} (hn : n < 256) (hne : n ≠ d.toNat) :
      UInt8.ofNat d.toNat ≠ UInt8.ofNat n := by
    intro h
    have hnat := congrArg UInt8.toNat h
    rw [toNat_ofNat hn, toNat_ofNat (by omega)] at hnat
    exact hne hnat.symm
  have hself : c.val.toNat ≠ d.toNat := fun h => hne (Char.toNat_inj.1 h)
  unfold String.utf8EncodeChar
  dsimp only
  intro hmem
  split at hmem
  · rw [List.mem_singleton] at hmem
    exact hother (by omega) hself hmem
  · split at hmem
    · simp only [List.mem_cons, List.not_mem_nil, or_false] at hmem
      rcases hmem with h | h <;> exact hother (by omega) (by omega) h
    · split at hmem <;> simp only [List.mem_cons, List.not_mem_nil, or_false] at hmem
      · rcases hmem with h | h | h <;> exact hother (by omega) (by omega) h
      · rcases hmem with h | h | h | h <;> exact hother (by omega) (by omega) h

/-- If the octets of a text begin with those of another one, so does the text. -/
theorem exists_of_encode_eq_append {cs earlier : List Char} {bs : List UInt8}
    (h : encode cs = encode earlier ++ bs) :
    ∃ later, cs = earlier ++ later ∧ encode later = bs := by
  have hread := read_encode_append earlier bs
  rw [← h, read_encode] at hread
  obtain ⟨before, later, rfl, hbefore, -⟩ := List.map_eq_append_iff.1 hread
  obtain rfl : before = earlier := List.map_injective_iff.2 (fun _ _ => Option.some.inj) hbefore
  rw [encode_append] at h
  exact ⟨later, rfl, List.append_cancel_left h⟩

/-- If the octets of a text begin with that of an ASCII character, the text begins with the
character. -/
theorem exists_of_encode_eq_cons {cs : List Char} {c : Char} (hc : c.toNat < 0x80)
    {bs : List UInt8} (h : encode cs = UInt8.ofNat c.toNat :: bs) :
    ∃ later, cs = c :: later ∧ encode later = bs := by
  cases cs with
  | nil => cases h
  | cons d later =>
      obtain rfl : d = c := by
        by_contra hne
        obtain ⟨b, octets, hoctets⟩ := List.exists_cons_of_length_pos
          (String.length_utf8EncodeChar d ▸ d.utf8Size_pos)
        rw [encode_cons, hoctets, List.cons_append] at h
        apply not_mem_utf8EncodeChar hc hne
        rw [hoctets, (List.cons.inj h).1]
        exact List.mem_cons_self
      rw [encode_small hc] at h
      exact ⟨later, rfl, (List.cons.inj h).2⟩

end PathRouter.Text.Utf8
