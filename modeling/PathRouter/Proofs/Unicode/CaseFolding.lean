import PathRouter.Unicode.CaseOrbit

/-!
# Equality up to case

The characters that are equal up to case to an ASCII character. Only letters have such characters
beside themselves, and only two letters have one beyond ASCII: the Kelvin sign is equal to `k` up to
case and the long s to `s`.
-/

namespace PathRouter.Unicode

/-- Two characters have one simple case folding. -/
def SameFolding (c d : Char) : Prop :=
  c = d ∨ ∃ orbit ∈ caseOrbits, c.toNat ∈ orbit ∧ d.toNat ∈ orbit

/-- The orbit of a letter, by its place in the alphabet. -/
def letterOrbit (i : Nat) : List Nat :=
  [0x41 + i, 0x61 + i] ++ if i = 10 then [0x212A] else if i = 18 then [0x17F] else []

/-- The orbits with an ASCII character are those of the letters. -/
theorem filter_caseOrbits :
    (caseOrbits.filter fun orbit => orbit.any (· < 0x80)) = (List.range 26).map letterOrbit := by
  decide +kernel

theorem exists_letterOrbit {orbit : List Nat} (h : orbit ∈ caseOrbits) {n : Nat} (hn : n < 0x80)
    (hmem : n ∈ orbit) : ∃ i < 26, orbit = letterOrbit i := by
  have horbit : orbit ∈ caseOrbits.filter fun orbit => orbit.any (· < 0x80) := by
    rw [List.mem_filter, List.any_eq_true]
    exact ⟨h, n, hmem, decide_eq_true hn⟩
  rw [filter_caseOrbits] at horbit
  obtain ⟨i, hi, rfl⟩ := List.mem_map.1 horbit
  exact ⟨i, List.mem_range.1 hi, rfl⟩

theorem letterOrbit_mem {i : Nat} (h : i < 26) : letterOrbit i ∈ caseOrbits := by
  have horbit : letterOrbit i ∈ (List.range 26).map letterOrbit :=
    List.mem_map_of_mem (List.mem_range.2 h)
  rw [← filter_caseOrbits] at horbit
  exact (List.mem_filter.1 horbit).1

theorem mem_letterOrbit {i n : Nat} : n ∈ letterOrbit i ↔
    n = 0x41 + i ∨ n = 0x61 + i ∨ (i = 10 ∧ n = 0x212A) ∨ (i = 18 ∧ n = 0x17F) := by
  unfold letterOrbit
  split
  · simp; omega
  · split
    · simp; omega
    · simp; omega

theorem letterOrbit_unique {i j n : Nat} (hi : i < 26) (hj : j < 26) (hn : n < 0x80)
    (h : n ∈ letterOrbit i) (h' : n ∈ letterOrbit j) : i = j := by
  rw [mem_letterOrbit] at h h'
  omega

theorem toNat_ofNat {n : Nat} (h : n.isValidChar) : (Char.ofNat n).toNat = n := by
  unfold Char.ofNat
  rw [dif_pos h]
  rfl

theorem mem_map_ofNat {i : Nat} (h : i < 26) {d : Char} :
    d ∈ (letterOrbit i).map Char.ofNat ↔ d.toNat ∈ letterOrbit i := by
  constructor
  · intro hd
    obtain ⟨n, hn, rfl⟩ := List.mem_map.1 hd
    have hvalid : n.isValidChar := by
      rw [mem_letterOrbit] at hn
      left
      omega
    rwa [toNat_ofNat hvalid]
  · intro hd
    exact List.mem_map.2 ⟨d.toNat, hd, Char.ofNat_toNat d⟩

/-- The orbit of an ASCII character holds what is equal to it up to case. -/
theorem mem_caseOrbit_iff {c d : Char} (hc : c.toNat < 0x80) :
    d ∈ caseOrbit c ↔ SameFolding d c := by
  unfold caseOrbit
  split
  · next orbit horbit =>
      have hmem := List.mem_of_find?_eq_some horbit
      have hself := List.find?_some horbit
      rw [List.contains_iff_mem] at hself
      obtain ⟨i, hi, rfl⟩ := exists_letterOrbit hmem hc hself
      rw [mem_map_ofNat hi]
      constructor
      · intro hd
        exact .inr ⟨_, hmem, hd, hself⟩
      · rintro (rfl | ⟨orbit, horbit, hd, hc'⟩)
        · exact hself
        · obtain ⟨j, hj, rfl⟩ := exists_letterOrbit horbit hc hc'
          obtain rfl := letterOrbit_unique hi hj hc hself hc'
          exact hd
  · next hnone =>
      rw [List.mem_singleton]
      constructor
      · exact .inl
      · rintro (rfl | ⟨orbit, horbit, -, hc'⟩)
        · rfl
        · exact absurd (List.contains_iff_mem.2 hc') (List.find?_eq_none.1 hnone orbit horbit)

/-! ## ASCII -/

theorem toNat_toLower (c : Char) :
    c.toLower.toNat = if 0x41 ≤ c.toNat ∧ c.toNat ≤ 0x5A then c.toNat + 0x20 else c.toNat := by
  unfold Char.toLower
  split
  · next h =>
      have hupper : 0x41 ≤ c.toNat ∧ c.toNat ≤ 0x5A := h
      rw [if_pos hupper]
      have hgap : ('a'.val - 'A'.val).toNat = 0x20 := rfl
      calc
        (c.val + ('a'.val - 'A'.val)).toNat = (c.toNat + 0x20) % 2 ^ 32 := by
          rw [UInt32.toNat_add, hgap]
          rfl
        _ = c.toNat + 0x20 := Nat.mod_eq_of_lt (by omega)
  · next h =>
      have hother : ¬(0x41 ≤ c.toNat ∧ c.toNat ≤ 0x5A) := h
      rw [if_neg hother]

theorem toLower_toUpper {c : Char} (hc : c.toNat < 0x80) :
    c.toUpper.toLower = c.toLower ∧ c.toUpper.toNat < 0x80 := by
  have hall : ∀ n < 0x80, (Char.ofNat n).toUpper.toLower = (Char.ofNat n).toLower ∧
      (Char.ofNat n).toUpper.toNat < 0x80 := by
    decide +kernel
  have h := hall c.toNat hc
  rwa [Char.ofNat_toNat] at h

/-- ASCII characters are equal up to case if their small letters are the same. -/
theorem sameFolding_iff_toLower {c d : Char} (hc : c.toNat < 0x80) (hd : d.toNat < 0x80) :
    SameFolding c d ↔ c.toLower = d.toLower := by
  rw [← Char.toNat_inj, toNat_toLower, toNat_toLower]
  constructor
  · rintro (rfl | ⟨orbit, horbit, hcm, hdm⟩)
    · rfl
    · obtain ⟨i, hi, rfl⟩ := exists_letterOrbit horbit hc hcm
      rw [mem_letterOrbit] at hcm hdm
      split <;> split <;> omega
  · intro h
    by_cases hcd : c = d
    · exact .inl hcd
    · have hne : c.toNat ≠ d.toNat := fun heq => hcd (Char.toNat_inj.1 heq)
      -- One of them is a capital letter, and the other one its small letter.
      let i := min c.toNat d.toNat - 0x41
      have hi : i < 26 := by
        split at h <;> split at h <;> omega
      right
      refine ⟨letterOrbit i, letterOrbit_mem hi, ?_⟩
      rw [mem_letterOrbit, mem_letterOrbit]
      split at h <;> split at h <;> omega

end PathRouter.Unicode
