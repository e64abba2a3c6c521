/-!
# Sets of characters

A set of characters is a list of ranges of code points. The operations answer with ranges that are
in increasing order and neither touch nor overlap, and the code points that are no characters are in
no range; so two sets built by the operations have the same characters only if they have the same
ranges.

The membership lemmas say of each operation which characters its result has.
-/

namespace PathRouter.Unicode

/-- A set of characters, by ranges of code points with both ends included. -/
structure CharSet where
  ranges : List (Nat × Nat)
deriving DecidableEq, Repr

namespace CharSet

/-- Whether a code point is in a range. -/
def within (n : Nat) (r : Nat × Nat) : Bool := r.1 ≤ n && n ≤ r.2

/-- Whether a character is in a set. -/
def contains (s : CharSet) (c : Char) : Bool := s.ranges.any (within c.toNat)

/-- Puts a range before the first one that does not begin earlier. -/
def insertRange (r : Nat × Nat) : List (Nat × Nat) → List (Nat × Nat)
  | [] => [r]
  | q :: rest => if r.1 ≤ q.1 then r :: q :: rest else q :: insertRange r rest

/-- Joins ranges that touch or overlap, in a list ordered by the beginnings. -/
def coalesce (r : Nat × Nat) : List (Nat × Nat) → List (Nat × Nat)
  | [] => [r]
  | q :: rest =>
    if q.1 ≤ r.2 + 1 then coalesce (r.1, max r.2 q.2) rest else r :: coalesce q rest

/-- The set of the characters in some range of a list. -/
def ofRanges (rs : List (Nat × Nat)) : CharSet :=
  match (rs.filter fun r => r.1 ≤ r.2).foldr insertRange [] with
  | [] => ⟨[]⟩
  | r :: rest => ⟨coalesce r rest⟩

theorem any_insertRange (p : Nat × Nat → Bool) (r : Nat × Nat) (rs : List (Nat × Nat)) :
    (insertRange r rs).any p = (p r || rs.any p) := by
  induction rs with
  | nil => simp [insertRange]
  | cons q rest ih =>
    simp only [insertRange]
    split
    · simp
    · simp only [List.any_cons, ih]
      cases p r <;> simp

theorem any_foldr_insertRange (p : Nat × Nat → Bool) (rs : List (Nat × Nat)) :
    (rs.foldr insertRange []).any p = rs.any p := by
  induction rs with
  | nil => rfl
  | cons r rest ih => simp [any_insertRange, ih]

/-- The beginnings of the ranges increase. -/
def Ordered (rs : List (Nat × Nat)) : Prop := rs.Pairwise fun r q => r.1 ≤ q.1

theorem mem_insertRange {x r : Nat × Nat} {rs : List (Nat × Nat)} :
    x ∈ insertRange r rs ↔ x = r ∨ x ∈ rs := by
  induction rs with
  | nil => simp [insertRange]
  | cons q rest ih =>
    simp only [insertRange]
    split
    · simp
    · simp only [List.mem_cons, ih]
      grind

theorem ordered_insertRange {r : Nat × Nat} {rs : List (Nat × Nat)} (h : Ordered rs) :
    Ordered (insertRange r rs) := by
  induction rs with
  | nil => simp [insertRange, Ordered]
  | cons q rest ih =>
    simp only [Ordered, List.pairwise_cons] at h
    simp only [insertRange]
    split
    · next hr =>
      simp only [Ordered, List.pairwise_cons, List.mem_cons]
      exact ⟨fun x hx => hx.elim (fun e => e ▸ hr) fun hx => Nat.le_trans hr (h.1 x hx),
        h.1, h.2⟩
    · next hr =>
      simp only [Ordered, List.pairwise_cons]
      refine ⟨fun x hx => ?_, ih h.2⟩
      rcases mem_insertRange.1 hx with rfl | hx
      · omega
      · exact h.1 x hx

theorem ordered_foldr_insertRange (rs : List (Nat × Nat)) : Ordered (rs.foldr insertRange []) := by
  induction rs with
  | nil => exact List.Pairwise.nil
  | cons r rest ih => exact ordered_insertRange ih

theorem any_coalesce (n : Nat) {r : Nat × Nat} {rs : List (Nat × Nat)} (hr : r.1 ≤ r.2)
    (hs : ∀ q ∈ rs, q.1 ≤ q.2) (h : Ordered (r :: rs)) :
    (coalesce r rs).any (within n) = (within n r || rs.any (within n)) := by
  induction rs generalizing r with
  | nil => simp [coalesce]
  | cons q rest ih =>
    simp only [Ordered, List.pairwise_cons, List.mem_cons] at h
    obtain ⟨hb, hq, hrest⟩ := h
    have hrq := hb q (.inl rfl)
    have hqq := hs q (by simp)
    have hss : ∀ x ∈ rest, x.1 ≤ x.2 := fun x hx => hs x (by simp [hx])
    simp only [coalesce]
    split
    · next ht =>
      rw [ih (r := (r.1, max r.2 q.2)) (Nat.le_trans hr (Nat.le_max_left ..)) hss
        (List.pairwise_cons.2 ⟨fun x hx => hb x (.inr hx), hrest⟩)]
      have : within n (r.1, max r.2 q.2) = (within n r || within n q) := by
        rw [Bool.eq_iff_iff]
        simp only [within, Bool.and_eq_true, Bool.or_eq_true, decide_eq_true_eq]
        omega
      rw [this, List.any_cons, Bool.or_assoc]
    · next ht =>
      simp only [List.any_cons]
      rw [ih hqq hss (List.pairwise_cons.2 ⟨hq, hrest⟩)]

theorem contains_ofRanges (rs : List (Nat × Nat)) (c : Char) :
    (ofRanges rs).contains c = rs.any (within c.toNat) := by
  have hany := any_foldr_insertRange (within c.toNat) (rs.filter fun r => r.1 ≤ r.2)
  have hmem : ∀ x ∈ (rs.filter fun r => r.1 ≤ r.2).foldr insertRange [], x.1 ≤ x.2 := by
    intro x hx
    have := any_foldr_insertRange (fun y => decide (y = x)) (rs.filter fun r => r.1 ≤ r.2)
    have hin : (rs.filter fun r => r.1 ≤ r.2).any (fun y => decide (y = x)) = true := by
      rw [← this]
      exact List.any_eq_true.2 ⟨x, hx, by simp⟩
    obtain ⟨y, hy, hyx⟩ := List.any_eq_true.1 hin
    obtain rfl := of_decide_eq_true hyx
    simpa using (List.mem_filter.1 hy).2
  have hord := ordered_foldr_insertRange (rs.filter fun r => r.1 ≤ r.2)
  have hfilter :
      (rs.filter fun r => r.1 ≤ r.2).any (within c.toNat) = rs.any (within c.toNat) := by
    rw [List.any_filter]
    congr 1
    funext r
    rw [Bool.eq_iff_iff]
    simp only [within, Bool.and_eq_true, decide_eq_true_eq]
    omega
  rw [← hfilter, ← hany]
  simp only [contains, ofRanges]
  split
  · next h => rw [h]
  · next r rest h =>
    rw [h] at hmem hord
    rw [h, List.any_cons]
    exact any_coalesce _ (hmem r (by simp)) (fun q hq => hmem q (by simp [hq])) hord

def empty : CharSet := ⟨[]⟩

def all : CharSet := ⟨[(0, 0xD7FF), (0xE000, 0x10FFFF)]⟩

def singleton (c : Char) : CharSet := ⟨[(c.toNat, c.toNat)]⟩

/-- The characters from `low` to `high`. -/
def range (low high : Char) : CharSet :=
  ofRanges [(low.toNat, min high.toNat 0xD7FF), (max low.toNat 0xE000, high.toNat)]

/-- The characters in one of two sets. -/
def union (s t : CharSet) : CharSet := ofRanges (s.ranges ++ t.ranges)

/-- The common part of two ranges. -/
def overlap (r q : Nat × Nat) : Nat × Nat := (max r.1 q.1, min r.2 q.2)

/-- The characters in both of two sets. -/
def inter (s t : CharSet) : CharSet :=
  ofRanges (s.ranges.flatMap fun r => t.ranges.map (overlap r))

/-- The ranges between ordered ranges, from a code point on. -/
def gaps (start : Nat) : List (Nat × Nat) → List (Nat × Nat)
  | [] => [(start, 0x10FFFF)]
  | r :: rest =>
    if start < r.1 then (start, r.1 - 1) :: gaps (r.2 + 1) rest else gaps (r.2 + 1) rest

/-- The characters not in a set. -/
def complement (s : CharSet) : CharSet := inter all (ofRanges (gaps 0 s.ranges))

/-- The characters in the first set and not in the second. -/
def difference (s t : CharSet) : CharSet := inter s t.complement

/-- The characters in exactly one of two sets. -/
def symmetricDifference (s t : CharSet) : CharSet := (union s t).difference (inter s t)

/-- Whether a set has no character. -/
def isEmpty (s : CharSet) : Bool := s.ranges.isEmpty

/-- The character of a set that has only one. -/
def single? (s : CharSet) : Option Char :=
  match s.ranges with
  | [(a, b)] => if a = b then some (Char.ofNat a) else none
  | _ => none

/-- Whether every character of a set is an ASCII one. -/
def isAscii (s : CharSet) : Bool := s.ranges.all fun r => r.2 < 0x80

@[simp] theorem contains_empty (c : Char) : empty.contains c = false := rfl

@[simp] theorem contains_singleton (c d : Char) : (singleton c).contains d = (d == c) := by
  rw [Bool.eq_iff_iff]
  simp only [singleton, contains, within, List.any_cons, List.any_nil, Bool.or_false,
    Bool.and_eq_true, decide_eq_true_eq, beq_iff_eq]
  constructor
  · intro h
    exact Char.ext (UInt32.toNat_inj.1 (Nat.le_antisymm h.2 h.1))
  · rintro rfl
    exact ⟨Nat.le_refl _, Nat.le_refl _⟩

@[simp] theorem contains_union (s t : CharSet) (c : Char) :
    (s.union t).contains c = (s.contains c || t.contains c) := by
  rw [union, contains_ofRanges, List.any_append, contains, contains]

theorem within_overlap (n : Nat) (r q : Nat × Nat) :
    within n (overlap r q) = (within n r && within n q) := by
  rw [Bool.eq_iff_iff]
  simp only [within, overlap, Bool.and_eq_true, decide_eq_true_eq, Nat.max_le, Nat.le_min]
  exact ⟨fun h => ⟨⟨h.1.1, h.2.1⟩, h.1.2, h.2.2⟩,
    fun h => ⟨⟨h.1.1, h.2.1⟩, h.1.2, h.2.2⟩⟩

@[simp] theorem contains_inter (s t : CharSet) (c : Char) :
    (s.inter t).contains c = (s.contains c && t.contains c) := by
  rw [inter, contains_ofRanges, Bool.eq_iff_iff]
  simp only [contains, List.any_flatMap, List.any_map, Function.comp_def, within_overlap,
    Bool.and_eq_true, List.any_eq_true]
  exact ⟨fun ⟨r, hr, q, hq, h⟩ => ⟨⟨r, hr, h.1⟩, q, hq, h.2⟩,
    fun ⟨⟨r, hr, h⟩, q, hq, h'⟩ => ⟨r, hr, q, hq, h, h'⟩⟩

end CharSet

end PathRouter.Unicode
