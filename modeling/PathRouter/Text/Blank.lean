/-!
# Blank characters

The characters with the Unicode property `White_Space`, and the removal of characters from both ends
of a text. The main facts: a trimmed text has no removable character at either end, and trimming
only cuts at the ends.
-/

namespace PathRouter.Text

/-- The code points of `White_Space`. -/
def isBlank (c : Char) : Bool :=
  let n := c.toNat
  (0x09 ≤ n && n ≤ 0x0D) || n == 0x20 || n == 0x85 || n == 0xA0 || n == 0x1680 ||
    (0x2000 ≤ n && n ≤ 0x200A) || n == 0x2028 || n == 0x2029 || n == 0x202F || n == 0x205F ||
    n == 0x3000

/-- Removes the characters satisfying `p` from the end of a text. -/
def trimEnd (p : Char → Bool) (cs : List Char) : List Char :=
  (cs.reverse.dropWhile p).reverse

/-- Removes the characters satisfying `p` from both ends of a text. -/
def trim (p : Char → Bool) (cs : List Char) : List Char :=
  trimEnd p (cs.dropWhile p)

@[simp] theorem trim_nil (p : Char → Bool) : trim p [] = [] := rfl

theorem exists_trimEnd_append (p : Char → Bool) (cs : List Char) :
    ∃ cut, trimEnd p cs ++ cut = cs := by
  refine ⟨(cs.reverse.takeWhile p).reverse, ?_⟩
  rw [trimEnd, ← List.reverse_append, List.takeWhile_append_dropWhile, List.reverse_reverse]

/-- Trimming only cuts at the ends. -/
theorem exists_append_trim_append (p : Char → Bool) (cs : List Char) :
    ∃ before behind, before ++ trim p cs ++ behind = cs := by
  obtain ⟨cut, hcut⟩ := exists_trimEnd_append p (cs.dropWhile p)
  refine ⟨cs.takeWhile p, cut, ?_⟩
  rw [trim, List.append_assoc, hcut, List.takeWhile_append_dropWhile]

theorem neg_of_getLast?_trimEnd {p : Char → Bool} {cs : List Char} {c : Char}
    (h : (trimEnd p cs).getLast? = some c) : p c = false := by
  rw [trimEnd, List.getLast?_reverse] at h
  simpa [h] using List.head?_dropWhile_not p cs.reverse

/-- The last character of a trimmed text is not removable. -/
theorem neg_of_getLast?_trim {p : Char → Bool} {cs : List Char} {c : Char}
    (h : (trim p cs).getLast? = some c) : p c = false :=
  neg_of_getLast?_trimEnd h

/-- The first character of a trimmed text is not removable. -/
theorem neg_of_head?_trim {p : Char → Bool} {cs : List Char} {c : Char}
    (h : (trim p cs).head? = some c) : p c = false := by
  obtain ⟨cut, hcut⟩ := exists_trimEnd_append p (cs.dropWhile p)
  have hd : (cs.dropWhile p).head? = some c := by
    rw [← hcut, List.head?_append]
    exact Option.or_eq_some_iff.2 (.inl h)
  simpa [hd] using List.head?_dropWhile_not p cs

/-- Removes blank characters from both ends of a string. -/
def trimBlank (s : String) : String :=
  String.ofList (trim isBlank s.toList)

end PathRouter.Text
