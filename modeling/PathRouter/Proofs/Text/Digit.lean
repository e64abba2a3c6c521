import Mathlib.Data.Nat.Digits.Defs
import PathRouter.Text.Digit

/-!
# Decimal numerals

A numeral that is made from a number has digits only, writes this number, and begins with a zero
only if it is nothing else.
-/

namespace PathRouter.Text

theorem number_repr (n : Nat) : number (Nat.repr n).toList = n := by
  have h : number (Nat.toDigits 10 n) = Nat.ofDigitChars 10 (Nat.toDigits 10 n) 0 := by
    rw [Nat.ofDigitChars_eq_foldl, number, extendNumber]
    congr 1
    funext n c
    rw [Nat.mul_comm]
    rfl
  rw [Nat.toList_repr, h, Nat.ofDigitChars_ten_toDigits]

theorem isDigit_of_mem_repr {n : Nat} {c : Char} (h : c ∈ (Nat.repr n).toList) :
    c.isDigit = true := by
  rw [Nat.toList_repr] at h
  exact Nat.isDigit_of_mem_toDigits (by decide) (by decide) h

theorem repr_toList_ne_nil (n : Nat) : (Nat.repr n).toList ≠ [] := by
  rw [Nat.toList_repr]
  exact Nat.toDigits_ne_nil

theorem head?_toDigits {n : Nat} (h : 0 < n) : (Nat.toDigits 10 n).head? ≠ some '0' := by
  induction n using Nat.strongRecOn with
  | ind n ih =>
      by_cases hn : n < 10
      · have hall : ∀ d < 10, 0 < d → d.digitChar ≠ '0' := by decide
        rw [Nat.toDigits_of_lt_base hn]
        exact fun heq => hall n hn h (Option.some.inj heq)
      · have hpos : 0 < n / 10 := by omega
        have hne : Nat.toDigits 10 (n / 10) ≠ [] := Nat.toDigits_ne_nil
        rw [Nat.toDigits_of_base_le (by decide) (Nat.le_of_not_lt hn), List.head?_append,
          Option.or_of_isSome (List.isSome_head?.2 hne)]
        exact ih (n / 10) (by omega) hpos

/-- The numeral of a number begins with a zero only if it is nothing else. -/
theorem head?_repr {n : Nat} (h : (Nat.repr n).toList.head? = some '0') : n = 0 := by
  rw [Nat.toList_repr] at h
  by_contra hn
  exact head?_toDigits (Nat.pos_of_ne_zero hn) h

end PathRouter.Text
