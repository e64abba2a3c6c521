import PathRouter.Pattern.TypeRegistry
import PathRouter.Proofs.Regex.Building
import PathRouter.Proofs.Regex.Reading

/-!
# Value classes

The built-in expressions of placeholders ask for one or more characters of a class. Here the six
classes are said by the characters they hold; the expression of a class is read as one repetition
of a set of characters, and that set holds the characters of the class and no others.
-/

namespace PathRouter.Pattern

open Regex (Expr Term)
open Unicode (CharSet)

/-- The classes of characters that values of placeholders are made of. -/
inductive ValueClass where
  | digits
  /-- ASCII letters and decimal digits. -/
  | alphanumerics
  | hexDigits
  /-- All characters but the slash. -/
  | segment
  /-- All characters but the line feed. -/
  | rest
  /-- All characters but the slash and the dot. -/
  | stem
deriving DecidableEq, Repr

namespace ValueClass

/-- Whether a character belongs to a class. -/
def accepts : ValueClass → Char → Bool
  | .digits, c => c.isDigit
  | .alphanumerics, c => c.isAlphanum
  | .hexDigits, c => c.isDigit || ('A' ≤ c && c ≤ 'F') || ('a' ≤ c && c ≤ 'f')
  | .segment, c => c != '/'
  | .rest, c => c != '\n'
  | .stem, c => c != '/' && c != '.'

/-- The built-in expression of a class. -/
def fragment : ValueClass → String
  | .digits => "[0-9]+"
  | .alphanumerics => "[0-9A-Za-z]+"
  | .hexDigits => "[0-9A-Fa-f]+"
  | .segment => "[^/]+"
  | .rest => ".+"
  | .stem => "[^/.]+"

/-- The class of a built-in expression. -/
def ofFragment? (text : String) : Option ValueClass :=
  [digits, alphanumerics, hexDigits, segment, rest, stem].find? fun k => k.fragment == text

theorem ofFragment?_fragment (k : ValueClass) : ofFragment? k.fragment = some k := by
  cases k <;> decide

theorem ofFragment?_eq_some_iff {text : String} {k : ValueClass} :
    ofFragment? text = some k ↔ text = k.fragment := by
  constructor
  · intro h
    have hk := List.find?_some h
    exact (beq_iff_eq.1 hk).symm
  · rintro rfl
    exact k.ofFragment?_fragment

/-- The built-in expressions are those of the classes. -/
theorem mem_builtInTypes_iff {text : String} :
    text ∈ TypeRegistry.builtInTypes.map (·.2) ↔ ∃ k, ofFragment? text = some k := by
  simp only [ofFragment?_eq_some_iff]
  constructor
  · intro h
    simp only [TypeRegistry.builtInTypes, List.map_cons, List.map_nil, List.mem_cons,
      List.not_mem_nil, or_false] at h
    rcases h with rfl | rfl | rfl | rfl | rfl | rfl
    · exact ⟨digits, rfl⟩
    · exact ⟨alphanumerics, rfl⟩
    · exact ⟨hexDigits, rfl⟩
    · exact ⟨segment, rfl⟩
    · exact ⟨rest, rfl⟩
    · exact ⟨stem, rfl⟩
  · rintro ⟨k, rfl⟩
    cases k <;> decide

/-! ## Reading -/

/-- The item that a class repeats, as written. -/
def item : ValueClass → Expr
  | .digits => .chars (.bracket false (.range ⟨'0', false⟩ ⟨'9', false⟩))
  | .alphanumerics => .chars (.bracket false (.union [.range ⟨'0', false⟩ ⟨'9', false⟩,
      .range ⟨'A', false⟩ ⟨'Z', false⟩, .range ⟨'a', false⟩ ⟨'z', false⟩]))
  | .hexDigits => .chars (.bracket false (.union [.range ⟨'0', false⟩ ⟨'9', false⟩,
      .range ⟨'A', false⟩ ⟨'F', false⟩, .range ⟨'a', false⟩ ⟨'f', false⟩]))
  | .segment => .chars (.bracket true (.literal ⟨'/', false⟩))
  | .rest => .dot
  | .stem => .chars (.bracket true (.union [.literal ⟨'/', false⟩, .literal ⟨'.', false⟩]))

/-- The syntax tree of the expression of a class. -/
def expr (k : ValueClass) : Expr := .repetition 1 none false k.item

section Reading
open Regex.Parser Text
variable (level : Level) (outer : List Level) (groups : Nat) (names : List String)

theorem consume_item (k : ValueClass) (text : List Char) :
    consume step 0 (outside level outer groups names) (k.fragment.toList ++ text) =
      consume step 0 (outside (level.add [k.item]) outer groups names) ('+' :: text) := by
  cases k with
  | digits =>
      change consume step 0 _ ('[' :: '0' :: '-' :: '9' :: ']' :: '+' :: text) = _
      rw [consume_openClass _ _ _ _ (by decide),
        consume_range _ _ _ _ (by decide) (by decide) (by decide), consume_closeClass]
      rfl
  | alphanumerics =>
      change consume step 0 _ ('[' :: '0' :: '-' :: '9' :: 'A' :: '-' :: 'Z' :: 'a' :: '-' ::
        'z' :: ']' :: '+' :: text) = _
      rw [consume_openClass _ _ _ _ (by decide),
        consume_range _ _ _ _ (by decide) (by decide) (by decide),
        consume_range _ _ _ _ (by decide) (by decide) (by decide),
        consume_range _ _ _ _ (by decide) (by decide) (by decide), consume_closeClass]
      rfl
  | hexDigits =>
      change consume step 0 _ ('[' :: '0' :: '-' :: '9' :: 'A' :: '-' :: 'F' :: 'a' :: '-' ::
        'f' :: ']' :: '+' :: text) = _
      rw [consume_openClass _ _ _ _ (by decide),
        consume_range _ _ _ _ (by decide) (by decide) (by decide),
        consume_range _ _ _ _ (by decide) (by decide) (by decide),
        consume_range _ _ _ _ (by decide) (by decide) (by decide), consume_closeClass]
      rfl
  | segment =>
      change consume step 0 _ ('[' :: '^' :: '/' :: ']' :: '+' :: text) = _
      rw [consume_openNegated _ _ _ _ (by decide),
        consume_single _ _ _ _ (by decide) (by decide), consume_closeClass]
      rfl
  | rest =>
      change consume step 0 _ ('.' :: '+' :: text) = _
      exact Text.consume_cons_of_step_zero rfl
  | stem =>
      change consume step 0 _ ('[' :: '^' :: '/' :: '.' :: ']' :: '+' :: text) = _
      rw [consume_openNegated _ _ _ _ (by decide),
        consume_single _ _ _ _ (by decide) (by decide),
        consume_single _ _ _ _ (by decide) (by decide), consume_closeClass]
      rfl

theorem item_ne_flags (k : ValueClass) (change : Regex.FlagChange) : k.item ≠ .flags change := by
  cases k <;> exact Expr.noConfusion

/-- The expression of a class is read as one repetition, whatever follows but a question mark. -/
theorem consume_fragment (k : ValueClass) {text : List Char} (htext : text.head? ≠ some '?') :
    consume step 0 (outside level outer groups names) (k.fragment.toList ++ text) =
      consume step 0 (outside (level.add [k.expr]) outer groups names) text := by
  rw [consume_item, consume_oneOrMore _ _ _ _ k.item_ne_flags htext]
  rfl

end Reading

/-! ## Meaning -/

/-- The set of the characters of a class. -/
def set : ValueClass → CharSet
  | .digits => ⟨[(0x30, 0x39)]⟩
  | .alphanumerics => ⟨[(0x30, 0x39), (0x41, 0x5A), (0x61, 0x7A)]⟩
  | .hexDigits => ⟨[(0x30, 0x39), (0x41, 0x46), (0x61, 0x66)]⟩
  | .segment => ⟨[(0, 0x2E), (0x30, 0xD7FF), (0xE000, 0x10FFFF)]⟩
  | .rest => ⟨[(0, 0x09), (0x0B, 0xD7FF), (0xE000, 0x10FFFF)]⟩
  | .stem => ⟨[(0, 0x2D), (0x30, 0xD7FF), (0xE000, 0x10FFFF)]⟩

theorem contains_set (k : ValueClass) (c : Char) : k.set.contains c = k.accepts c := by
  have hvalid : c.toNat < 0xD800 ∨ 0xDFFF < c.toNat ∧ c.toNat < 0x110000 := c.valid
  have hle (d : Char) : c ≤ d ↔ c.toNat ≤ d.toNat := Iff.rfl
  have hge (d : Char) : d ≤ c ↔ d.toNat ≤ c.toNat := Iff.rfl
  have heq (d : Char) : c = d ↔ c.toNat = d.toNat := Char.toNat_inj.symm
  have hval : c.val.toNat = c.toNat := rfl
  have hdigit : c.isDigit = (decide (c.val ≥ 48) && decide (c.val ≤ 57)) := rfl
  have hupper : c.isUpper = decide (c.val ≥ 65 ∧ c.val ≤ 90) := rfl
  have hlower : c.isLower = (decide (c.val ≥ 97) && decide (c.val ≤ 122)) := rfl
  have halphanum : c.isAlphanum = (c.isUpper || c.isLower || c.isDigit) := rfl
  rw [Bool.eq_iff_iff]
  cases k <;> simp [set, CharSet.contains, CharSet.within, accepts, halphanum, hupper, hlower,
    hdigit, hle, hge, heq, UInt32.le_iff_toNat_le, hval] <;> omega

def term (k : ValueClass) : Term := .rep 0 1 none true (.read k.set)

theorem term_expr (k : ValueClass) : k.expr.term .default = .ok (k.term, .default) := by
  cases k <;> rfl

end ValueClass

end PathRouter.Pattern
