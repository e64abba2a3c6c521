/-!
# Digits

The values of decimal and hexadecimal digits, and the numbers that they write.
-/

namespace PathRouter.Text

/-- The value of a decimal digit. -/
def digit (c : Char) : Nat := c.toNat - 0x30

/-- The number behind a number and further decimal digits. -/
def extendNumber (n : Nat) (digits : List Char) : Nat :=
  digits.foldl (fun n c => n * 10 + digit c) n

/-- The number that decimal digits write. -/
def number (digits : List Char) : Nat := extendNumber 0 digits

@[simp] theorem number_nil : number [] = 0 := rfl

/-- The value of a hexadecimal digit. -/
def hexDigit? (c : Char) : Option Nat :=
  if '0' ≤ c ∧ c ≤ '9' then some (digit c)
  else if 'A' ≤ c ∧ c ≤ 'F' then some (c.toNat - 0x37)
  else if 'a' ≤ c ∧ c ≤ 'f' then some (c.toNat - 0x57)
  else none

/-- The number that hexadecimal digits write, if they are all digits. -/
def hexNumber? (digits : List Char) : Option Nat :=
  (digits.mapM hexDigit?).map fun values => values.foldl (fun n d => n * 16 + d) 0

/-- The natural number that a text writes in decimal digits, with a plus sign before them or not. -/
def signedNumber? (cs : List Char) : Option Nat :=
  let digits := match cs with
    | '+' :: cs => cs
    | cs => cs
  if !digits.isEmpty && digits.all Char.isDigit then some (number digits) else none

end PathRouter.Text
