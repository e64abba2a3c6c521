import PathRouter.Text.Utf8

/-!
# Percent escapes

An escape is a percent sign and two hexadecimal digits, and stands for one octet. Decoding replaces
every escape once, from left to right, and keeps a percent sign that begins no escape.
-/

namespace PathRouter.Request.Percent

/-- The value of a hexadecimal digit given as an octet. -/
def digit? (b : UInt8) : Option UInt8 :=
  if 0x30 ≤ b ∧ b ≤ 0x39 then some (b - 0x30)
  else if 0x41 ≤ b ∧ b ≤ 0x46 then some (b - 0x37)
  else if 0x61 ≤ b ∧ b ≤ 0x66 then some (b - 0x57)
  else none

/-- The octet of a pair of hexadecimal digits. -/
def octet? (high low : UInt8) : Option UInt8 :=
  match digit? high, digit? low with
  | some h, some l => some (h * 16 + l)
  | _, _ => none

/-- Replaces every escape by its octet. -/
def decode : List UInt8 → List UInt8
  | [] => []
  | [b] => [b]
  | [b, c] => [b, c]
  | b :: high :: low :: rest =>
    if b = 0x25 then
      match octet? high low with
      | some octet => octet :: decode rest
      | none => b :: decode (high :: low :: rest)
    else b :: decode (high :: low :: rest)

/-- The text that a percent-escaped text spells; octets that are no text are read as replacement
characters. -/
def decodeText (cs : List Char) : List Char :=
  Text.Utf8.decodeLossy (decode (Text.Utf8.encode cs))

end PathRouter.Request.Percent
