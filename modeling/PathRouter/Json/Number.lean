import PathRouter.Decimal.Shortest
import PathRouter.Text.Digit

/-!
# Numbers in JSON texts

A number without a fraction and an exponent is an integer, as long as it fits into 64 bits; any
other is a floating-point number. One that is too large for a floating-point number is refused.
-/

namespace PathRouter.Json

/-- Why a text is no JSON text. -/
inductive Fault where
  /-- It ends too early. -/
  | ended
  /-- Something stands in it that cannot stand there. -/
  | malformed
deriving DecidableEq, Repr

/-- A number. -/
inductive Number where
  | natural (n : Nat)
  /-- The number `-n`. -/
  | negative (n : Nat)
  /-- A floating-point number by its bits. -/
  | float (bits : UInt64)
deriving DecidableEq, Repr

namespace Number

/-- What a number is called. -/
def describe : Number → String
  | .natural n => s!"integer \x60{n}\x60"
  | .negative n => s!"integer \x60-{n}\x60"
  | .float bits => s!"floating point \x60{Decimal.textOfBits bits}\x60"

/-- The greatest significand that is kept. -/
def maxSignificand : Nat := Nat.pow 2 64 - 1

/-- Digits behind a significand, as far as it fits into 64 bits, and the digits that are left. -/
def extend (significand : Nat) : List Char → Nat × List Char
  | [] => (significand, [])
  | c :: cs =>
    if significand * 10 + Text.digit c ≤ maxSignificand then
      extend (significand * 10 + Text.digit c) cs
    else (significand, c :: cs)

/-- A power of ten up to the greatest one that is a floating-point number. -/
def powerOfTen (n : Nat) : Float := Float.ofScientific 1 false n

/-- Multiplies a floating-point number by a power of ten, in steps that are themselves
floating-point numbers. There is no result if it would be infinite. -/
def scale? (f : Float) (exponent : Int) : Nat → Option Float
  | 0 => some f
  | fuel + 1 =>
    if exponent.natAbs ≤ 308 then
      if 0 ≤ exponent then
        let g := f * powerOfTen exponent.natAbs
        if g.isInf then none else some g
      else some (f / powerOfTen exponent.natAbs)
    else if f == 0.0 then some f
    else if 0 ≤ exponent then none
    else scale? (f / powerOfTen 308) (exponent + 308) fuel

/-- The floating-point number `significand · 10 ^ exponent` with a sign. -/
def float? (negative : Bool) (significand : Nat) (exponent : Int) : Option Number :=
  (scale? significand.toUInt64.toFloat exponent 4).map fun f =>
    .float (if negative then -f else f).toBits

/-- The parts of a number as written. -/
structure Written where
  negative : Bool
  /-- The digits before the point. -/
  whole : List Char
  /-- The digits behind the point, if there is one. -/
  fraction : Option (List Char)
  /-- Whether the exponent is negative, and its digits, if there is one. -/
  exponent : Option (Bool × List Char)

/-- The number that is written. Digits that do not fit count for the size only. -/
def Written.number? (w : Written) : Option Number :=
  let (significand, dropped) := extend 0 w.whole
  match w.fraction, w.exponent with
  | none, none =>
    if !dropped.isEmpty then float? w.negative significand dropped.length
    else if !w.negative then some (.natural significand)
    else if significand = 0 ∨ Nat.pow 2 63 < significand then float? true significand 0
    else some (.negative significand)
  | fraction, exponent =>
    let digits := fraction.getD []
    let (significand, rest) := extend significand digits
    let shift : Int := (dropped.length : Int) - (digits.length - rest.length : Nat)
    match exponent with
    | none => float? w.negative significand shift
    | some (negativeExponent, exponentDigits) =>
      let e := Text.number exponentDigits
      if Nat.pow 2 31 ≤ e then
        if significand = 0 ∨ negativeExponent then float? w.negative 0 0 else none
      else float? w.negative significand (if negativeExponent then shift - e else shift + e)

/-- The digits at the beginning of a text, of which there must be one. -/
def readDigits (cs : List Char) : Except Fault (List Char × List Char) :=
  match cs with
  | [] => .error .ended
  | c :: _ =>
    if c.isDigit then .ok (cs.takeWhile Char.isDigit, cs.dropWhile Char.isDigit)
    else .error .malformed

/-- Reads the fraction of a number, if there is one. -/
def readFraction : List Char → Except Fault (Option (List Char) × List Char)
  | '.' :: cs => do
    let (digits, rest) ← readDigits cs
    pure (some digits, rest)
  | cs => .ok (none, cs)

/-- Reads the exponent of a number, if there is one. -/
def readExponent (cs : List Char) : Except Fault (Option (Bool × List Char) × List Char) :=
  match cs with
  | c :: rest =>
    if c = 'e' ∨ c = 'E' then do
      let (below, rest) := match rest with
        | '+' :: rest => (false, rest)
        | '-' :: rest => (true, rest)
        | rest => (false, rest)
      let (digits, rest) ← readDigits rest
      pure (some (below, digits), rest)
    else .ok (none, cs)
  | [] => .ok (none, [])

def read (cs : List Char) : Except Fault (Number × List Char) := do
  let (minus, cs) := match cs with
    | '-' :: cs => (true, cs)
    | cs => (false, cs)
  let (whole, rest) ← readDigits cs
  if whole.head? = some '0' ∧ whole.length ≠ 1 then throw .malformed
  let (fraction, rest) ← readFraction rest
  let (exponent, rest) ← readExponent rest
  match (Written.mk minus whole fraction exponent).number? with
  | some n => pure (n, rest)
  | none => throw .malformed

end Number

end PathRouter.Json
