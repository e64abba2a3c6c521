/-!
# Shortest decimals

The decimal with the fewest digits that reads back as a given binary floating-point number, and its
text. A decimal reads back as a number if it lies in the interval of reals that round to the number;
the ends of the interval belong to it if the significand is even. Of several decimals with the
fewest digits the one next to the number is taken, and of two equally near ones the even one.
-/

namespace PathRouter.Decimal

/-- A positive binary number: `significand · 2 ^ exponent`. -/
structure Binary where
  significand : Nat
  exponent : Int
  /-- Whether the next smaller number is only half as far away as the next greater one. -/
  narrowBelow : Bool

/-- A decimal: `digits · 10 ^ exponent`. -/
structure Scientific where
  digits : Nat
  exponent : Int
deriving DecidableEq, Repr

/-- A power with the exponent cut off at zero. -/
def power (base : Nat) (exponent : Int) : Nat := Nat.pow base exponent.toNat

/-- The decimal on the grid of multiples of `10 ^ grid` that is next to a number and reads back as
it, if there is one. -/
def onGrid? (b : Binary) (grid : Int) : Option Scientific :=
  -- Everything is measured in quarters of the distance to the next number.
  let unit := power 10 grid * power 2 (2 - b.exponent)
  let scale := power 2 (b.exponent - 2) * power 10 (-grid)
  let value := 4 * b.significand * scale
  let low := (4 * b.significand - if b.narrowBelow then 1 else 2) * scale
  let high := (4 * b.significand + 2) * scale
  let closed := b.significand % 2 == 0
  let readsBack := fun d : Nat =>
    0 < d && (low < d * unit || (closed && low == d * unit)) &&
      (d * unit < high || (closed && d * unit == high))
  let below := value / unit
  let above := below + 1
  let fromBelow := value - below * unit
  let toAbove := above * unit - value
  let preferBelow := fromBelow < toAbove || (fromBelow == toAbove && below % 2 == 0)
  let (first, second) := if preferBelow then (below, above) else (above, below)
  if readsBack first then some ⟨first, grid⟩
  else if readsBack second then some ⟨second, grid⟩
  else none

/-- The grids from the coarsest to the finest one. -/
def grids : List Int := (List.range 650).map fun i : Nat => 310 - (i : Int)

/-- The shortest decimal that reads back as a number. -/
def shortest (b : Binary) : Scientific :=
  (grids.findSome? (onGrid? b)).getD ⟨b.significand, b.exponent⟩

/-- The absolute value of a number with the given bits, if it is finite and not zero. -/
def Binary.ofBits? (bits : UInt64) : Option Binary :=
  let n := bits.toNat % Nat.pow 2 63
  let exponent : Nat := n / Nat.pow 2 52
  let fraction : Nat := n % Nat.pow 2 52
  if exponent = 0x7FF ∨ n = 0 then none
  else if exponent = 0 then some ⟨fraction, -1074, false⟩
  else some ⟨Nat.pow 2 52 + fraction, Int.ofNat exponent - 1075, fraction == 0 && exponent != 1⟩

/-- The text of a decimal: positional with a point if it is neither too large nor too small for
that, and otherwise with an exponent. -/
def Scientific.text (d : Scientific) : String :=
  let digits := (Nat.repr d.digits).toList
  let length := digits.length
  let point : Int := length + d.exponent
  let zeros := fun n : Int => List.replicate n.toNat '0'
  if 0 ≤ d.exponent ∧ point ≤ 16 then
    String.ofList (digits ++ zeros d.exponent ++ ['.', '0'])
  else if 0 < point ∧ point ≤ 16 then
    String.ofList (digits.take point.toNat ++ '.' :: digits.drop point.toNat)
  else if -5 < point ∧ point ≤ 0 then
    String.ofList ('0' :: '.' :: zeros (-point) ++ digits)
  else
    let rest := digits.drop 1
    String.ofList (digits.take 1 ++ (if rest.isEmpty then [] else '.' :: rest) ++ ['e']) ++
      toString (point - 1)

/-- The text of a finite number with the given bits. -/
def textOfBits (bits : UInt64) : String :=
  let sign := if Nat.pow 2 63 ≤ bits.toNat then "-" else ""
  match Binary.ofBits? bits with
  | none => sign ++ "0.0"
  | some b => sign ++ (shortest b).text

end PathRouter.Decimal
