import LightShow.Number.Binary64

/-!
The shortest decimal that reads back as a given floating-point number. Among the decimals of the
least number of digits it is the one nearest to the number, the larger one when two are as near.
-/

set_option autoImplicit false

namespace LightShow

/-- The decimal `digits * 10 ^ exponent`. -/
structure Decimal where
  digits : Nat
  exponent : Int
  deriving DecidableEq, Repr

namespace Decimal

/-- Moves the zeros at the end of the digits into the exponent, at most `fuel` of them. -/
def strip : Nat → Decimal → Decimal
  | 0, d => d
  | fuel + 1, d =>
    if d.digits ≠ 0 ∧ d.digits % 10 = 0 then strip fuel ⟨d.digits / 10, d.exponent + 1⟩ else d

end Decimal

/-- A positive number together with the stretch of reals that round to it, all over one
denominator. -/
structure RoundingRange where
  low : Nat
  value : Nat
  high : Nat
  denominator : Nat
  /-- Whether the ends round to the number too. -/
  closed : Bool

namespace RoundingRange

/-- The stretch reaches half way to the neighbours; below a power of two the neighbour is half as
far. -/
def ofDyadic (x : Dyadic64) : RoundingRange :=
  let narrow := x.mantissa = Nat.pow 2 52 ∧ -1074 < x.exponent
  let up := Nat.pow 2 (x.exponent - 2).toNat
  { low := (4 * x.mantissa - if narrow then 1 else 2) * up
    value := 4 * x.mantissa * up
    high := (4 * x.mantissa + 2) * up
    denominator := Nat.pow 2 (2 - x.exponent).toNat
    closed := x.mantissa % 2 = 0 }

/-- Whether `numerator / denominator` lies in the stretch. -/
def contains (r : RoundingRange) (numerator denominator : Nat) : Bool :=
  let point := numerator * r.denominator
  if r.closed then r.low * denominator ≤ point && point ≤ r.high * denominator
  else r.low * denominator < point && point < r.high * denominator

/-- The number of digits before the point, negative for zeros after it: the least `k` with
`value < 10 ^ k`, searched upwards from `k`. -/
def magnitude (r : RoundingRange) : Nat → Int → Int
  | 0, k => k
  | fuel + 1, k =>
    if r.value * Nat.pow 10 (-k).toNat < r.denominator * Nat.pow 10 k.toNat then k
    else magnitude r fuel (k + 1)

/-- The points of the grid of step `10 ^ step` on both sides of the number that read back as it,
the nearer one first. -/
def onGrid (r : RoundingRange) (step : Int) : Option Decimal :=
  let scale := Nat.pow 10 step.toNat
  let unit := Nat.pow 10 (-step).toNat
  let below := r.value * unit / (r.denominator * scale)
  let reads (n : Nat) : Bool := r.contains (n * scale) unit
  let gapBelow := r.value * unit - below * scale * r.denominator
  let gapAbove := (below + 1) * scale * r.denominator - r.value * unit
  if reads below && (!reads (below + 1) || gapBelow < gapAbove) then some ⟨below, step⟩
  else if reads (below + 1) then some ⟨below + 1, step⟩
  else none

/-- Tries grids of one digit more each time. Seventeen digits always suffice. -/
def search (r : RoundingRange) (top : Int) : Nat → Nat → Decimal
  | 0, count => ⟨r.value / r.denominator, top - count⟩
  | fuel + 1, count => (r.onGrid (top - count)).getD (search r top fuel (count + 1))

end RoundingRange

/-- The shortest decimal of a magnitude. -/
def shortestDecimal (x : Dyadic64) : Decimal :=
  if x.mantissa = 0 then ⟨0, 0⟩
  else
    let range := RoundingRange.ofDyadic x
    (range.search (range.magnitude 700 (-330)) 17 1).strip 20

end LightShow
