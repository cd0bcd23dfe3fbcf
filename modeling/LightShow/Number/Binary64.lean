/-!
Binary floating-point numbers read exactly: a finite value is a signed natural mantissa times a
power of two, and rounding to integers or to a fixed number of decimal places is done on that pair,
without any intermediate rounding.
-/

set_option autoImplicit false

namespace LightShow

/-- The value `± mantissa * 2 ^ exponent` spelled by the bits of a floating-point number. -/
structure Dyadic64 where
  negative : Bool
  mantissa : Nat
  exponent : Int
  deriving DecidableEq, Repr

namespace Dyadic64

/-- Reads a bit pattern. The patterns of the infinities give `± 2 ^ 1024`, which is the value they
would have if the exponent range went on. -/
def ofBits (bits : UInt64) : Dyadic64 :=
  let word := bits.toNat
  let fraction := word % Nat.pow 2 52
  let biased : Nat := word / Nat.pow 2 52 % Nat.pow 2 11
  if biased = 0 then ⟨Nat.pow 2 63 ≤ word, fraction, -1074⟩
  else ⟨Nat.pow 2 63 ≤ word, Nat.pow 2 52 + fraction, (biased : Int) - 1075⟩

/-- `mantissa * 2 ^ exponent * scale` to the nearest natural number, a tie going up. -/
def scaledMagnitude (x : Dyadic64) (scale : Nat) : Nat :=
  if 0 ≤ x.exponent then x.mantissa * scale * Nat.pow 2 x.exponent.toNat
  else
    let unit := Nat.pow 2 (-x.exponent).toNat
    (2 * (x.mantissa * scale) + unit) / (2 * unit)

/-- The value times `scale` to the nearest integer, a tie going away from zero. -/
def scaledRound (x : Dyadic64) (scale : Nat) : Int :=
  if x.negative then -(x.scaledMagnitude scale : Int) else x.scaledMagnitude scale

end Dyadic64

/-- What a floating-point number is, besides its digits. -/
inductive FloatKind where
  | notANumber
  | infinite (negative : Bool)
  | finite (value : Dyadic64)
  deriving DecidableEq, Repr

/-- Sorts a number by its bit pattern. -/
def FloatKind.ofFloat (x : Float) : FloatKind :=
  let bits := x.toBits
  let value := Dyadic64.ofBits bits
  if bits.toNat / Nat.pow 2 52 % Nat.pow 2 11 = 2047 then
    if bits.toNat % Nat.pow 2 52 = 0 then .infinite value.negative else .notANumber
  else .finite value

/-- The nearest integer, a tie going away from zero. What is no number counts as zero. -/
def roundAway (x : Float) : Int :=
  match FloatKind.ofFloat x with
  | .notANumber => 0
  | _ => (Dyadic64.ofBits x.toBits).scaledRound 1

end LightShow
