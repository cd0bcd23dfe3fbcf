import LightShow.Number.Shortest

/-!
Number texts: shortest digits in positional notation, with or without an exponent for very large and
very small values, and numbers with a fixed count of decimal places.
-/

set_option autoImplicit false

namespace LightShow

/-- The decisions a number text leaves open. -/
structure NumberStyle where
  /-- Whether a whole number keeps a zero after the point. -/
  wholePoint : Bool
  /-- Whether magnitudes from `10 ^ 16` and below `10 ^ -4` take an exponent. -/
  exponents : Bool
  notANumber : String
  infinity : String

namespace NumberStyle

/-- For messages: never an exponent, no point in whole numbers. -/
def message : NumberStyle := ⟨false, false, "NaN", "inf"⟩

/-- For reports of a record: a point in whole numbers, exponents at the far ends. -/
def report : NumberStyle := ⟨true, true, "NaN", "inf"⟩

/-- For settings files: a point in whole numbers, never an exponent. -/
def settings : NumberStyle := ⟨true, false, "nan", "inf"⟩

end NumberStyle

namespace Decimal

/-- Positional notation: the digits before the point and those after it. -/
def positional (d : Decimal) : String × String :=
  let digits := Nat.toDigits 10 d.digits
  if 0 ≤ d.exponent then
    (String.ofList (digits ++ List.replicate d.exponent.toNat '0'), "")
  else
    let places := (-d.exponent).toNat
    let padded := List.replicate (places + 1 - digits.length) '0' ++ digits
    let whole := padded.length - places
    (String.ofList (padded.take whole), String.ofList (padded.drop whole))

/-- The power of ten of the first digit. -/
def leadingExponent (d : Decimal) : Int :=
  d.exponent + (Nat.toDigits 10 d.digits).length - 1

/-- One digit before the point, the others after it, and the power of ten. -/
def scientific (d : Decimal) : String :=
  let digits := Nat.toDigits 10 d.digits
  let rest := String.ofList (digits.drop 1)
  String.ofList (digits.take 1) ++ (if rest.isEmpty then "" else "." ++ rest) ++ "e"
    ++ toString d.leadingExponent

/-- The text of a magnitude. -/
def format (style : NumberStyle) (d : Decimal) : String :=
  let far := d.digits ≠ 0 ∧ (16 ≤ d.leadingExponent ∨ d.leadingExponent < -4)
  if style.exponents ∧ far then d.scientific
  else
    let (whole, places) := d.positional
    if places.isEmpty then (if style.wholePoint then whole ++ ".0" else whole)
    else whole ++ "." ++ places

end Decimal

/-- The shortest text of a number that reads back as it. -/
def formatNumber (style : NumberStyle) (x : Float) : String :=
  match FloatKind.ofFloat x with
  | .notANumber => style.notANumber
  | .infinite negative => (if negative then "-" else "") ++ style.infinity
  | .finite value =>
    (if value.negative then "-" else "") ++ (shortestDecimal value).format style

/-- A quotient to the nearest natural number, a tie going to the even one. -/
def divideToEven (numerator denominator : Nat) : Nat :=
  let quotient := numerator / denominator
  let twice := 2 * (numerator % denominator)
  if denominator < twice ∨ (twice = denominator ∧ quotient % 2 = 1) then quotient + 1 else quotient

/-- A number with so many decimal places. -/
def formatFixed (places : Nat) (x : Float) : String :=
  match FloatKind.ofFloat x with
  | .notANumber => NumberStyle.message.notANumber
  | .infinite negative => (if negative then "-" else "") ++ NumberStyle.message.infinity
  | .finite value =>
    let scaled := divideToEven (value.mantissa * Nat.pow 10 places * Nat.pow 2 value.exponent.toNat)
      (Nat.pow 2 (-value.exponent).toNat)
    let (whole, fraction) := Decimal.positional ⟨scaled, -places⟩
    (if value.negative then "-" else "") ++ whole
      ++ (if fraction.isEmpty then "" else "." ++ fraction)

end LightShow
