import LightShow.Number.Binary64

/-!
The arithmetic that the audio and colour formulas are written over. Floating-point numbers run the
show; rational numbers give the same formulas their exact reading.
-/

set_option autoImplicit false

namespace LightShow

class Scalar (α : Type) extends Add α, Sub α, Mul α, Div α where
  ofNat : Nat → α
  /-- Strictly below. False whenever one side is no number. -/
  lt : α → α → Bool
  /-- At most. False whenever one side is no number. -/
  le : α → α → Bool
  /-- What is left after dropping the whole part, with the sign of the value. -/
  fract : α → α
  /-- The nearest integer, a tie going away from zero. What is no number counts as zero. -/
  round : α → Int

/-- Square roots, for the formulas that need them. -/
class SquareRoot (α : Type) where
  sqrt : α → α

namespace Scalar

variable {α : Type} [Scalar α]

def zero : α := ofNat 0

def one : α := ofNat 1

/-- Moves a value into `[low, high]`. What is no number stays what it is. -/
def clamp (low high x : α) : α :=
  if lt x low then low else if lt high x then high else x

/-- The larger of a running maximum and a new value. A new value that is no number is passed
over. -/
def maxOf (running x : α) : α :=
  if lt running x then x else running

def abs (x : α) : α :=
  if lt x zero then zero - x else x

/-- Adds a list from left to right. -/
def sum (xs : List α) : α :=
  xs.foldl (· + ·) zero

/-- A share of `whole` rounded to the nearest natural number, kept within `[0, whole]`. -/
def share (whole : Nat) (x : α) : Nat :=
  min (round (x * ofNat whole)).toNat whole

end Scalar

instance : Scalar Float where
  ofNat := Float.ofNat
  lt x y := decide (x < y)
  le x y := decide (x ≤ y)
  fract x := x - (if x < 0 then x.ceil else x.floor)
  round := roundAway

instance : SquareRoot Float where
  sqrt := Float.sqrt

instance : Scalar Rat where
  ofNat n := (n : Rat)
  lt x y := decide (x < y)
  le x y := decide (x ≤ y)
  fract x := x - ((if x < 0 then x.ceil else x.floor : Int) : Rat)
  round x := if x < 0 then (x - 1 / 2).ceil else (x + 1 / 2).floor

end LightShow
