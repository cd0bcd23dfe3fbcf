import LightShow.Number.Scalar
import Mathlib.Algebra.Order.Round
import Mathlib.Analysis.Real.Sqrt
import Mathlib.Data.Rat.Floor

/-!
# Exact arithmetic

The formulas of the show are written once over a `Scalar`. Floating-point numbers give them the
meaning that runs, and any ordered field with a floor gives them their exact one: the operations are
those of the field, comparisons are decided by its order, and rounding goes to the nearest integer,
a tie away from zero. The real numbers are such a field, and so are the rationals, whose own
arithmetic in the library is this one (`scalarOfField_rat`).

The instance is active where `ExactArithmetic` is opened. The operations that a `Scalar` brings are
switched off there, so that those on a field are its own.
-/

set_option autoImplicit false

namespace LightShow

namespace ExactArithmetic

variable {K : Type} [Field K] [LinearOrder K] [FloorRing K]

/-- The exact arithmetic of an ordered field. -/
scoped instance (priority := low) scalarOfField : Scalar K where
  ofNat n := (n : K)
  lt x y := decide (x < y)
  le x y := decide (x ≤ y)
  fract x := x - ((if x < 0 then ⌈x⌉ else ⌊x⌋ : ℤ) : K)
  round x := if x < 0 then ⌈x - 1 / 2⌉ else ⌊x + 1 / 2⌋

/-- The exact roots of real numbers. -/
noncomputable scoped instance squareRootReal : SquareRoot ℝ where
  sqrt := Real.sqrt

end ExactArithmetic

namespace Scalar

open scoped ExactArithmetic

attribute [-instance] toAdd toSub toMul toDiv

/-- The arithmetic that the library gives the rationals is the exact one. -/
theorem scalarOfField_rat : (ExactArithmetic.scalarOfField : Scalar ℚ) = instScalarRat := by
  have hceil (x : ℚ) : x.ceil = ⌈x⌉ := by
    rw [Rat.ceil_eq_neg_floor_neg]
    rfl
  unfold instScalarRat ExactArithmetic.scalarOfField
  simp only [hceil]
  congr

variable {K : Type} [Field K] [LinearOrder K] [FloorRing K]

@[simp]
theorem ofNat_eq_cast (n : ℕ) : (ofNat n : K) = n := rfl

@[simp]
theorem zero_eq : (zero : K) = 0 := Nat.cast_zero

@[simp]
theorem one_eq : (one : K) = 1 := Nat.cast_one

@[simp]
theorem lt_eq_true_iff {x y : K} : lt x y = true ↔ x < y := decide_eq_true_iff

@[simp]
theorem le_eq_true_iff {x y : K} : le x y = true ↔ x ≤ y := decide_eq_true_iff

@[simp]
theorem sum_eq (xs : List K) : sum xs = xs.sum := by
  rw [sum, zero_eq, List.sum_eq_foldl]

theorem clamp_eq {low high : K} (hle : low ≤ high) (x : K) :
    clamp low high x = max low (min high x) := by
  simp only [clamp, lt_eq_true_iff]
  split_ifs with hlow hhigh
  · rw [min_eq_right (hlow.le.trans hle), max_eq_left hlow.le]
  · rw [min_eq_left hhigh.le, max_eq_right hle]
  · rw [min_eq_right (not_lt.mp hhigh), max_eq_right (not_lt.mp hlow)]

theorem maxOf_eq (x y : K) : maxOf x y = max x y := by
  simp only [maxOf, lt_eq_true_iff]
  split_ifs with hlt
  · rw [max_eq_right hlt.le]
  · rw [max_eq_left (not_lt.mp hlt)]

theorem abs_eq [IsStrictOrderedRing K] (x : K) : abs x = |x| := by
  simp only [abs, lt_eq_true_iff, zero_eq]
  split_ifs with hnegative
  · rw [abs_of_neg hnegative, zero_sub]
  · rw [abs_of_nonneg (not_lt.mp hnegative)]

theorem round_of_nonneg {x : K} (hx : 0 ≤ x) : round x = ⌊x + 1 / 2⌋ :=
  if_neg (not_lt.mpr hx)

end Scalar

end LightShow
