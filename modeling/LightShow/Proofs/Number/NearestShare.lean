import LightShow.Proofs.Number.ExactArithmetic
import LightShow.Proofs.Number.WholeQuotient

/-!
# Shares rounded to the nearest number

A share of a whole is multiplied by it and rounded to the nearest natural number, and what is beyond
the whole is cut off (`Scalar.share`). In exact arithmetic this is within one half of the product
for every share, and monotone (`sendsNearest_share`).

In floating point the product is rounded before it is rounded to a natural number. Where the share
is at least one, the product stays at or above the whole, because the whole is a floating-point
number itself and rounding does not pass over it (`exists_roundAway_mul`). So all shares from one
on, infinity among them, give the whole, all those up to zero give zero, and so does what is no
number (`sendsEnds_share`).
-/

set_option autoImplicit false

namespace LightShow

namespace Scalar

/-! ### Exact arithmetic -/

section Exact

open scoped ExactArithmetic

attribute [-instance] toAdd toSub toMul toDiv

variable {K : Type} [Field K] [LinearOrder K]

/-- Shares of a whole are sent as the nearest number of its parts, those outside the whole as the
nearer end of it, and larger shares never as smaller numbers. -/
structure SendsNearest (whole : ℕ) (sent : K → ℕ) : Prop where
  within : ∀ share ∈ Set.Icc 0 1, |sent share - share * whole| ≤ 1 / 2
  above : ∀ share, 1 ≤ share → sent share = whole
  below : ∀ share ≤ 0, sent share = 0
  mono : Monotone sent

variable [IsStrictOrderedRing K] [FloorRing K] (whole : ℕ)

theorem share_of_nonneg {x : K} (hx : 0 ≤ x) :
    (share whole x : ℤ) = min ⌊x * whole + 1 / 2⌋ whole := by
  have hproduct : 0 ≤ x * whole := mul_nonneg hx whole.cast_nonneg
  have hround : round (x * ofNat whole) = ⌊x * whole + 1 / 2⌋ := round_of_nonneg hproduct
  have hfloor : 0 ≤ ⌊x * whole + 1 / 2⌋ := Int.floor_nonneg.mpr (by linarith)
  rw [share, hround, Nat.cast_min, Int.toNat_of_nonneg hfloor]

theorem share_of_nonpos {x : K} (hx : x ≤ 0) : share whole x = 0 := by
  have hproduct : x * whole ≤ 0 := mul_nonpos_of_nonpos_of_nonneg hx whole.cast_nonneg
  have hround : round (x * ofNat whole) ≤ 0 := by
    change (if x * whole < 0 then ⌈x * whole - 1 / 2⌉ else ⌊x * whole + 1 / 2⌋) ≤ 0
    split_ifs with hnegative
    · exact Int.ceil_le.mpr (by push_cast; linarith)
    · exact Int.lt_add_one_iff.mp (Int.floor_lt.mpr (by push_cast; linarith))
  rw [share, Int.toNat_of_nonpos hround, Nat.zero_min]

theorem share_of_one_le {x : K} (hx : 1 ≤ x) : share whole x = whole := by
  have hproduct : (whole : K) ≤ x * whole := le_mul_of_one_le_left whole.cast_nonneg hx
  have hfloor : (whole : ℤ) ≤ ⌊x * whole + 1 / 2⌋ :=
    Int.le_floor.mpr (by push_cast; linarith)
  have hshare := share_of_nonneg whole (zero_le_one.trans hx)
  rw [min_eq_right hfloor] at hshare
  exact_mod_cast hshare

theorem share_mono : Monotone (share whole : K → ℕ) := by
  intro x y hle
  rcases le_or_gt x 0 with hx | hx
  · rw [share_of_nonpos whole hx]
    exact Nat.zero_le _
  · have hproduct : x * whole + 1 / 2 ≤ y * whole + 1 / 2 := by gcongr
    have hfloor := min_le_min_right (whole : ℤ) (Int.floor_mono hproduct)
    rw [← share_of_nonneg whole hx.le, ← share_of_nonneg whole (hx.le.trans hle)] at hfloor
    exact_mod_cast hfloor

theorem abs_share_sub_le {x : K} (hx : x ∈ Set.Icc 0 1) :
    |share whole x - x * whole| ≤ 1 / 2 := by
  have hproduct : x * whole ≤ whole := mul_le_of_le_one_left whole.cast_nonneg hx.2
  have hfloor : ⌊x * whole + 1 / 2⌋ ≤ whole :=
    Int.lt_add_one_iff.mp (Int.floor_lt.mpr (by push_cast; linarith))
  have hshare := share_of_nonneg whole hx.1
  rw [min_eq_left hfloor, ← round_eq] at hshare
  have hcast : (share whole x : K) = ((share whole x : ℤ) : K) := by push_cast; rfl
  rw [hcast, hshare, abs_sub_comm]
  exact abs_sub_round (x * whole)

theorem sendsNearest_share : SendsNearest whole (share whole : K → ℕ) where
  within _ := abs_share_sub_le whole
  above _ := share_of_one_le whole
  below _ := share_of_nonpos whole
  mono := share_mono whole

end Exact

end Scalar

/-! ### Floating point -/

namespace Binary64

open Float.Model Float.Model.UnpackedFloat

/-- Floating-point shares outside the whole are sent as the nearer end of it, and what is no number
as zero. Infinities are such shares. -/
structure SendsEnds (whole : ℕ) (sent : Float → ℕ) : Prop where
  notANumber : ∀ share : Float, share.isNaN = true → sent share = 0
  above : ∀ share : Float, 1 ≤ share → sent share = whole
  below : ∀ share : Float, share ≤ 0 → sent share = 0

/-- The number is written in floating point as it is, with a full mantissa. -/
def IsWritten (number : ℕ) : Prop :=
  ∃ (shift : ℕ) (hpositive : 0 < number * 2 ^ shift), 2 ^ 52 ≤ number * 2 ^ shift ∧
    (Float.ofNat number).toModel.unpack = .finite .positive (number * 2 ^ shift) (-shift) hpositive

theorem mul_eq_pack (x y : Float) :
    x * y = Float.ofModel (Float.Model.pack
      (UnpackedFloat.mul Format.binary64 x.toModel.unpack y.toModel.unpack)) := rfl

theorem mul_positive (sign : Sign) : sign * Sign.positive = sign := by
  cases sign <;> rfl

/-! ### The nearest integer -/

/-- What is no zero and finite is sorted as such, and rounded by its mantissa and exponent. -/
theorem roundAway_of_unpack {x : Float} {sign : Sign} {mantissa : ℕ} {exponent : ℤ}
    {hmantissa : 0 < mantissa}
    (hunpack : x.toModel.unpack = .finite sign mantissa exponent hmantissa) :
    roundAway x = (⟨sign == .negative, mantissa, exponent⟩ : Dyadic64).scaledRound 1 := by
  have hbits : Dyadic64.ofBits x.toBits = ⟨sign == .negative, mantissa, exponent⟩ :=
    ofBits_of_unpack hunpack
  have hbiased : x.toBits.toNat / Nat.pow 2 52 % Nat.pow 2 11 ≠ 2047 := by
    intro hfull
    exact unpackExponent_ne_of_unpack hunpack
      (BitVec.eq_of_toNat_eq ((toNat_unpackExponent _).trans hfull))
  simp only [roundAway, FloatKind.ofFloat, if_neg hbiased, hbits]

theorem whole_le_scaledMagnitude (negative : Bool) (mantissa : ℕ) (exponent : ℤ) :
    whole mantissa exponent ≤ (⟨negative, mantissa, exponent⟩ : Dyadic64).scaledMagnitude 1 := by
  unfold Dyadic64.scaledMagnitude
  dsimp only
  split_ifs with hexponent
  · have hnone : (-exponent).toNat = 0 := by omega
    rw [whole, hnone, pow_zero, Nat.div_one, mul_one]
    rfl
  · rw [whole_of_nonpos _ (by omega), mul_one, ← Nat.mul_div_mul_left _ _ two_pos]
    exact Nat.div_le_div_right (Nat.le_add_right _ _)

theorem scaledRound_eq_apply (sign : Sign) (mantissa : ℕ) (exponent : ℤ) :
    (⟨sign == .negative, mantissa, exponent⟩ : Dyadic64).scaledRound 1 =
      sign.apply ((⟨sign == .negative, mantissa, exponent⟩ : Dyadic64).scaledMagnitude 1) := by
  cases sign <;> rfl

theorem roundAway_pack_zero (sign : Sign) :
    roundAway (Float.ofModel (Float.Model.pack (.zero sign))) = 0 := by
  cases sign <;> decide +kernel

theorem roundAway_pack_infinity (sign : Sign) :
    ∃ magnitude : ℕ, 2 ^ 53 ≤ magnitude ∧
      roundAway (Float.ofModel (Float.Model.pack (.infinity sign))) = sign.apply magnitude := by
  refine ⟨Nat.pow 2 1024, by decide +kernel, ?_⟩
  cases sign <;> decide +kernel

/-- A pair that a number can have is rounded to an integer of its sign, which reaches every whole
number that the pair reaches, as far as all whole numbers can be represented. -/
theorem exists_roundAway_pack {sign : Sign} {mantissa : ℕ} {exponent : ℤ}
    (hcanonical : Canonical mantissa exponent) (hpositive : 0 < mantissa) :
    ∃ magnitude : ℕ,
      roundAway (Float.ofModel (Float.Model.pack (.finite sign mantissa exponent hpositive))) =
        sign.apply magnitude ∧
      ∀ bound ≤ 2 ^ 53, bound ≤ whole mantissa exponent → bound ≤ magnitude := by
  rcases le_or_gt exponent 971 with hwithin | hbeyond
  · have hunpack := unpack_pack sign hcanonical hpositive hwithin
    refine ⟨_, (roundAway_of_unpack hunpack).trans (scaledRound_eq_apply _ _ _), ?_⟩
    exact fun bound _ hbound ↦ hbound.trans (whole_le_scaledMagnitude _ _ _)
  · obtain ⟨magnitude, hlarge, hround⟩ := roundAway_pack_infinity sign
    refine ⟨magnitude, ?_, fun bound hbound _ ↦ hbound.trans hlarge⟩
    rw [pack_of_lt sign hpositive hbeyond, hround]

/-- The product with a number whose mantissa is full keeps the sign of the first factor and reaches
every whole number that the exact product reaches, as far as all of them can be represented. -/
theorem exists_roundAway_mul {x y : Float} {sign : Sign} {mantissa factor : ℕ} {exponent scale : ℤ}
    {hmantissa : 0 < mantissa} {hfactor : 0 < factor}
    (hx : x.toModel.unpack = .finite sign mantissa exponent hmantissa)
    (hy : y.toModel.unpack = .finite .positive factor scale hfactor) (hfull : 2 ^ 52 ≤ factor) :
    ∃ magnitude : ℕ, roundAway (x * y) = sign.apply magnitude ∧
      ∀ bound ≤ 2 ^ 53, bound ≤ whole (mantissa * factor) (exponent + scale) →
        bound ≤ magnitude := by
  have hfine : 2 ^ 52 ≤ mantissa * factor ∨ exponent + scale ≤ -1074 :=
    .inl (hfull.trans (Nat.le_mul_of_pos_left _ hmantissa))
  obtain ⟨rounded, ⟨hlow, -⟩, final, lowered, hcanonical, hwhole, hround⟩ :=
    exists_roundWithAccuracy_eq hfine sign .exact
  have hreached (bound : ℕ) (hbound : bound ≤ 2 ^ 53)
      (hle : bound ≤ whole (mantissa * factor) (exponent + scale)) :
      bound ≤ whole final lowered := by
    rw [hwhole]
    exact (le_whole_shift hbound hfine hle).trans (whole_mono hlow _)
  have hproduct : x * y = Float.ofModel (Float.Model.pack
      (roundWithAccuracy Format.binary64 sign (mantissa * factor) (exponent + scale) .exact)) := by
    have hmul : UnpackedFloat.mul Format.binary64 (.finite sign mantissa exponent hmantissa)
        (.finite .positive factor scale hfactor) =
        roundWithAccuracy Format.binary64 (sign * .positive) (mantissa * factor)
          (exponent + scale) .exact := rfl
    rw [mul_eq_pack, hx, hy, hmul, mul_positive]
  rw [hproduct, hround]
  by_cases hzero : final = 0
  · refine ⟨0, ?_, fun bound hbound hle ↦ ?_⟩
    · rw [dif_pos hzero, roundAway_pack_zero]
      cases sign <;> rfl
    · have hnone := hreached bound hbound hle
      rwa [hzero, whole, zero_mul, Nat.zero_div] at hnone
  · obtain ⟨magnitude, hvalue, hle⟩ :=
      @exists_roundAway_pack sign _ _ hcanonical (Nat.pos_of_ne_zero hzero)
    rw [dif_neg hzero]
    exact ⟨magnitude, hvalue, fun bound hbound hbelow ↦
      hle bound hbound (hreached bound hbound hbelow)⟩

/-! ### Shares outside the whole -/

theorem share_of_roundAway_nonpos {whole : ℕ} {x : Float}
    (hround : roundAway (x * Float.ofNat whole) ≤ 0) : Scalar.share whole x = 0 := by
  change min (roundAway (x * Float.ofNat whole)).toNat whole = 0
  rw [Int.toNat_of_nonpos hround, Nat.zero_min]

theorem share_of_le_roundAway {whole : ℕ} {x : Float}
    (hround : whole ≤ roundAway (x * Float.ofNat whole)) : Scalar.share whole x = whole := by
  change min (roundAway (x * Float.ofNat whole)).toNat whole = whole
  exact min_eq_right (by omega)

theorem share_of_isNaN (whole : ℕ) {x : Float} (hx : x.isNaN = true) :
    Scalar.share whole x = 0 := by
  have hunpack : x.toModel.unpack = .notANumber := by
    change x.toModel.unpack.isNaN = true at hx
    cases hkind : x.toModel.unpack with
    | notANumber => rfl
    | infinity sign | zero sign | finite sign mantissa exponent hmantissa =>
      rw [hkind] at hx
      cases hx
  have hmul (other : UnpackedFloat) :
      UnpackedFloat.mul Format.binary64 .notANumber other = .notANumber := by
    cases other <;> rfl
  refine share_of_roundAway_nonpos (le_of_eq ?_)
  rw [mul_eq_pack, hunpack, hmul]
  rfl

theorem mul_ofNat_of_infinity {whole : ℕ} (hwhole : IsWritten whole) {x : Float} {sign : Sign}
    (hx : x.toModel.unpack = .infinity sign) :
    x * Float.ofNat whole = Float.ofModel (Float.Model.pack (.infinity sign)) := by
  obtain ⟨shift, hpositive, -, hunpack⟩ := hwhole
  rw [mul_eq_pack, hx, hunpack]
  change Float.ofModel (Float.Model.pack (.infinity (sign * .positive))) = _
  rw [mul_positive]

theorem share_of_le_zero {whole : ℕ} (hwhole : IsWritten whole) {x : Float} (hx : x ≤ 0) :
    Scalar.share whole x = 0 := by
  have hzero : (0 : Float).toModel.unpack = .zero .positive := by rfl
  have hle : x.toModel.unpack.le (0 : Float).toModel.unpack = true := of_decide_eq_true hx
  rw [hzero] at hle
  refine share_of_roundAway_nonpos ?_
  cases hunpack : x.toModel.unpack with
  | notANumber =>
    rw [hunpack] at hle
    cases hle
  | zero sign =>
    obtain ⟨shift, hpositive, -, hfactor⟩ := hwhole
    rw [mul_eq_pack, hunpack, hfactor]
    change roundAway (Float.ofModel (Float.Model.pack (.zero (sign * .positive)))) ≤ 0
    rw [roundAway_pack_zero]
  | infinity sign =>
    cases sign with
    | positive =>
      rw [hunpack] at hle
      cases hle
    | negative =>
      obtain ⟨magnitude, -, hround⟩ := roundAway_pack_infinity .negative
      rw [mul_ofNat_of_infinity hwhole hunpack, hround]
      simp [Sign.apply]
  | finite sign mantissa exponent hmantissa =>
    cases sign with
    | positive =>
      rw [hunpack] at hle
      cases hle
    | negative =>
      obtain ⟨shift, hpositive, hfull, hfactor⟩ := hwhole
      obtain ⟨magnitude, hround, -⟩ := exists_roundAway_mul hunpack hfactor hfull
      rw [hround]
      simp [Sign.apply]

theorem canonical_of_unpack {x : Float} {sign : Sign} {mantissa : ℕ} {exponent : ℤ}
    {hmantissa : 0 < mantissa}
    (hunpack : x.toModel.unpack = .finite sign mantissa exponent hmantissa) :
    Canonical mantissa exponent := by
  have hlt := ofBits_mantissa_lt x.toBits
  have hbits : Dyadic64.ofBits x.toBits = ⟨sign == .negative, mantissa, exponent⟩ :=
    ofBits_of_unpack hunpack
  rw [hbits] at hlt
  unfold Dyadic64.ofBits at hbits
  dsimp only at hbits
  split_ifs at hbits with hleast
  · obtain ⟨-, -, rfl⟩ := Dyadic64.mk.inj hbits
    exact ⟨hlt, le_rfl, .inr rfl⟩
  · obtain ⟨-, rfl, rfl⟩ := Dyadic64.mk.inj hbits
    refine ⟨hlt, by omega, .inl (Nat.le_add_right (Nat.pow 2 52) _)⟩

/-- A number from one on has a full mantissa and an exponent from that of one on. -/
theorem full_of_one_le {x : Float} {mantissa : ℕ} {exponent : ℤ} {hmantissa : 0 < mantissa}
    (hx : 1 ≤ x) (hunpack : x.toModel.unpack = .finite .positive mantissa exponent hmantissa) :
    2 ^ 52 ≤ mantissa ∧ -52 ≤ exponent := by
  have hcanonical := canonical_of_unpack hunpack
  have hone : (1 : Float).toModel.unpack = .finite .positive (2 ^ 52) (-52) (by decide) := by rfl
  have hle : (1 : Float).toModel.unpack.le x.toModel.unpack = true := of_decide_eq_true hx
  rw [hone, hunpack] at hle
  change ((compare (-52) exponent).then (compare (2 ^ 52) mantissa)).isLE = true at hle
  rcases lt_trichotomy (-52) exponent with hlt | rfl | hgt
  · exact ⟨hcanonical.full.resolve_right (by omega), hlt.le⟩
  · rw [compare_eq_iff_eq.mpr rfl] at hle
    exact ⟨Std.isLE_compare.mp hle, le_rfl⟩
  · rw [compare_gt_iff_gt.mpr hgt] at hle
    cases hle

theorem le_whole_mul {number shift mantissa : ℕ} {exponent : ℤ} (hfull : 2 ^ 52 ≤ mantissa)
    (hexponent : -52 ≤ exponent) :
    number ≤ whole (mantissa * (number * 2 ^ shift)) (exponent + -shift) := by
  rw [whole, Nat.le_div_iff_mul_le (by positivity)]
  calc number * 2 ^ (-(exponent + -shift)).toNat
      ≤ number * 2 ^ (52 + shift + (exponent + -shift).toNat) :=
        Nat.mul_le_mul_left _ (Nat.pow_le_pow_right two_pos (by omega))
    _ = 2 ^ 52 * (number * 2 ^ shift) * 2 ^ (exponent + -shift).toNat := by ring
    _ ≤ mantissa * (number * 2 ^ shift) * 2 ^ (exponent + -shift).toNat := by gcongr

theorem share_of_one_le {whole : ℕ} (hwhole : IsWritten whole) (hbound : whole ≤ 2 ^ 53)
    {x : Float} (hx : 1 ≤ x) : Scalar.share whole x = whole := by
  have hone : (1 : Float).toModel.unpack = .finite .positive (2 ^ 52) (-52) (by decide) := by rfl
  have hle : (1 : Float).toModel.unpack.le x.toModel.unpack = true := of_decide_eq_true hx
  rw [hone] at hle
  refine share_of_le_roundAway ?_
  cases hunpack : x.toModel.unpack with
  | notANumber | zero sign =>
    rw [hunpack] at hle
    cases hle
  | infinity sign =>
    cases sign with
    | negative =>
      rw [hunpack] at hle
      cases hle
    | positive =>
      obtain ⟨magnitude, hlarge, hround⟩ := roundAway_pack_infinity .positive
      rw [mul_ofNat_of_infinity hwhole hunpack, hround]
      exact Int.ofNat_le.mpr (hbound.trans hlarge)
  | finite sign mantissa exponent hmantissa =>
    cases sign with
    | negative =>
      rw [hunpack] at hle
      cases hle
    | positive =>
      obtain ⟨shift, hpositive, hfull, hfactor⟩ := hwhole
      obtain ⟨magnitude, hround, hreaches⟩ := exists_roundAway_mul hunpack hfactor hfull
      rw [hround]
      refine Int.ofNat_le.mpr (hreaches whole hbound ?_)
      obtain ⟨hlarge, hexponent⟩ := full_of_one_le hx hunpack
      exact le_whole_mul hlarge hexponent

theorem sendsEnds_share {whole : ℕ} (hwhole : IsWritten whole) (hbound : whole ≤ 2 ^ 53) :
    SendsEnds whole (Scalar.share whole) where
  notANumber _ := share_of_isNaN whole
  above _ := share_of_one_le hwhole hbound
  below _ := share_of_le_zero hwhole

end Binary64

end LightShow
