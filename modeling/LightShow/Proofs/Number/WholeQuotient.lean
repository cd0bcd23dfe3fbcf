import LightShow.Number.Binary64
import Mathlib.Algebra.Order.Field.Power
import Mathlib.Algebra.Order.Floor.Ring
import Mathlib.Data.Rat.Floor
import Mathlib.Tactic.Linarith
import Mathlib.Tactic.NormNum
import Mathlib.Tactic.Positivity
import Mathlib.Tactic.Ring

/-!
# The whole part of a quotient

A division of floating-point numbers is rounded, and then cut to a whole number. The result is that
of one of the two representable pairs next to the exact quotient (`exists_toUInt64_div_eq`), so it
is never below the whole part of the exact quotient, as far as all whole numbers can be represented
(`le_toUInt64_div`). It can be above it, if the quotient is rounded up to a whole number. It is not
rounded up to one if it is further below it than neighbours are apart (`toUInt64_div_eq_zero`).

The exact reading of a number is the value of its mantissa and exponent. What is kept along the way
is the whole part of such a pair: a shift to the right leaves it as it is while the exponent is not
positive (`whole_shift`), and where the exponent is positive the mantissa is full, so that the pair
is beyond all the whole numbers in question (`le_whole_of_full`).
-/

set_option autoImplicit false

namespace LightShow

/-- The exact value. -/
def Dyadic64.value (x : Dyadic64) : ℚ :=
  (if x.negative then -1 else 1) * x.mantissa * 2 ^ x.exponent

namespace Binary64

open Float.Model Float.Model.UnpackedFloat

/-! ### Reading a number -/

theorem toNat_unpackExponent (bits : BitVec 64) :
    (@unpackExponent Format.binary64 bits).toNat = bits.toNat / 2 ^ 52 % 2 ^ 11 := by
  simp [unpackExponent, BitVec.extractLsb_toNat, Nat.shiftRight_eq_div_pow]

theorem toNat_unpackMantissa (bits : BitVec 64) :
    (@unpackMantissa Format.binary64 bits).toNat = bits.toNat % 2 ^ 52 := by
  simp [unpackMantissa, BitVec.extractLsb_toNat]

theorem toNat_unpackSign (bits : BitVec 64) :
    (@unpackSign Format.binary64 bits).toNat = bits.toNat / 2 ^ 63 := by
  have hbits := bits.isLt
  change (bits.extractLsb 63 63).toNat = _
  rw [BitVec.extractLsb_toNat, Nat.shiftRight_eq_div_pow]
  omega

theorem toNat_one_append (fraction : BitVec 52) :
    (1#1 ++ fraction).toNat = 2 ^ 52 + fraction.toNat := by
  rw [BitVec.toNat_append, ← Nat.shiftLeft_add_eq_or_of_lt fraction.isLt]
  rfl

theorem isNegative_unpackSign (bits : BitVec 64) :
    (Sign.ofBitVec (@unpackSign Format.binary64 bits) == .negative) =
      decide (2 ^ 63 ≤ bits.toNat) := by
  have hbits := bits.isLt
  have hsign := toNat_unpackSign bits
  unfold Sign.ofBitVec
  split_ifs with hclear
  · rw [hclear] at hsign
    have hsmall : ¬ 2 ^ 63 ≤ bits.toNat := by
      change 0 = _ at hsign
      omega
    rw [decide_eq_false hsmall]
    rfl
  · have hlarge : 2 ^ 63 ≤ bits.toNat := by
      rw [← BitVec.toNat_inj, hsign] at hclear
      change _ ≠ 0 at hclear
      omega
    rw [decide_eq_true hlarge]
    rfl

/-- The highest exponent is that of no finite number. -/
theorem unpackExponent_ne_of_unpack {bits : BitVec 64} {sign : Sign} {mantissa : ℕ} {exponent : ℤ}
    {hmantissa : 0 < mantissa}
    (hunpack : UnpackedFloat.unpack Format.binary64 bits =
      .finite sign mantissa exponent hmantissa) :
    @unpackExponent Format.binary64 bits ≠ -1#11 := by
  intro hfull
  unfold UnpackedFloat.unpack at hunpack
  dsimp only at hunpack
  rw [if_pos hfull] at hunpack
  by_cases hnone : @unpackMantissa Format.binary64 bits = 0#52
  · rw [if_pos hnone] at hunpack
    cases hunpack
  · rw [if_neg hnone] at hunpack
    cases hunpack

/-- The bits of a number that is neither zero nor infinite spell its mantissa and exponent. -/
theorem ofBits_of_unpack {bits : UInt64} {sign : Sign} {mantissa : ℕ} {exponent : ℤ}
    {hmantissa : 0 < mantissa}
    (hunpack : UnpackedFloat.unpack Format.binary64 bits.toBitVec =
      .finite sign mantissa exponent hmantissa) :
    Dyadic64.ofBits bits = ⟨sign == .negative, mantissa, exponent⟩ := by
  have hbiased := toNat_unpackExponent bits.toBitVec
  have hbelow := unpackExponent_ne_of_unpack hunpack
  unfold UnpackedFloat.unpack at hunpack
  dsimp only at hunpack
  rw [if_neg hbelow] at hunpack
  by_cases hleast : @unpackExponent Format.binary64 bits.toBitVec = 0#11
  · rw [if_pos hleast] at hunpack
    by_cases hnone : @unpackMantissa Format.binary64 bits.toBitVec = 0#52
    · rw [dif_pos hnone] at hunpack
      cases hunpack
    rw [dif_neg hnone] at hunpack
    injection hunpack with hs hm he
    rw [hleast] at hbiased
    have hword : bits.toNat / Nat.pow 2 52 % Nat.pow 2 11 = 0 := hbiased.symm
    subst hs hm he
    simp only [Dyadic64.ofBits, hword, if_true]
    rw [isNegative_unpackSign, toNat_unpackMantissa, hleast]
    rfl
  · rw [if_neg hleast] at hunpack
    injection hunpack with hs hm he
    have hword : bits.toNat / Nat.pow 2 52 % Nat.pow 2 11 ≠ 0 := by
      intro hword
      exact hleast (BitVec.eq_of_toNat_eq (hbiased.trans hword))
    subst hs hm he
    simp only [Dyadic64.ofBits, hword, if_false]
    rw [isNegative_unpackSign, hbiased, toNat_one_append, toNat_unpackMantissa]
    rfl

theorem ofBits_mantissa_lt (bits : UInt64) : (Dyadic64.ofBits bits).mantissa < 2 ^ 53 := by
  have hfraction : bits.toNat % Nat.pow 2 52 < 2 ^ 52 := Nat.mod_lt _ (by decide)
  unfold Dyadic64.ofBits
  dsimp only
  split_ifs
  · exact hfraction.trans (by decide)
  · change 2 ^ 52 + _ < 2 ^ 53
    omega

theorem unpack_of_pos {x : Float} (hpositive : 0 < x) (hfinite : x.isFinite = true) :
    ∃ mantissa exponent hmantissa,
      x.toModel.unpack = .finite .positive mantissa exponent hmantissa ∧ mantissa < 2 ^ 53 ∧
        (Dyadic64.ofBits x.toBits).value = mantissa * 2 ^ exponent := by
  have hzero : (0 : Float).toModel.unpack = .zero .positive := by rfl
  have hlt : (0 : Float).toModel.unpack.lt x.toModel.unpack = true := of_decide_eq_true hpositive
  rw [hzero] at hlt
  cases hunpack : x.toModel.unpack with
  | notANumber | zero sign =>
    rw [hunpack] at hlt
    cases hlt
  | infinity sign =>
    change x.toModel.unpack.isFinite = true at hfinite
    rw [hunpack] at hfinite
    cases hfinite
  | finite sign mantissa exponent hmantissa =>
    cases sign with
    | negative =>
      rw [hunpack] at hlt
      cases hlt
    | positive =>
      have hbits : Dyadic64.ofBits x.toBits = ⟨false, mantissa, exponent⟩ :=
        ofBits_of_unpack hunpack
      have hlt := ofBits_mantissa_lt x.toBits
      rw [hbits] at hlt
      exact ⟨mantissa, exponent, hmantissa, rfl, hlt, by simp [hbits, Dyadic64.value]⟩

theorem value_pos {x : Float} (hpositive : 0 < x) (hfinite : x.isFinite = true) :
    0 < (Dyadic64.ofBits x.toBits).value := by
  obtain ⟨mantissa, exponent, hmantissa, -, -, hvalue⟩ := unpack_of_pos hpositive hfinite
  rw [hvalue]
  positivity

/-- From 512 on, numbers are multiples of `2 ^ (-43)` at least. -/
theorem exists_value_eq_div {x : Float} (hpositive : 0 < x) (hfinite : x.isFinite = true)
    (hlarge : 512 ≤ (Dyadic64.ofBits x.toBits).value) :
    ∃ count : ℕ, (Dyadic64.ofBits x.toBits).value = count / 2 ^ 43 := by
  obtain ⟨mantissa, exponent, -, -, hlt, hvalue⟩ := unpack_of_pos hpositive hfinite
  have hexponent : -43 ≤ exponent := by
    by_contra hsmall
    have hpow : (2 : ℚ) ^ exponent ≤ 2 ^ (-44 : ℤ) := zpow_le_zpow_right₀ one_le_two (by omega)
    have hmantissa : (mantissa : ℚ) < 2 ^ 53 := by exact_mod_cast hlt
    have hless : (mantissa : ℚ) * 2 ^ exponent < 2 ^ 53 * 2 ^ (-44 : ℤ) :=
      mul_lt_mul hmantissa hpow (by positivity) (by positivity)
    norm_num [← hvalue] at hless
    linarith
  refine ⟨mantissa * 2 ^ (exponent + 43).toNat, ?_⟩
  have hpow : (2 : ℚ) ^ exponent = 2 ^ (exponent + 43).toNat / 2 ^ 43 := by
    rw [← zpow_natCast, ← zpow_natCast, ← zpow_sub₀ two_ne_zero]
    congr 1
    omega
  rw [hvalue, hpow]
  push_cast
  rw [mul_div_assoc]

/-! ### Whole parts -/

/-- The whole part of `mantissa * 2 ^ exponent`. -/
def whole (mantissa : ℕ) (exponent : ℤ) : ℕ :=
  mantissa * 2 ^ exponent.toNat / 2 ^ (-exponent).toNat

theorem whole_mono {mantissa other : ℕ} (hle : mantissa ≤ other) (exponent : ℤ) :
    whole mantissa exponent ≤ whole other exponent :=
  Nat.div_le_div_right (Nat.mul_le_mul_right _ hle)

theorem whole_of_nonpos (mantissa : ℕ) {exponent : ℤ} (hexponent : exponent ≤ 0) :
    whole mantissa exponent = mantissa / 2 ^ (-exponent).toNat := by
  rw [whole, Int.toNat_of_nonpos hexponent, pow_zero, mul_one]

/-- A shift to the right loses nothing of the whole part while the exponent is not positive. -/
theorem whole_shift {mantissa shift : ℕ} {exponent : ℤ} (hexponent : exponent + shift ≤ 0) :
    whole (mantissa / 2 ^ shift) (exponent + shift) = whole mantissa exponent := by
  have hsum : (-exponent).toNat = shift + (-(exponent + shift)).toNat := by omega
  rw [whole_of_nonpos _ hexponent, whole_of_nonpos _ (by omega), Nat.div_div_eq_div_mul, ← pow_add,
    hsum]

/-- A full mantissa with a positive exponent is beyond the numbers that can all be represented. -/
theorem le_whole_of_full {mantissa : ℕ} {exponent : ℤ} (hfull : 2 ^ 52 ≤ mantissa)
    (hexponent : 0 < exponent) : 2 ^ 53 ≤ whole mantissa exponent := by
  have hnone : (-exponent).toNat = 0 := by omega
  have htwo : 2 ^ 1 ≤ 2 ^ exponent.toNat := Nat.pow_le_pow_right (by decide) (by omega)
  rw [whole, hnone, pow_zero, Nat.div_one]
  calc 2 ^ 53 = 2 ^ 52 * 2 ^ 1 := by norm_num
    _ ≤ mantissa * 2 ^ exponent.toNat := Nat.mul_le_mul hfull htwo

theorem whole_double (mantissa : ℕ) (exponent : ℤ) :
    whole (2 * mantissa) exponent = whole mantissa (exponent + 1) := by
  rcases le_or_gt 0 exponent with hexponent | hexponent
  · have hleft : (exponent + 1).toNat = exponent.toNat + 1 := by omega
    have hright : (-exponent).toNat = 0 ∧ (-(exponent + 1)).toNat = 0 := by omega
    rw [whole, whole, hleft, hright.1, hright.2, pow_succ', ← mul_assoc, mul_comm mantissa]
  · have hright : (-exponent).toNat = (-(exponent + 1)).toNat + 1 := by omega
    rw [whole_of_nonpos _ hexponent.le, whole_of_nonpos _ (by omega), hright, pow_succ',
      Nat.mul_div_mul_left _ _ two_pos]

/-! ### Shifts -/

/-- A pair that a number can have: a full mantissa, or the least exponent. -/
structure Canonical (mantissa : ℕ) (exponent : ℤ) : Prop where
  lt : mantissa < 2 ^ 53
  least : -1074 ≤ exponent
  full : 2 ^ 52 ≤ mantissa ∨ exponent = -1074

/-- By how much a mantissa is shifted to make it fit. -/
def excess (mantissa : ℕ) (exponent : ℤ) : ℕ :=
  (max (mantissa.log2 + 1 + exponent - 53) (-1074) - exponent).toNat

theorem mantissa_shiftRight (extended : ExtendedMantissa) (shift : ℕ) :
    (extended >>> shift).mantissa = extended.mantissa / 2 ^ shift := by
  induction shift with
  | zero => simp [HShiftRight.hShiftRight, Nat.repeat]
  | succ shift ih =>
    change (extended >>> shift).mantissa / 2 = _
    rw [ih, Nat.div_div_eq_div_mul, pow_succ]

theorem mantissa_ofMantissaAndAccuracy (mantissa : ℕ) (accuracy : Accuracy) :
    (ExtendedMantissa.ofMantissaAndAccuracy mantissa accuracy).mantissa = mantissa := by
  rcases accuracy with _ | _ | _ | _ <;> rfl

theorem mantissa_shiftToTargetExponent (mantissa : ℕ) (exponent : ℤ) (accuracy : Accuracy) :
    (shiftToTargetExponent Format.binary64 mantissa exponent accuracy).1.mantissa =
      mantissa / 2 ^ excess mantissa exponent := by
  change (ExtendedMantissa.ofMantissaAndAccuracy mantissa accuracy >>>
    excess mantissa exponent).mantissa = _
  rw [mantissa_shiftRight, mantissa_ofMantissaAndAccuracy]

/-- A shift to the right does not add to the value. -/
theorem shift_mul_le (mantissa shift : ℕ) (exponent : ℤ) :
    ((mantissa / 2 ^ shift : ℕ) * 2 ^ (exponent + shift) : ℚ) ≤ mantissa * 2 ^ exponent := by
  have hfloor : ((mantissa / 2 ^ shift : ℕ) : ℚ) * 2 ^ shift ≤ mantissa := by
    exact_mod_cast Nat.div_mul_le_self mantissa (2 ^ shift)
  rw [zpow_add₀ two_ne_zero, zpow_natCast, mul_comm (2 ^ exponent), ← mul_assoc]
  exact mul_le_mul_of_nonneg_right hfloor (by positivity)

/-- A mantissa that is full or has the least exponent fits after the shift, and is full or has the
least exponent still. -/
theorem canonical_shift {mantissa : ℕ} {exponent : ℤ}
    (hfine : 2 ^ 52 ≤ mantissa ∨ exponent ≤ -1074) :
    Canonical (mantissa / 2 ^ excess mantissa exponent)
      (exponent + excess mantissa exponent) where
  lt := by
    have hbits : mantissa < 2 ^ (53 + excess mantissa exponent) :=
      Nat.lt_log2_self.trans_le (Nat.pow_le_pow_right (by decide) (by unfold excess; omega))
    rwa [Nat.div_lt_iff_lt_mul (by positivity), ← pow_add]
  least := by
    unfold excess
    omega
  full := by
    by_cases hlog : 52 ≤ mantissa.log2 ∧ -1074 ≤ mantissa.log2 + 1 + exponent - 53
    · have hexcess : 52 + excess mantissa exponent = mantissa.log2 := by
        unfold excess
        omega
      have hpositive : mantissa ≠ 0 := by
        rintro rfl
        simp at hlog
      refine .inl ?_
      rw [Nat.le_div_iff_mul_le (by positivity), ← pow_add, hexcess]
      exact Nat.log2_self_le hpositive
    · have hleast : exponent ≤ -1074 := by
        rcases hfine with hfull | hleast
        · have hbits := (Nat.le_log2 (Nat.ne_of_gt (by omega))).mpr hfull
          omega
        · exact hleast
      refine .inr ?_
      unfold excess
      omega

theorem le_whole_shift {bound mantissa : ℕ} {exponent : ℤ} (hbound : bound ≤ 2 ^ 53)
    (hfine : 2 ^ 52 ≤ mantissa ∨ exponent ≤ -1074) (hle : bound ≤ whole mantissa exponent) :
    bound ≤ whole (mantissa / 2 ^ excess mantissa exponent)
      (exponent + excess mantissa exponent) := by
  rcases le_or_gt (exponent + excess mantissa exponent) 0 with hsmall | hlarge
  · rwa [whole_shift hsmall]
  · rcases (canonical_shift hfine).full with hfull | hleast
    · exact hbound.trans (le_whole_of_full hfull hlarge)
    · omega

/-! ### Rounding -/

theorem roundedMantissa_mem (extended : ExtendedMantissa) :
    extended.roundedMantissa ∈ Set.Icc extended.mantissa (extended.mantissa + 1) := by
  obtain ⟨mantissa, round, sticky⟩ := extended
  cases round <;> cases sticky <;>
    simp [ExtendedMantissa.roundedMantissa, ExtendedMantissa.accuracy, Accuracy.roundToNearestEven]
  omega

/-- A mantissa that fits is not shifted. -/
theorem excess_of_lt {mantissa : ℕ} {exponent : ℤ} (hlt : mantissa < 2 ^ 53)
    (hleast : -1074 ≤ exponent) : excess mantissa exponent = 0 := by
  have hlog : mantissa.log2 < 53 := by
    rcases Nat.eq_zero_or_pos mantissa with rfl | hpositive
    · decide
    · exact (Nat.log2_lt hpositive.ne').mpr hlt
  unfold excess
  omega

/-- A mantissa that has been rounded up to one more bit is shifted by that bit. -/
theorem excess_carry {exponent : ℤ} (hleast : -1074 ≤ exponent) : excess (2 ^ 53) exponent = 1 := by
  unfold excess
  rw [Nat.log2_two_pow]
  omega

/-- After it has been rounded up, a mantissa fits again by a shift that loses nothing. -/
theorem canonical_carry {mantissa rounded : ℕ} {exponent : ℤ}
    (hcanonical : Canonical mantissa exponent)
    (hrounded : rounded ∈ Set.Icc mantissa (mantissa + 1)) :
    Canonical (rounded / 2 ^ excess rounded exponent) (exponent + excess rounded exponent) ∧
      whole (rounded / 2 ^ excess rounded exponent) (exponent + excess rounded exponent) =
        whole rounded exponent := by
  obtain ⟨hlow, hhigh⟩ := hrounded
  obtain ⟨hlt, hleast, hfull⟩ := hcanonical
  rcases Nat.lt_or_ge rounded (2 ^ 53) with hfits | hcarry
  · rw [excess_of_lt hfits hleast, pow_zero, Nat.div_one, Nat.cast_zero, add_zero]
    exact ⟨⟨hfits, hleast, hfull.imp_left hlow.trans'⟩, rfl⟩
  · obtain rfl : rounded = 2 ^ 53 := by omega
    have hhalf : 2 ^ 53 / 2 ^ 1 = 2 ^ 52 := by norm_num
    rw [excess_carry hleast, hhalf, Nat.cast_one]
    refine ⟨⟨by norm_num, by omega, .inl le_rfl⟩, ?_⟩
    rw [← whole_double, ← pow_succ']

/-- A pair that is further below one than the numbers just below it are apart is not rounded up to
one. -/
theorem whole_rounded_eq_zero {mantissa rounded : ℕ} {exponent : ℤ}
    (hcanonical : Canonical mantissa exponent)
    (hrounded : rounded ∈ Set.Icc mantissa (mantissa + 1))
    (hsmall : (mantissa * 2 ^ exponent * 2 ^ 53 : ℚ) < 2 ^ 53 - 1) :
    whole rounded exponent = 0 := by
  obtain ⟨-, hhigh⟩ := hrounded
  obtain ⟨hlt, hleast, hfull⟩ := hcanonical
  have hexponent : exponent ≤ -53 := by
    rcases hfull with hfull | rfl
    · by_contra hlarge
      have hpow : (2 : ℚ) ^ (-52 : ℤ) ≤ 2 ^ exponent := zpow_le_zpow_right₀ one_le_two (by omega)
      have hmantissa : (2 : ℚ) ^ 52 ≤ mantissa := by exact_mod_cast hfull
      have hone : (2 : ℚ) ^ 52 * 2 ^ (-52 : ℤ) ≤ mantissa * 2 ^ exponent :=
        mul_le_mul hmantissa hpow (by positivity) (by positivity)
      norm_num at hone
      linarith
    · norm_num
  have hbelow : rounded < 2 ^ (-exponent).toNat := by
    rcases hexponent.eq_or_lt with rfl | hdeeper
    · have hcancel : (2 : ℚ) ^ (-53 : ℤ) * 2 ^ 53 = 1 := by norm_num
      rw [mul_assoc, hcancel, mul_one, lt_sub_iff_add_lt] at hsmall
      exact hhigh.trans_lt (by exact_mod_cast hsmall)
    · have hpow : 2 ^ 54 ≤ 2 ^ (-exponent).toNat := Nat.pow_le_pow_right two_pos (by omega)
      omega
  rw [whole_of_nonpos _ (by omega), Nat.div_eq_of_lt hbelow]

/-- Rounding gives one of the two pairs next to the exact value. -/
theorem exists_roundWithAccuracy_eq {mantissa : ℕ} {exponent : ℤ}
    (hfine : 2 ^ 52 ≤ mantissa ∨ exponent ≤ -1074) (sign : Sign) (accuracy : Accuracy) :
    ∃ rounded ∈ Set.Icc (mantissa / 2 ^ excess mantissa exponent)
        (mantissa / 2 ^ excess mantissa exponent + 1),
      ∃ final scale, Canonical final scale ∧
        whole final scale = whole rounded (exponent + excess mantissa exponent) ∧
        roundWithAccuracy Format.binary64 sign mantissa exponent accuracy =
          if h : final = 0 then .zero sign
          else .finite sign final scale (Nat.pos_of_ne_zero h) := by
  let first := shiftToTargetExponent Format.binary64 mantissa exponent accuracy
  have hrounded := roundedMantissa_mem first.1
  rw [mantissa_shiftToTargetExponent] at hrounded
  obtain ⟨hcanonical, hwhole⟩ := canonical_carry (canonical_shift hfine) hrounded
  refine ⟨first.1.roundedMantissa, hrounded, _, _, hcanonical, hwhole, ?_⟩
  rw [← mantissa_shiftToTargetExponent _ _ .exact]
  rfl

/-! ### Packing and cutting -/

theorem unpack_packComponents (sign : Sign) (exponent : BitVec 11) (fraction : BitVec 52) :
    UnpackedFloat.unpack Format.binary64 (packComponents Format.binary64 sign exponent fraction) =
      if exponent = -1#11 then if fraction = 0#52 then .infinity sign else .notANumber
      else if exponent = 0#11 then
        if h : fraction = 0#52 then .zero sign
        else .finite sign fraction.toNat (exponent.toNat - 1075 + 1)
          (Nat.pos_of_ne_zero fun hzero ↦ h (BitVec.eq_of_toNat_eq hzero))
      else .finite sign (2 ^ 52 + fraction.toNat) (exponent.toNat - 1075)
        (Nat.add_pos_left (Nat.two_pow_pos 52) _) := by
  have hsign : Sign.ofBitVec
      (unpackSign (packComponents Format.binary64 sign exponent fraction)) = sign := by
    change Sign.ofBitVec (BitVec.extractLsb' 63 1 (sign.toBitVec ++ exponent ++ fraction)) = sign
    rw [BitVec.extractLsb'_append_eq_of_le (by decide),
      BitVec.extractLsb'_append_eq_of_le (by decide)]
    cases sign <;> rfl
  have hexponent := @unpackExponent_packComponents Format.binary64 sign exponent fraction
  have hfraction := @unpackMantissa_packComponents Format.binary64 sign exponent fraction
  generalize packComponents Format.binary64 sign exponent fraction = bits at *
  subst hsign hexponent hfraction
  unfold UnpackedFloat.unpack
  dsimp only
  by_cases hfull : @unpackExponent Format.binary64 bits = -1#11
  · rw [if_pos hfull, if_pos hfull]
  by_cases hleast : @unpackExponent Format.binary64 bits = 0#11
  · rw [if_neg hfull, if_neg hfull, if_pos hleast, if_pos hleast]
    rfl
  · rw [if_neg hfull, if_neg hfull, if_neg hleast, if_neg hleast]
    exact (UnpackedFloat.finite.injEq ..).mpr ⟨rfl, toNat_one_append _, rfl⟩

theorem pack_finite (sign : Sign) {mantissa : ℕ} (exponent : ℤ) (hpositive : 0 < mantissa) :
    UnpackedFloat.pack Format.binary64 (.finite sign mantissa exponent hpositive) =
      if 2 ^ 11 ≤ (exponent + 1075).toNat + 1 then packedInfinity Format.binary64 sign
      else if mantissa.log2 + 1 = 53 then
        packComponents Format.binary64 sign (BitVec.ofNat 11 (exponent + 1075).toNat)
          (BitVec.ofNat 52 mantissa)
      else packComponents Format.binary64 sign 0#11 (BitVec.ofNat 52 mantissa) := by
  have hbias : (exponent + Format.binary64.exponentBias + (52 : ℕ)).toNat =
      (exponent + 1075).toNat := by
    change (exponent + 1023 + 52).toNat = _
    omega
  unfold UnpackedFloat.pack
  dsimp only
  rw [hbias]
  rfl

/-- What is beyond all numbers is packed as infinity. -/
theorem pack_of_lt (sign : Sign) {mantissa : ℕ} {exponent : ℤ} (hpositive : 0 < mantissa)
    (hbeyond : 971 < exponent) :
    Float.Model.pack (.finite sign mantissa exponent hpositive) =
      Float.Model.pack (.infinity sign) := by
  have hbits : UnpackedFloat.pack Format.binary64 (.finite sign mantissa exponent hpositive) =
      packedInfinity Format.binary64 sign := by
    rw [pack_finite, if_pos (by omega)]
  exact (Float.Model.mk.injEq ..).mpr (congrArg UInt64.ofBitVec hbits)

/-- A pair that a number can have is read as it was packed, unless it is beyond all numbers. -/
theorem unpack_pack (sign : Sign) {mantissa : ℕ} {exponent : ℤ}
    (hcanonical : Canonical mantissa exponent) (hpositive : 0 < mantissa)
    (hwithin : exponent ≤ 971) :
    (Float.Model.pack (.finite sign mantissa exponent hpositive)).unpack =
      .finite sign mantissa exponent hpositive := by
  have hlt := hcanonical.lt
  have hleast := hcanonical.least
  change UnpackedFloat.unpack Format.binary64 (UnpackedFloat.pack Format.binary64 _) = _
  rw [pack_finite, if_neg (by omega)]
  by_cases hfull : mantissa.log2 + 1 = 53
  · have hscale : (BitVec.ofNat 11 (exponent + 1075).toNat).toNat = (exponent + 1075).toNat := by
      rw [BitVec.toNat_ofNat]
      omega
    have hmantissa : 2 ^ 52 ≤ mantissa := (Nat.le_log2 hpositive.ne').mp (by omega)
    have hfinite : BitVec.ofNat 11 (exponent + 1075).toNat ≠ -1#11 := by
      rw [Ne, ← BitVec.toNat_inj, hscale]
      change ¬ _ = 2047
      omega
    have hnormal : BitVec.ofNat 11 (exponent + 1075).toNat ≠ 0#11 := by
      rw [Ne, ← BitVec.toNat_inj, hscale]
      change ¬ _ = 0
      omega
    rw [if_pos hfull, unpack_packComponents, if_neg hfinite, if_neg hnormal]
    refine (UnpackedFloat.finite.injEq ..).mpr ⟨rfl, ?_, by omega⟩
    rw [BitVec.toNat_ofNat]
    omega
  · have hsmall : mantissa < 2 ^ 52 := by
      by_contra hmantissa
      have hlow := (Nat.le_log2 hpositive.ne').mpr (Nat.le_of_not_lt hmantissa)
      have hhigh := (Nat.log2_lt hpositive.ne').mpr hlt
      omega
    obtain rfl : exponent = -1074 := hcanonical.full.resolve_left (Nat.not_le_of_lt hsmall)
    have hfraction : (BitVec.ofNat 52 mantissa).toNat = mantissa := by
      rw [BitVec.toNat_ofNat]
      omega
    have hnonzero : BitVec.ofNat 52 mantissa ≠ 0#52 := by
      rw [Ne, ← BitVec.toNat_inj, hfraction]
      exact hpositive.ne'
    rw [if_neg hfull, unpack_packComponents, if_neg (by decide), if_pos rfl, dif_neg hnonzero]
    exact (UnpackedFloat.finite.injEq ..).mpr ⟨rfl, hfraction, rfl⟩

theorem toNat_ofNatClamp (n : ℕ) : (UInt64.ofNatClamp n).toNat = min n (2 ^ 64 - 1) := by
  unfold UInt64.ofNatClamp
  split_ifs with hlt
  · rw [UInt64.toNat_ofNatLT]
    have : n < 2 ^ 64 := hlt
    omega
  · rw [UInt64.toNat_ofNatLT]
    have : ¬ n < 2 ^ 64 := hlt
    change 2 ^ 64 - 1 = _
    omega

theorem roundToInt_positive (mantissa : ℕ) (exponent : ℤ) :
    roundToInt .positive mantissa exponent = whole mantissa exponent := by
  have hleft : (exponent - 0).toNat = exponent.toNat := by rw [sub_zero]
  have hright : (0 - (exponent - exponent.toNat)).toNat = (-exponent).toNat := by omega
  unfold roundToInt decreaseExponent shiftToExponent
  simp only [Sign.apply, mantissa_shiftRight, mantissa_ofMantissaAndAccuracy, hleft,
    hright, Nat.shiftLeft_eq]
  rfl

/-- A canonical pair is cut to its whole part, as far as 64 bits reach. -/
theorem toNat_toUInt64_pack {mantissa : ℕ} {exponent : ℤ} (hcanonical : Canonical mantissa exponent)
    (hpositive : 0 < mantissa) :
    (Float.Model.pack (.finite .positive mantissa exponent hpositive)).toUInt64.toNat =
      min (whole mantissa exponent) (2 ^ 64 - 1) := by
  change (UInt64.ofNatClamp (UnpackedFloat.toInt 0 (UInt64.size - 1) _).toNat).toNat = _
  rw [toNat_ofNatClamp]
  rcases le_or_gt exponent 971 with hwithin | hbeyond
  · rw [unpack_pack .positive hcanonical hpositive hwithin]
    change min (roundToInt .positive mantissa exponent).toNat _ = _
    rw [roundToInt_positive, Int.toNat_natCast]
  · have hlarge : 2 ^ 64 ≤ whole mantissa exponent := by
      have hnone : (-exponent).toNat = 0 := by omega
      rw [whole, hnone, pow_zero, Nat.div_one]
      calc 2 ^ 64 ≤ 2 ^ exponent.toNat := Nat.pow_le_pow_right two_pos (by omega)
        _ ≤ mantissa * 2 ^ exponent.toNat := Nat.le_mul_of_pos_left _ hpositive
    rw [pack_of_lt .positive hpositive hbeyond]
    change min (2 ^ 64 - 1) (2 ^ 64 - 1) = _
    omega

/-! ### Quotients -/

/-- The exponent with which a quotient is formed, before it is rounded. -/
def quotientExponent (mantissa : ℕ) (exponent : ℤ) (divisor : ℕ) (scale : ℤ) : ℤ :=
  min (exponent - scale)
    (max (mantissa.log2 + 1 + exponent - (divisor.log2 + 1 + scale) - 53) (-1074))

/-- The mantissa of a quotient, before it is rounded. -/
def quotientMantissa (mantissa : ℕ) (exponent : ℤ) (divisor : ℕ) (scale : ℤ) : ℕ :=
  mantissa * 2 ^ (exponent - scale - quotientExponent mantissa exponent divisor scale).toNat /
    divisor

theorem divCore_mantissa (mantissa : ℕ) (exponent : ℤ) (divisor : ℕ) (scale : ℤ) :
    (divCore Format.binary64 mantissa exponent divisor scale).1 =
      quotientMantissa mantissa exponent divisor scale := by
  rw [quotientMantissa, ← Nat.shiftLeft_eq]
  rfl

/-- A quotient is formed with a full mantissa, or with the least exponent. -/
theorem quotientMantissa_full {mantissa divisor : ℕ} (hmantissa : 0 < mantissa)
    (hdivisor : 0 < divisor) (exponent scale : ℤ) :
    2 ^ 52 ≤ quotientMantissa mantissa exponent divisor scale ∨
      quotientExponent mantissa exponent divisor scale ≤ -1074 := by
  rcases le_or_gt (quotientExponent mantissa exponent divisor scale) (-1074) with hleast | hlarge
  · exact .inr hleast
  · refine .inl ((Nat.le_div_iff_mul_le hdivisor).mpr ?_)
    have hbits : 52 + (divisor.log2 + 1) ≤ mantissa.log2 +
        (exponent - scale - quotientExponent mantissa exponent divisor scale).toNat := by
      unfold quotientExponent at hlarge ⊢
      omega
    calc 2 ^ 52 * divisor ≤ 2 ^ 52 * 2 ^ (divisor.log2 + 1) :=
          Nat.mul_le_mul_left _ Nat.lt_log2_self.le
      _ ≤ 2 ^ mantissa.log2 *
          2 ^ (exponent - scale - quotientExponent mantissa exponent divisor scale).toNat := by
        rw [← pow_add, ← pow_add]
        exact Nat.pow_le_pow_right (by decide) hbits
      _ ≤ mantissa * 2 ^ (exponent - scale -
          quotientExponent mantissa exponent divisor scale).toNat :=
        Nat.mul_le_mul_right _ (Nat.log2_self_le hmantissa.ne')

/-- A quotient is formed with the whole part it should have. -/
theorem le_whole_quotient {bound mantissa divisor : ℕ} {exponent scale : ℤ}
    (hbound : bound ≤ 2 ^ 53) (hmantissa : 0 < mantissa) (hdivisor : 0 < divisor)
    (hle : bound * (divisor * 2 ^ scale) ≤ (mantissa * 2 ^ exponent : ℚ)) :
    bound ≤ whole (quotientMantissa mantissa exponent divisor scale)
      (quotientExponent mantissa exponent divisor scale) := by
  have hfull := quotientMantissa_full hmantissa hdivisor exponent scale
  unfold quotientMantissa at hfull ⊢
  have hfits : quotientExponent mantissa exponent divisor scale ≤ exponent - scale :=
    min_le_left _ _
  generalize quotientExponent mantissa exponent divisor scale = lowered at hfull hfits ⊢
  rcases le_or_gt lowered 0 with hsmall | hlarge
  · rw [whole_of_nonpos _ hsmall, Nat.le_div_iff_mul_le (by positivity),
      Nat.le_div_iff_mul_le hdivisor]
    have hleft : (2 : ℚ) ^ scale * 2 ^ (-lowered - scale) = 2 ^ (-lowered).toNat := by
      rw [← zpow_add₀ two_ne_zero, ← zpow_natCast]
      congr 1
      omega
    have hright : (2 : ℚ) ^ exponent * 2 ^ (-lowered - scale) =
        2 ^ (exponent - scale - lowered).toNat := by
      rw [← zpow_add₀ two_ne_zero, ← zpow_natCast]
      congr 1
      omega
    have hscaled := mul_le_mul_of_nonneg_right hle
      (zpow_pos two_pos (-lowered - scale) : (0 : ℚ) < _).le
    rw [mul_assoc, mul_assoc, hleft, mul_assoc, hright] at hscaled
    have hcast : bound * (divisor * 2 ^ (-lowered).toNat) ≤
        mantissa * 2 ^ (exponent - scale - lowered).toNat := by exact_mod_cast hscaled
    rwa [mul_assoc, mul_comm _ divisor]
  · exact hbound.trans (le_whole_of_full (hfull.resolve_right (by omega)) hlarge)

/-- The quotient is formed from below. -/
theorem quotientMantissa_mul_le {mantissa divisor : ℕ} {exponent scale : ℤ} :
    (quotientMantissa mantissa exponent divisor scale *
      2 ^ quotientExponent mantissa exponent divisor scale * (divisor * 2 ^ scale) : ℚ) ≤
        mantissa * 2 ^ exponent := by
  have hfits : quotientExponent mantissa exponent divisor scale ≤ exponent - scale :=
    min_le_left _ _
  unfold quotientMantissa
  generalize quotientExponent mantissa exponent divisor scale = lowered at hfits ⊢
  have hfloor : ((mantissa * 2 ^ (exponent - scale - lowered).toNat / divisor : ℕ) : ℚ) * divisor ≤
      mantissa * 2 ^ (exponent - scale - lowered).toNat := by
    exact_mod_cast Nat.div_mul_le_self _ divisor
  have hpow : (2 : ℚ) ^ (exponent - scale - lowered).toNat * 2 ^ (lowered + scale) =
      2 ^ exponent := by
    rw [← zpow_natCast, ← zpow_add₀ two_ne_zero]
    congr 1
    omega
  calc ((mantissa * 2 ^ (exponent - scale - lowered).toNat / divisor : ℕ) : ℚ) * 2 ^ lowered *
        (divisor * 2 ^ scale)
      = ((mantissa * 2 ^ (exponent - scale - lowered).toNat / divisor : ℕ) : ℚ) * divisor *
        2 ^ (lowered + scale) := by
        rw [zpow_add₀ two_ne_zero]
        ring
    _ ≤ mantissa * 2 ^ (exponent - scale - lowered).toNat * 2 ^ (lowered + scale) :=
        mul_le_mul_of_nonneg_right hfloor (by positivity)
    _ = mantissa * 2 ^ exponent := by rw [mul_assoc, hpow]

/-- The quotient of two positive numbers, cut to a whole number, is that of one of the two pairs
next to the exact quotient. -/
theorem exists_toUInt64_div_eq {x y : Float} {mantissa divisor : ℕ} {exponent scale : ℤ}
    {hmantissa : 0 < mantissa} {hdivisor : 0 < divisor}
    (hx : x.toModel.unpack = .finite .positive mantissa exponent hmantissa)
    (hy : y.toModel.unpack = .finite .positive divisor scale hdivisor) :
    let formed := quotientMantissa mantissa exponent divisor scale
    let shift := excess formed (quotientExponent mantissa exponent divisor scale)
    ∃ rounded ∈ Set.Icc (formed / 2 ^ shift) (formed / 2 ^ shift + 1),
      (x / y).toUInt64.toNat =
        min (whole rounded (quotientExponent mantissa exponent divisor scale + shift))
          (2 ^ 64 - 1) := by
  intro formed shift
  obtain ⟨rounded, hrounded, final, lowered, hcanonical, hwhole, hround⟩ :=
    exists_roundWithAccuracy_eq (quotientMantissa_full hmantissa hdivisor exponent scale) .positive
      (divCore Format.binary64 mantissa exponent divisor scale).2.2
  refine ⟨rounded, hrounded, ?_⟩
  have hquotient : UnpackedFloat.div Format.binary64 x.toModel.unpack y.toModel.unpack =
      roundWithAccuracy Format.binary64 .positive
        (quotientMantissa mantissa exponent divisor scale)
        (quotientExponent mantissa exponent divisor scale)
        (divCore Format.binary64 mantissa exponent divisor scale).2.2 := by
    rw [hx, hy, ← divCore_mantissa]
    rfl
  change (Float.Model.pack (UnpackedFloat.div Format.binary64 x.toModel.unpack
    y.toModel.unpack)).toUInt64.toNat = _
  rw [hquotient, hround, ← hwhole]
  by_cases hzero : final = 0
  · rw [dif_pos hzero, hzero, whole, zero_mul, Nat.zero_div]
    rfl
  · rw [dif_neg hzero]
    exact toNat_toUInt64_pack hcanonical (Nat.pos_of_ne_zero hzero)

/-- A whole number that the exact quotient of two positive numbers reaches is reached by their
quotient cut to a whole number. -/
theorem le_toUInt64_div {x y : Float} (hx : 0 < x) (hxfinite : x.isFinite = true) (hy : 0 < y)
    (hyfinite : y.isFinite = true) {bound : ℕ} (hbound : bound ≤ 2 ^ 53)
    (hle : bound * (Dyadic64.ofBits y.toBits).value ≤ (Dyadic64.ofBits x.toBits).value) :
    bound ≤ (x / y).toUInt64.toNat := by
  obtain ⟨mantissa, exponent, hmantissa, hxunpack, -, hxvalue⟩ := unpack_of_pos hx hxfinite
  obtain ⟨divisor, scale, hdivisor, hyunpack, -, hyvalue⟩ := unpack_of_pos hy hyfinite
  rw [hxvalue, hyvalue] at hle
  obtain ⟨rounded, ⟨hlow, -⟩, hquotient⟩ := exists_toUInt64_div_eq hxunpack hyunpack
  have hreached := le_whole_shift hbound (quotientMantissa_full hmantissa hdivisor exponent scale)
    (le_whole_quotient hbound hmantissa hdivisor hle)
  have hrounded := hreached.trans (whole_mono hlow _)
  rw [hquotient]
  omega

/-- Two numbers of which the first is smaller by more than the part that rounding can add have a
quotient without a whole part. -/
theorem toUInt64_div_eq_zero {x y : Float} (hx : 0 < x) (hxfinite : x.isFinite = true) (hy : 0 < y)
    (hyfinite : y.isFinite = true)
    (hlt : (Dyadic64.ofBits x.toBits).value * 2 ^ 53 <
      (2 ^ 53 - 1) * (Dyadic64.ofBits y.toBits).value) : (x / y).toUInt64.toNat = 0 := by
  have hvalue := value_pos hy hyfinite
  obtain ⟨mantissa, exponent, hmantissa, hxunpack, -, hxvalue⟩ := unpack_of_pos hx hxfinite
  obtain ⟨divisor, scale, hdivisor, hyunpack, -, hyvalue⟩ := unpack_of_pos hy hyfinite
  rw [hxvalue, hyvalue] at hlt
  rw [hyvalue] at hvalue
  obtain ⟨rounded, hrounded, hquotient⟩ := exists_toUInt64_div_eq hxunpack hyunpack
  have hcanonical := canonical_shift (quotientMantissa_full hmantissa hdivisor exponent scale)
  have hbelow := @quotientMantissa_mul_le mantissa divisor exponent scale
  rw [hquotient, whole_rounded_eq_zero hcanonical hrounded, Nat.zero_min]
  have hshift := shift_mul_le (quotientMantissa mantissa exponent divisor scale)
    (excess (quotientMantissa mantissa exponent divisor scale)
      (quotientExponent mantissa exponent divisor scale))
    (quotientExponent mantissa exponent divisor scale)
  refine lt_of_mul_lt_mul_right (lt_of_le_of_lt ?_ hlt) hvalue.le
  rw [mul_right_comm]
  exact mul_le_mul_of_nonneg_right
    ((mul_le_mul_of_nonneg_right hshift hvalue.le).trans hbelow) (by positivity)

end Binary64

end LightShow
