import LightShow.Bridge.Body
import LightShow.Proofs.Number.NearestShare

/-!
# What a body asks for

Whatever an update says, its body has the same fields, and their values are in the ranges that a
bridge takes (`serves_ofUpdate`). This holds over every arithmetic, so for all floating-point hues
and saturations. The values themselves are those of `Scalar.share`, which words of 8 and 16 bits
hold without loss.
-/

set_option autoImplicit false

namespace LightShow.Body

/-- The body has the fields of the update, with values that a bridge takes, and a brightness that a
bridge takes is sent as it is. -/
structure Serves {κ : Type} (body : Body) (update : Update κ) : Prop where
  bri_isSome : body.bri.isSome = update.brightness.isSome
  hue_isSome : body.hue.isSome = update.hue.isSome
  sat_isSome : body.sat.isSome = update.saturation.isSome
  transition_isSome : body.transition.isSome = update.transition.isSome
  bri_le : ∀ level ∈ body.bri, level.toNat ≤ 254
  hue_le : ∀ level ∈ body.hue, level.toNat ≤ 65535
  sat_le : ∀ level ∈ body.sat, level.toNat ≤ 254
  bri_kept : ∀ brightness ∈ update.brightness, brightness.toInt ∈ Set.Icc 0 254 →
    ∃ level ∈ body.bri, (level.toNat : ℤ) = brightness.toInt

theorem toNat_brightness (brightness : Int32) :
    ((UInt8.ofNat (brightnessLevel brightness)).toNat : ℤ) =
      max 0 (min 254 brightness.toInt) := by
  have hlevel : brightnessLevel brightness ≤ 254 := min_le_right _ _
  rw [UInt8.toNat_ofNat_of_lt' (hlevel.trans_lt (by decide)), brightnessLevel, maxBrightness]
  omega

section Words

variable {κ : Type} [Scalar κ]

theorem share_le (whole : ℕ) (x : κ) : Scalar.share whole x ≤ whole :=
  min_le_right _ _

theorem map_toNat_hue (update : Update κ) :
    (ofUpdate update).hue.map UInt16.toNat = update.hue.map (Scalar.share 65535) := by
  refine (Option.map_map _ _ _).trans (congrArg (Option.map · update.hue) (funext fun hue ↦ ?_))
  exact UInt16.toNat_ofNat_of_lt' ((share_le 65535 hue).trans_lt (by decide))

theorem map_toNat_sat (update : Update κ) :
    (ofUpdate update).sat.map UInt8.toNat = update.saturation.map (Scalar.share 254) := by
  refine (Option.map_map _ _ _).trans
    (congrArg (Option.map · update.saturation) (funext fun saturation ↦ ?_))
  exact UInt8.toNat_ofNat_of_lt' ((share_le 254 saturation).trans_lt (by decide))

theorem serves_ofUpdate (update : Update κ) : (ofUpdate update).Serves update where
  bri_isSome := Option.isSome_map
  hue_isSome := Option.isSome_map
  sat_isSome := Option.isSome_map
  transition_isSome := rfl
  bri_le := by
    intro level hlevel
    obtain ⟨brightness, -, rfl⟩ := Option.map_eq_some_iff.mp hlevel
    have hclamped := toNat_brightness brightness
    omega
  hue_le level _ := Nat.le_of_lt_succ level.toNat_lt
  sat_le := by
    intro level hlevel
    have hsent := map_toNat_sat update
    rw [Option.mem_def.mp hlevel, Option.map_some] at hsent
    obtain ⟨saturation, -, hshare⟩ := Option.map_eq_some_iff.mp hsent.symm
    exact hshare ▸ share_le 254 saturation
  bri_kept := by
    intro brightness hbrightness hrange
    refine ⟨UInt8.ofNat (brightnessLevel brightness), ?_, ?_⟩
    · exact Option.map_eq_some_iff.mpr ⟨brightness, hbrightness, rfl⟩
    · rw [toNat_brightness, min_eq_right hrange.2, max_eq_right hrange.1]

end Words

theorem isWritten_maxHue : Binary64.IsWritten 65535 :=
  ⟨37, by decide, by decide, rfl⟩

theorem isWritten_maxSaturation : Binary64.IsWritten 254 :=
  ⟨45, by decide, by decide, rfl⟩

open scoped ExactArithmetic

attribute [-instance] Scalar.toAdd Scalar.toSub Scalar.toMul Scalar.toDiv

/-- A body has just the fields of its update, with values in the ranges of a bridge whatever the
update holds, and a brightness in range is sent as it is. Of floating-point hues and saturations,
what is no number is sent as zero, and what is outside the range, infinities among it, as the nearer
end. In exact arithmetic the number that is sent for a hue or a saturation between zero and one is
within one half of its product with the largest number, outside it is the nearer end, and it never
falls as they rise. -/
theorem ofUpdate_in_range_and_nearest (K : Type) [Field K] [LinearOrder K] [IsStrictOrderedRing K]
    [FloorRing K] :
    (∀ (κ : Type) [Scalar κ] (update : Update κ), (ofUpdate update).Serves update) ∧
    (∃ sentHue sentSaturation : Float → ℕ,
      Binary64.SendsEnds 65535 sentHue ∧ Binary64.SendsEnds 254 sentSaturation ∧
      ∀ update : Update Float, (ofUpdate update).hue.map UInt16.toNat = update.hue.map sentHue ∧
        (ofUpdate update).sat.map UInt8.toNat = update.saturation.map sentSaturation) ∧
    ∃ sentHue sentSaturation : K → ℕ,
      Scalar.SendsNearest 65535 sentHue ∧ Scalar.SendsNearest 254 sentSaturation ∧
      ∀ update : Update K, (ofUpdate update).hue.map UInt16.toNat = update.hue.map sentHue ∧
        (ofUpdate update).sat.map UInt8.toNat = update.saturation.map sentSaturation := by
  refine ⟨fun κ _ ↦ serves_ofUpdate, ⟨Scalar.share 65535, Scalar.share 254, ?_, ?_, ?_⟩,
    Scalar.share 65535, Scalar.share 254, ?_, ?_, ?_⟩
  · exact Binary64.sendsEnds_share isWritten_maxHue (by norm_num)
  · exact Binary64.sendsEnds_share isWritten_maxSaturation (by norm_num)
  · exact fun update ↦ ⟨map_toNat_hue update, map_toNat_sat update⟩
  · exact Scalar.sendsNearest_share 65535
  · exact Scalar.sendsNearest_share 254
  · exact fun update ↦ ⟨map_toNat_hue update, map_toNat_sat update⟩

/-- Half the colour circle lies between two numbers and twice the saturation is beyond its range. -/
def halfway : Update ℚ where
  light := "1"
  brightness := some 200
  hue := some (1 / 2)
  saturation := some 2

/-- Its hue is sent as one of the two numbers next to 32767.5, its saturation as the largest one and
its brightness as it is; a hue that is no number is sent as zero, and one of infinity as the largest
number. -/
theorem ofUpdate_in_range_and_nearest_halfway :
    (∃ hue ∈ (ofUpdate halfway).hue, hue.toNat ∈ Set.Icc 32767 32768) ∧
    (ofUpdate halfway).sat = some 254 ∧ (ofUpdate halfway).bri = some 200 ∧
    (ofUpdate { light := "1", hue := some (0 / 0 : Float) }).hue = some 0 ∧
    (ofUpdate { light := "1", hue := some (1 / 0 : Float) }).hue = some 65535 := by
  obtain ⟨hserves, ⟨_, _, hends, -, hfloat⟩, sentHue, sentSaturation, hhue, hsaturation, hsent⟩ :=
    ofUpdate_in_range_and_nearest ℚ
  rw [Scalar.scalarOfField_rat] at hsent
  obtain ⟨hhalf, htwice⟩ := hsent halfway
  refine ⟨?_, ?_, ?_, ?_, ?_⟩
  · obtain ⟨hue, hmem, hvalue⟩ := Option.map_eq_some_iff.mp hhalf
    have hnear := hhue.within (1 / 2) (by norm_num)
    rw [abs_le] at hnear
    have hlow : (32767 : ℚ) ≤ sentHue (1 / 2) := by push_cast at hnear; linarith
    have hhigh : (sentHue (1 / 2) : ℚ) ≤ 32768 := by push_cast at hnear; linarith
    exact ⟨hue, hmem, hvalue ▸ ⟨by exact_mod_cast hlow, by exact_mod_cast hhigh⟩⟩
  · obtain ⟨saturation, hmem, hvalue⟩ := Option.map_eq_some_iff.mp htwice
    rw [hmem, Option.some_inj, ← UInt8.toNat_inj]
    exact hvalue.trans (hsaturation.above 2 (by norm_num))
  · obtain ⟨level, hmem, hvalue⟩ := (hserves ℚ halfway).bri_kept 200 rfl (by decide)
    rw [Option.mem_def.mp hmem, Option.some_inj, ← UInt8.toNat_inj]
    exact Int.ofNat_inj.mp hvalue
  · obtain ⟨hue, hmem, hvalue⟩ := Option.map_eq_some_iff.mp (hfloat ⟨"1", _, some (0 / 0), _, _⟩).1
    rw [hmem, Option.some_inj, ← UInt16.toNat_inj]
    exact hvalue.trans (hends.notANumber _ (by decide +kernel))
  · obtain ⟨hue, hmem, hvalue⟩ := Option.map_eq_some_iff.mp (hfloat ⟨"1", _, some (1 / 0), _, _⟩).1
    rw [hmem, Option.some_inj, ← UInt16.toNat_inj]
    exact hvalue.trans (hends.above _ (by decide +kernel))

end LightShow.Body
