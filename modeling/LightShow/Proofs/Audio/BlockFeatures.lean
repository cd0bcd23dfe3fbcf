import LightShow.Audio.Analyzer
import LightShow.Proofs.Bytes.Layout
import LightShow.Proofs.Number.ExactArithmetic

/-!
# The levels of a block and its features

A block of sound is read as one level per sample frame: the mean of its channels, as a share of full
scale. Cutting it into sample frames and these into samples finds the words at their places in the
bytes, whatever is left over at the end of the block (`mix_take_drop`). So in exact arithmetic the
levels are a formula of the bytes (`decodeInto_eq`), and none of them is beyond full scale
(`abs_le_one_of_mem_decodeInto`).

Amplitude and energy are the largest absolute level and the root of the mean square. The first is
told by what it is below (`peak_le_iff`), and the mean of the squares is not above the largest
square (`meanSquare_le`). Both are zero exactly for silence.
-/

set_option autoImplicit false

namespace LightShow

namespace Pcm

/-! ### Words at their places -/

/-- The signed number in the two bytes from a place on, the low one first. -/
def wordAt (data : List UInt8) (place : ℕ) : ℤ :=
  ((data.getD place 0).toNat + 256 * (data.getD (place + 1) 0).toNat : ℤ).bmod (2 ^ 16)

theorem toInt_sampleValue (low high : UInt8) :
    (sampleValue low high).toInt = (low.toNat + 256 * high.toNat : ℤ).bmod (2 ^ 16) := by
  rw [sampleValue, UInt16.toInt16_ofNat', Int16.toInt_ofNat']
  push_cast
  rfl

theorem abs_wordAt_le (data : List UInt8) (place : ℕ) : |wordAt data place| ≤ 32768 := by
  have hword : wordAt data place =
      (sampleValue (data.getD place 0) (data.getD (place + 1) 0)).toInt :=
    (toInt_sampleValue _ _).symm
  have hlow := Int16.le_toInt (sampleValue (data.getD place 0) (data.getD (place + 1) 0))
  have hhigh := Int16.toInt_lt (sampleValue (data.getD place 0) (data.getD (place + 1) 0))
  rw [← hword] at hlow hhigh
  exact abs_le.mpr ⟨by omega, by omega⟩

/-- A channel of a sample frame is read from its two bytes. -/
theorem levelOf_take_drop {α : Type} [Scalar α] (data : List UInt8) {count i channel : ℕ}
    (hchannel : channel < count) :
    (levelOf (((((data.drop (i * (2 * count))).take (2 * count)).drop (channel * 2)).take 2)) : α) =
      level (sampleValue (data.getD (2 * (i * count + channel)) 0)
        (data.getD (2 * (i * count + channel) + 1) 0)) := by
  have hplace : i * (2 * count) + channel * 2 = 2 * (i * count + channel) := by ring
  have hlow : channel * 2 < 2 * count := by omega
  have hhigh : channel * 2 + 1 < 2 * count := by omega
  simp [levelOf, List.getD_eq_getElem?_getD, hlow, hhigh, ← Nat.add_assoc, hplace]

/-- The mix of one sample frame is taken over the row of its channels. -/
theorem mix_take_drop {α : Type} [Scalar α] {data : List UInt8} {count i : ℕ}
    (hi : (i + 1) * (2 * count) ≤ data.length) :
    (mix count ((data.drop (i * (2 * count))).take (2 * count)) : α) =
      Scalar.sum ((List.range count).map fun channel ↦
        level (sampleValue (data.getD (2 * (i * count + channel)) 0)
          (data.getD (2 * (i * count + channel) + 1) 0))) / Scalar.ofNat count := by
  have hlength : ((data.drop (i * (2 * count))).take (2 * count)).length = 2 * count :=
    length_take_drop (by linarith)
  have hlevels : (chunks 2 ((data.drop (i * (2 * count))).take (2 * count))).map levelOf =
      (List.range count).map fun channel ↦
        (level (sampleValue (data.getD (2 * (i * count + channel)) 0)
          (data.getD (2 * (i * count + channel) + 1) 0)) : α) := by
    rw [chunks_eq_map_range, hlength, Nat.mul_div_cancel_left count two_pos, List.map_map]
    exact List.map_congr_left fun channel hchannel ↦
      levelOf_take_drop data (List.mem_range.mp hchannel)
  rw [mix, hlevels]

/-- There is one level for every whole sample frame, whatever stood in the buffer. -/
theorem length_decodeInto {α : Type} [Scalar α] (buffer : List α) (frame : AudioFrame) :
    (decodeInto buffer frame.data frame.channels).length = frame.sampleFrames := by
  rw [decodeInto, List.take_zero, List.nil_append, List.length_map, chunks_eq_map_range,
    List.length_map, List.length_range, ← Nat.div_div_eq_div_mul, AudioFrame.sampleFrames]

/-! ### Levels -/

section Exact

open scoped ExactArithmetic

attribute [-instance] Scalar.toAdd Scalar.toSub Scalar.toMul Scalar.toDiv

variable {K : Type} [Field K] [LinearOrder K] [FloorRing K]

theorem level_eq (sample : Int16) : (level sample : K) = sample.toInt * (32768 : K)⁻¹ := by
  have hscale : (fullScale : K) = 32768 := by norm_num [fullScale]
  rw [← hscale, ← div_eq_mul_inv]
  unfold level
  split_ifs with hnegative
  · have habs : (sample.toInt.natAbs : ℤ) = -sample.toInt :=
      Int.ofNat_natAbs_of_nonpos (Int16.lt_iff_toInt_lt.mp hnegative).le
    have hcast : (sample.toInt.natAbs : K) = -sample.toInt := by
      rw [← Int.cast_natCast, habs, Int.cast_neg]
    simp [hcast]
  · have habs : (sample.toInt.natAbs : ℤ) = sample.toInt :=
      Int.natAbs_of_nonneg (Int16.le_iff_toInt_le.mp (Int16.not_lt.mp hnegative))
    have hcast : (sample.toInt.natAbs : K) = sample.toInt := by
      rw [← Int.cast_natCast, habs]
    simp [hcast]

theorem decodeInto_eq (buffer : List K) (data : List UInt8) (channels : UInt16) :
    decodeInto buffer data channels =
      (List.range (data.length / (2 * channelCount channels))).map fun i ↦
        (∑ channel ∈ Finset.range (channelCount channels),
          (wordAt data (2 * (i * channelCount channels + channel)) : K)) /
            channelCount channels / 32768 := by
  rw [decodeInto, List.take_zero, List.nil_append, chunks_eq_map_range, List.map_map]
  refine List.map_congr_left fun i hi ↦ ?_
  have hfits : (i + 1) * (2 * channelCount channels) ≤ data.length :=
    Nat.mul_le_of_le_div _ _ _ (List.mem_range.mp hi)
  have hlevels : (List.range (channelCount channels)).map (fun channel ↦
        (level (sampleValue (data.getD (2 * (i * channelCount channels + channel)) 0)
          (data.getD (2 * (i * channelCount channels + channel) + 1) 0)) : K)) =
      (List.range (channelCount channels)).map fun channel ↦
        (wordAt data (2 * (i * channelCount channels + channel)) : K) * (32768 : K)⁻¹ := by
    refine List.map_congr_left fun channel _ ↦ ?_
    rw [level_eq, toInt_sampleValue]
    rfl
  rw [Function.comp_apply, mix_take_drop hfits, hlevels, Scalar.sum_eq, List.sum_map_mul_right,
    Scalar.ofNat_eq_cast, ← div_eq_mul_inv, div_right_comm]
  rfl

variable [IsStrictOrderedRing K]

/-- No level is beyond full scale. -/
theorem abs_le_one_of_mem_decodeInto {buffer : List K} {data : List UInt8} {channels : UInt16}
    {level : K} (hlevel : level ∈ decodeInto buffer data channels) : |level| ≤ 1 := by
  rw [decodeInto_eq] at hlevel
  obtain ⟨i, -, rfl⟩ := List.mem_map.mp hlevel
  have hcount : (0 : K) < channelCount channels :=
    Nat.cast_pos.mpr (Nat.lt_of_lt_of_le one_pos (le_max_right _ _))
  have hwords : ∀ channel ∈ Finset.range (channelCount channels),
      |(wordAt data (2 * (i * channelCount channels + channel)) : K)| ≤ 32768 := fun channel _ ↦ by
    exact_mod_cast abs_wordAt_le data (2 * (i * channelCount channels + channel))
  rw [div_div, abs_div, abs_of_pos (by positivity : (0 : K) < channelCount channels * 32768),
    div_le_one (by positivity)]
  calc |∑ channel ∈ Finset.range (channelCount channels),
        (wordAt data (2 * (i * channelCount channels + channel)) : K)|
      ≤ ∑ channel ∈ Finset.range (channelCount channels),
        |(wordAt data (2 * (i * channelCount channels + channel)) : K)| :=
        Finset.abs_sum_le_sum_abs _ _
    _ ≤ (Finset.range (channelCount channels)).card • 32768 := Finset.sum_le_card_nsmul _ _ _ hwords
    _ = channelCount channels * 32768 := by rw [Finset.card_range, nsmul_eq_mul]

end Exact

end Pcm

namespace Features

/-! ### Amplitude and energy -/

section Exact

open scoped ExactArithmetic

attribute [-instance] Scalar.toAdd Scalar.toSub Scalar.toMul Scalar.toDiv

variable {K : Type} [Field K] [LinearOrder K] [FloorRing K]

theorem foldl_maxOf_le_iff {xs : List K} {start bound : K} :
    xs.foldl Scalar.maxOf start ≤ bound ↔ start ≤ bound ∧ ∀ x ∈ xs, x ≤ bound := by
  induction xs generalizing start with
  | nil => simp
  | cons x xs ih =>
    rw [List.foldl_cons, Scalar.maxOf_eq, List.forall_mem_cons, ← and_assoc, ← max_le_iff]
    exact ih

theorem meanSquare_eq (samples : List K) :
    meanSquare samples = (samples.map fun sample ↦ sample ^ 2).sum / samples.length := by
  cases samples with
  | nil => simp [meanSquare]
  | cons sample rest => simp [meanSquare, pow_two]

variable [IsStrictOrderedRing K]

theorem peak_le_iff {samples : List K} {bound : K} :
    peak samples ≤ bound ↔ 0 ≤ bound ∧ ∀ sample ∈ samples, |sample| ≤ bound := by
  rw [peak, foldl_maxOf_le_iff, Scalar.zero_eq, List.forall_mem_map]
  simp only [Scalar.abs_eq]

theorem peak_nonneg (samples : List K) : 0 ≤ peak samples :=
  (peak_le_iff.mp le_rfl).1

theorem abs_le_peak {samples : List K} {sample : K} (hsample : sample ∈ samples) :
    |sample| ≤ peak samples :=
  (peak_le_iff.mp le_rfl).2 sample hsample

theorem peak_eq_zero_iff {samples : List K} :
    peak samples = 0 ↔ ∀ sample ∈ samples, sample = 0 := by
  rw [← (peak_nonneg samples).ge_iff_eq', peak_le_iff]
  simp

theorem meanSquare_nonneg (samples : List K) : 0 ≤ meanSquare samples := by
  rw [meanSquare_eq]
  refine div_nonneg (List.sum_nonneg ?_) (Nat.cast_nonneg _)
  exact List.forall_mem_map.mpr fun sample _ ↦ sq_nonneg sample

theorem meanSquare_le (samples : List K) : meanSquare samples ≤ peak samples ^ 2 := by
  rw [meanSquare_eq]
  refine div_le_of_le_mul₀ (Nat.cast_nonneg _) (sq_nonneg _) ?_
  have hsquares : ∀ square ∈ samples.map fun sample ↦ sample ^ 2, square ≤ peak samples ^ 2 :=
    List.forall_mem_map.mpr fun sample hsample ↦
      sq_le_sq' (neg_le_of_abs_le (abs_le_peak hsample)) (le_of_abs_le (abs_le_peak hsample))
  calc (samples.map fun sample ↦ sample ^ 2).sum
      ≤ (samples.map fun sample ↦ sample ^ 2).length • peak samples ^ 2 :=
        List.sum_le_card_nsmul _ _ hsquares
    _ = peak samples ^ 2 * samples.length := by rw [List.length_map, nsmul_eq_mul, mul_comm]

theorem meanSquare_eq_zero_iff {samples : List K} :
    meanSquare samples = 0 ↔ ∀ sample ∈ samples, sample = 0 := by
  constructor
  · intro hzero sample hsample
    have hcount : (samples.length : K) ≠ 0 :=
      Nat.cast_ne_zero.mpr (List.length_pos_of_mem hsample).ne'
    rw [meanSquare_eq, div_eq_zero_iff, or_iff_left hcount] at hzero
    have hsquares : ∀ square ∈ samples.map fun sample ↦ sample ^ 2, 0 ≤ square :=
      List.forall_mem_map.mpr fun sample _ ↦ sq_nonneg sample
    have hsquare := List.all_zero_of_le_zero_le_of_sum_eq_zero hsquares hzero
      (List.mem_map_of_mem hsample)
    exact pow_eq_zero_iff two_ne_zero |>.mp hsquare
  · intro hzero
    have hpeak := meanSquare_le samples
    rw [peak_eq_zero_iff.mpr hzero, zero_pow two_ne_zero] at hpeak
    exact le_antisymm hpeak (meanSquare_nonneg samples)

theorem rms_eq (samples : List ℝ) : rms samples = √(meanSquare samples) := by
  cases samples with
  | nil => simp [rms, meanSquare]
  | cons sample rest => rfl

theorem sq_rms (samples : List ℝ) : rms samples ^ 2 = meanSquare samples := by
  rw [rms_eq, Real.sq_sqrt (meanSquare_nonneg samples)]

theorem rms_eq_zero_iff {samples : List ℝ} :
    rms samples = 0 ↔ ∀ sample ∈ samples, sample = 0 := by
  rw [rms_eq, Real.sqrt_eq_zero (meanSquare_nonneg samples), meanSquare_eq_zero_iff]

end Exact

end Features

/-! ### Blocks -/

open scoped ExactArithmetic

attribute [-instance] Scalar.toAdd Scalar.toSub Scalar.toMul Scalar.toDiv

/-- The bytes of a whole sample frame are all there. -/
theorem AudioFrame.lt_length_of_lt_sampleFrames {frame : AudioFrame} {i channel : ℕ}
    (hi : i < frame.sampleFrames) (hchannel : channel < max frame.channels.toNat 1) :
    2 * (i * max frame.channels.toNat 1 + channel) + 1 < frame.data.length := by
  have hfits : (i + 1) * max frame.channels.toNat 1 ≤ frame.data.length / 2 :=
    Nat.mul_le_of_le_div _ _ _ hi
  rw [Nat.add_mul, one_mul] at hfits
  omega

/-- A block of any length and any number of channels, none counting as one, is read as one level for
every whole sample frame, in every arithmetic, and nothing stays of what stood in the buffer that
takes the levels. In exact arithmetic the level of frame `i` is the mean over the channels of the
signed words at their places, divided by 32768, and lies between -1 and 1. Of these levels the
energy is at most the amplitude and the amplitude at most one, and each of them is zero exactly if
all levels are. Every analyzer, whatever it has heard before, holds the levels of the block in its
buffer afterwards, and their amplitude and energy are what it says of the block. -/
theorem levels_and_features_consistent (frame : AudioFrame) :
    let channels := max frame.channels.toNat 1
    (∀ (α : Type) [Scalar α] (buffer : List α),
      let levels := Pcm.decodeInto buffer frame.data frame.channels
      levels = Pcm.decodeInto [] frame.data frame.channels ∧
        levels.length = frame.sampleFrames) ∧
    (∀ buffer : List ℝ,
      let levels := Pcm.decodeInto buffer frame.data frame.channels
      let amplitude := Features.peak levels
      let energy := Features.rms levels
      (∀ i < frame.sampleFrames,
        (∀ channel < channels, 2 * (i * channels + channel) + 1 < frame.data.length) ∧
        levels[i]? = some ((∑ channel ∈ Finset.range channels,
          (Pcm.wordAt frame.data (2 * (i * channels + channel)) : ℝ)) / channels / 32768)) ∧
      (∀ level ∈ levels, level ∈ Set.Icc (-1) 1) ∧
      (0 ≤ energy ^ 2 ∧ energy ^ 2 ≤ amplitude ^ 2 ∧ amplitude ^ 2 ≤ 1) ∧
      (energy = 0 ↔ amplitude = 0) ∧ (amplitude = 0 ↔ ∀ level ∈ levels, level = 0)) ∧
    ∀ analyzer : Analyzer,
      let (next, features) := analyzer.analyze frame
      next.samples = Pcm.decodeInto analyzer.samples frame.data frame.channels ∧
      features.amplitude = Features.peak next.samples ∧
      features.energy = Features.rms next.samples := by
  intro channels
  refine ⟨fun α _ buffer ↦ ⟨rfl, Pcm.length_decodeInto buffer frame⟩, ?_,
    fun analyzer ↦ ⟨rfl, rfl, rfl⟩⟩
  intro buffer levels amplitude energy
  have hlevels : ∀ level ∈ levels, |level| ≤ 1 := fun level ↦ Pcm.abs_le_one_of_mem_decodeInto
  have hamplitude : amplitude ≤ 1 := Features.peak_le_iff.mpr ⟨zero_le_one, hlevels⟩
  refine ⟨fun i hi ↦ ⟨fun channel ↦ ?_, ?_⟩, ?_, ⟨sq_nonneg energy, ?_, ?_⟩, ?_,
    Features.peak_eq_zero_iff⟩
  · exact AudioFrame.lt_length_of_lt_sampleFrames hi
  · have hlevel : levels = _ := Pcm.decodeInto_eq buffer frame.data frame.channels
    have hplace : i < frame.data.length / (2 * Pcm.channelCount frame.channels) := by
      rwa [← Nat.div_div_eq_div_mul]
    rw [hlevel, List.getElem?_map, List.getElem?_range hplace]
    rfl
  · exact fun level hlevel ↦ abs_le.mp (hlevels level hlevel)
  · exact (Features.sq_rms levels).trans_le (Features.meanSquare_le levels)
  · exact pow_le_one₀ (Features.peak_nonneg levels) hamplitude
  · exact Features.rms_eq_zero_iff.trans Features.peak_eq_zero_iff.symm

/-- Two sample frames of two channels, of which the second cancels out, and a byte that is left
over. -/
def cutStereo : AudioFrame where
  data := [0, 64, 0, 0, 255, 255, 1, 0, 7]
  sampleRate := 44100
  channels := 2
  timestamp := 0

/-- Put into a buffer that holds three other levels, they are a quarter of full scale and silence,
and the block is not silent. -/
theorem levels_and_features_consistent_cutStereo :
    let levels : List ℝ := Pcm.decodeInto [1, 1, 1] cutStereo.data cutStereo.channels
    cutStereo.sampleFrames = 2 ∧ levels.length = 2 ∧ levels[0]? = some (1 / 4) ∧
      levels[1]? = some 0 ∧ Features.rms levels ≠ 0 ∧ Features.peak levels ≠ 0 := by
  intro levels
  obtain ⟨hlength, hexact, -⟩ := levels_and_features_consistent cutStereo
  obtain ⟨hplaces, -, -, henergy, hamplitude⟩ := hexact [1, 1, 1]
  have hcount : cutStereo.sampleFrames = 2 := by decide
  have hchannels : max cutStereo.channels.toNat 1 = 2 := by decide
  have hfirst : levels[0]? = some (1 / 4) := by
    have hlow : Pcm.wordAt cutStereo.data 0 = 16384 := by decide
    have hhigh : Pcm.wordAt cutStereo.data 2 = 0 := by decide
    refine (hplaces 0 (by decide)).2.trans (congrArg some ?_)
    rw [hchannels, Finset.sum_range_succ, Finset.sum_range_one]
    norm_num [hlow, hhigh]
  have hsecond : levels[1]? = some 0 := by
    have hlow : Pcm.wordAt cutStereo.data 4 = -1 := by decide
    have hhigh : Pcm.wordAt cutStereo.data 6 = 1 := by decide
    refine (hplaces 1 (by decide)).2.trans (congrArg some ?_)
    rw [hchannels, Finset.sum_range_succ, Finset.sum_range_one]
    norm_num [hlow, hhigh]
  have hloud : Features.peak levels ≠ 0 := by
    intro hsilent
    have hzero := hamplitude.mp hsilent (1 / 4) (List.mem_of_getElem? hfirst)
    norm_num at hzero
  exact ⟨hcount, (hlength ℝ [1, 1, 1]).2.trans hcount, hfirst, hsecond,
    fun hzero ↦ hloud (henergy.mp hzero), hloud⟩

end LightShow
