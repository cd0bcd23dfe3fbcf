import LightShow.Audio.Analyzer
import LightShow.Audio.Spectrum
import LightShow.Proofs.Number.ExactArithmetic
import Mathlib.Data.List.GetD

/-!
# Smoothed spectra over whole runs

Each spectrum is blended with the one before, which is also what is kept for the next, so in exact
arithmetic it is a weighted sum of all magnitudes since the baseline: `s ^ n` of the baseline and
`(1 - s) * s ^ (n - 1 - j)` of the `j`-th of `n` magnitudes (`weighted`). A new processor has
silence for its baseline; after a reset the first spectrum stands alone and is the baseline for the
rest. Without smoothing the blend is passed over, which is the weighted sum with `s = 0`.

The magnitudes are those of any function of the windowed samples that gives as many bins as it is
asked for. The laws on the number of bins, on the samples that count and on resets hold in any
arithmetic, the closed form in that of any ordered field.
-/

set_option autoImplicit false

namespace LightShow

/-- What a processor is asked. -/
inductive SpectrumCall (α : Type) where
  | compute (samples : List α)
  | reset

/-- The call with exactly so many samples, zeros standing for those that are missing. -/
def SpectrumCall.fitted {α : Type} [Scalar α] (size : ℕ) : SpectrumCall α → SpectrumCall α
  | .compute samples => .compute ((List.range size).map (samples.getD · Scalar.zero))
  | .reset => .reset

/-- An analyzer has the processor of its settings, weighted by its window. -/
theorem Analyzer.create_eq (settings : AudioSettings) :
    Analyzer.create settings =
      (Spectrum.create settings.transformSize.toNat
        (settings.window.weights settings.transformSize.toNat) settings.smoothing).map
          fun spectrum ↦ { settings, spectrum } := by
  simp only [Analyzer.create, Spectrum.create]
  split_ifs
  · rfl
  · rfl
  · rfl

namespace Spectrum

section Runs

variable {α : Type} [Scalar α] (magnitudes : ℕ → List α → List α)

/-- One call: the processor afterwards and the spectrum it gives. A reset gives none. -/
def step (spectrum : Spectrum α) : SpectrumCall α → Spectrum α × Option (List α)
  | .compute samples =>
    let (next, output) := spectrum.compute magnitudes samples
    (next, some output)
  | .reset => (spectrum.reset, none)

/-- A whole run: the processor afterwards and the spectrum of each call. -/
def run (spectrum : Spectrum α) : List (SpectrumCall α) → Spectrum α × List (Option (List α))
  | [] => (spectrum, [])
  | call :: rest =>
    let (next, output) := spectrum.step magnitudes call
    let (last, outputs) := next.run rest
    (last, output :: outputs)

theorem run_concat (spectrum : Spectrum α) (calls : List (SpectrumCall α))
    (call : SpectrumCall α) :
    (spectrum.run magnitudes (calls ++ [call])).1 =
      ((spectrum.run magnitudes calls).1.step magnitudes call).1 := by
  induction calls generalizing spectrum with
  | nil => rfl
  | cons first rest ih => exact ih (spectrum.step magnitudes first).1

/-- What a call gives is what is kept for the next. -/
theorem step_output (spectrum : Spectrum α) (call : SpectrumCall α) :
    (spectrum.step magnitudes call).2 = (spectrum.step magnitudes call).1.previous := by
  cases call with
  | compute samples => rfl
  | reset => rfl

theorem getElem?_outputs (spectrum : Spectrum α) {calls : List (SpectrumCall α)} {n : ℕ}
    (hn : n < calls.length) :
    (spectrum.run magnitudes calls).2[n]? =
      some (spectrum.run magnitudes (calls.take (n + 1))).1.previous := by
  induction calls generalizing spectrum n with
  | nil => simp at hn
  | cons call rest ih =>
    cases n with
    | zero => exact congrArg some (step_output magnitudes spectrum call)
    | succ n => exact ih (spectrum.step magnitudes call).1 (Nat.lt_of_succ_lt_succ hn)

/-- The settings of a processor do not change. -/
structure SameSettings (first second : Spectrum α) : Prop where
  size : second.size = first.size
  weights : second.weights = first.weights
  smoothing : second.smoothing = first.smoothing

theorem sameSettings_run (spectrum : Spectrum α) (calls : List (SpectrumCall α)) :
    spectrum.SameSettings (spectrum.run magnitudes calls).1 := by
  induction calls generalizing spectrum with
  | nil => exact ⟨rfl, rfl, rfl⟩
  | cons call rest ih =>
    obtain ⟨hsize, hweights, hsmoothing⟩ := ih (spectrum.step magnitudes call).1
    cases call with
    | compute samples => exact ⟨hsize, hweights, hsmoothing⟩
    | reset => exact ⟨hsize, hweights, hsmoothing⟩

/-! ### Samples that count -/

theorem fit_eq (size : ℕ) (samples : List α) :
    fit size samples = (List.range size).map (samples.getD · Scalar.zero) := by
  apply List.ext_getElem
  · simp only [fit, List.length_append, List.length_take, List.length_replicate, List.length_map,
      List.length_range]
    omega
  · intro i _ hrange
    have hi : i < size := by simpa using hrange
    by_cases hsample : i < samples.length
    · simp [fit, hi, hsample]
    · simp [fit, List.getElem_append, hsample]

theorem fit_fitted (size : ℕ) (samples : List α) :
    fit size ((List.range size).map (samples.getD · Scalar.zero)) = fit size samples := by
  rw [← fit_eq]
  have hlength : (fit size samples).length = size := by simp [fit_eq]
  rw [fit, List.take_of_length_le hlength.le, hlength, Nat.sub_self, List.replicate_zero,
    List.append_nil]

theorem step_fitted (spectrum : Spectrum α) (call : SpectrumCall α) :
    spectrum.step magnitudes (call.fitted spectrum.size) = spectrum.step magnitudes call := by
  cases call with
  | compute samples => simp only [SpectrumCall.fitted, step, compute, buffer, fit_fitted]
  | reset => rfl

/-- Only the fitted samples count. -/
theorem run_fitted (spectrum : Spectrum α) (calls : List (SpectrumCall α)) :
    spectrum.run magnitudes (calls.map (.fitted spectrum.size)) =
      spectrum.run magnitudes calls := by
  induction calls generalizing spectrum with
  | nil => rfl
  | cons call rest ih =>
    have hsize : (spectrum.step magnitudes call).1.size = spectrum.size :=
      (sameSettings_run magnitudes spectrum [call]).size
    have hrest := ih (spectrum.step magnitudes call).1
    rw [hsize] at hrest
    simp only [List.map_cons, run, step_fitted, hrest]

/-! ### The number of bins -/

variable {magnitudes}

theorem length_smoothed {spectrum : Spectrum α} {count : ℕ}
    (hprevious : ∀ previous ∈ spectrum.previous, previous.length = count) {values : List α}
    (hvalues : values.length = count) : (spectrum.smoothed values).length = count := by
  unfold smoothed
  cases hkept : spectrum.previous with
  | none => exact hvalues
  | some previous =>
    dsimp only
    split_ifs
    · rw [List.length_zipWith, hprevious previous hkept, hvalues, min_self]
    · exact hvalues

/-- Every spectrum of a run has as many bins as the baseline. -/
theorem length_of_mem_outputs {spectrum : Spectrum α}
    (hbins : ∀ buffer, (magnitudes (bins spectrum.size) buffer).length = bins spectrum.size)
    (hprevious : ∀ previous ∈ spectrum.previous, previous.length = bins spectrum.size)
    {calls : List (SpectrumCall α)} {output : List α}
    (houtput : some output ∈ (spectrum.run magnitudes calls).2) :
    output.length = bins spectrum.size := by
  induction calls generalizing spectrum with
  | nil => simp [run] at houtput
  | cons call rest ih =>
    have hsize : (spectrum.step magnitudes call).1.size = spectrum.size :=
      (sameSettings_run magnitudes spectrum [call]).size
    have hnext : ∀ previous ∈ (spectrum.step magnitudes call).1.previous,
        previous.length = bins spectrum.size := by
      intro previous hkept
      cases call with
      | compute samples =>
        obtain rfl : _ = previous := Option.some.inj hkept
        exact length_smoothed hprevious (hbins _)
      | reset => simp [step, reset] at hkept
    simp only [run, List.mem_cons] at houtput
    rcases houtput with hfirst | hlater
    · exact hnext output (by rw [← step_output, ← hfirst]; rfl)
    · rw [← hsize] at hbins hnext ⊢
      exact ih hbins hnext hlater

/-! ### New processors and resets -/

theorem create_eq_ok {size : ℕ} (hsize : 0 < size) (weights : List α) {smoothing : α}
    (hlow : Scalar.le Scalar.zero smoothing = true)
    (hhigh : Scalar.le smoothing Scalar.one = true) :
    create size weights smoothing =
      .ok ⟨size, weights, smoothing, some (List.replicate (bins size) Scalar.zero)⟩ := by
  simp [create, hsize.ne', hlow, hhigh]

/-- After a reset the settings are all that is left. -/
theorem reset_run_eq (spectrum : Spectrum α) (before : List (SpectrumCall α)) :
    (spectrum.run magnitudes before).1.reset = spectrum.reset := by
  obtain ⟨hsize, hweights, hsmoothing⟩ := sameSettings_run magnitudes spectrum before
  simp only [reset, hsize, hweights, hsmoothing]

end Runs

/-! ### Weighted sums -/

section Weighted

variable {K : Type} [Field K]

/-- The share `s ^ n` of a baseline and what is left of `n` values that were blended in after it,
the newest counting most. -/
def weighted (s base : K) (values : ℕ → K) (n : ℕ) : K :=
  s ^ n * base + (1 - s) * ∑ j ∈ Finset.range n, s ^ (n - 1 - j) * values j

theorem weighted_zero (s base : K) (values : ℕ → K) : weighted s base values 0 = base := by
  simp [weighted]

theorem weighted_succ (s base : K) (values : ℕ → K) (n : ℕ) :
    weighted s base values (n + 1) = s * weighted s base values n + (1 - s) * values n := by
  have hsum : ∑ j ∈ Finset.range n, s ^ (n - j) * values j =
      s * ∑ j ∈ Finset.range n, s ^ (n - 1 - j) * values j := by
    rw [Finset.mul_sum]
    refine Finset.sum_congr rfl fun j hj ↦ ?_
    have hpower : n - j = n - 1 - j + 1 := by
      have := Finset.mem_range.mp hj
      omega
    rw [hpower, pow_succ]
    ring
  simp only [weighted, Nat.add_sub_cancel, Finset.sum_range_succ, Nat.sub_self, pow_zero, hsum]
  ring

theorem weighted_congr {s base : K} {values others : ℕ → K} {n : ℕ}
    (hsame : ∀ j < n, values j = others j) :
    weighted s base values n = weighted s base others n := by
  unfold weighted
  congr 2
  exact Finset.sum_congr rfl fun j hj ↦ by rw [hsame j (Finset.mem_range.mp hj)]

/-- From silence. -/
theorem weighted_of_zero (s : K) (values : ℕ → K) (n : ℕ) :
    weighted s 0 values (n + 1) = (1 - s) * ∑ j ∈ Finset.range (n + 1), s ^ (n - j) * values j := by
  simp [weighted]

/-- From the first value. -/
theorem weighted_of_first (s : K) (values : ℕ → K) (n : ℕ) :
    weighted s (values 0) (fun j ↦ values (j + 1)) n =
      s ^ n * values 0 + (1 - s) * ∑ j ∈ Finset.Ico 1 (n + 1), s ^ (n - j) * values j := by
  rw [weighted, Finset.sum_Ico_eq_sum_range, Nat.add_sub_cancel]
  simp only [Nat.sub_sub, add_comm]

variable [LinearOrder K] [IsStrictOrderedRing K]

/-- A weighted sum is at least the baseline or one of the values. -/
theorem exists_le_weighted {s : K} (hs : 0 ≤ s) (hs' : s ≤ 1) (base : K) (values : ℕ → K) (n : ℕ) :
    base ≤ weighted s base values n ∨ ∃ j < n, values j ≤ weighted s base values n := by
  induction n with
  | zero => exact .inl (weighted_zero s base values).ge
  | succ n ih =>
    rw [weighted_succ]
    rcases le_total (weighted s base values n) (values n) with hle | hle
    · have hraised : weighted s base values n ≤
          s * weighted s base values n + (1 - s) * values n := by nlinarith
      rcases ih with hbase | ⟨j, hj, hvalue⟩
      · exact .inl (hbase.trans hraised)
      · exact .inr ⟨j, Nat.lt_succ_of_lt hj, hvalue.trans hraised⟩
    · exact .inr ⟨n, Nat.lt_succ_self n, by nlinarith⟩

/-- A weighted sum is at most the baseline or one of the values. -/
theorem exists_weighted_le {s : K} (hs : 0 ≤ s) (hs' : s ≤ 1) (base : K) (values : ℕ → K) (n : ℕ) :
    weighted s base values n ≤ base ∨ ∃ j < n, weighted s base values n ≤ values j := by
  have hnegated := exists_le_weighted hs hs' (-base) (fun j ↦ -values j) n
  have hneg : weighted s (-base) (fun j ↦ -values j) n = -weighted s base values n := by
    simp only [weighted, mul_neg, Finset.sum_neg_distrib]
    ring
  simpa only [hneg, neg_le_neg_iff] using hnegated

end Weighted

/-! ### Runs without a reset -/

open scoped ExactArithmetic

attribute [-instance] Scalar.toAdd Scalar.toSub Scalar.toMul Scalar.toDiv

section Exact

variable {K : Type} [Field K]

theorem map_range_getD {values : List K} {count : ℕ} (hlength : values.length = count) :
    (List.range count).map (values.getD · 0) = values := by
  apply List.ext_getElem
  · simp [hlength]
  · intro i _ hi
    simp [hi]

variable [LinearOrder K] [FloorRing K] {magnitudes : ℕ → List K → List K}

/-- The blend with the spectrum before, also where it is passed over. -/
theorem smoothed_eq {spectrum : Spectrum K} (hs : 0 ≤ spectrum.smoothing) {base : ℕ → K}
    {count : ℕ} (hprevious : spectrum.previous = some ((List.range count).map base))
    {values : List K} (hlength : values.length = count) :
    spectrum.smoothed values = (List.range count).map fun bin ↦
      spectrum.smoothing * base bin + (1 - spectrum.smoothing) * values.getD bin 0 := by
  have hvalues := map_range_getD hlength
  simp only [smoothed, hprevious, Scalar.lt_eq_true_iff, Scalar.zero_eq]
  split_ifs with hpositive
  · rw [← hvalues, List.zipWith_map, List.zipWith_self, hvalues]
    simp [blend]
  · have hzero : spectrum.smoothing = 0 := le_antisymm (not_lt.mp hpositive) hs
    simpa [hzero] using hvalues.symm

/-- The magnitude of one bin of the transform of samples. -/
def magnitude (magnitudes : ℕ → List K → List K) (spectrum : Spectrum K) (samples : List K)
    (bin : ℕ) : K :=
  (magnitudes (bins spectrum.size) (spectrum.buffer samples)).getD bin 0

theorem magnitude_eq (size : ℕ) (weights : List K) (s : K) (previous : Option (List K))
    (samples : List K) (bin : ℕ) :
    magnitude magnitudes ⟨size, weights, s, previous⟩ samples bin =
      (magnitudes (size / 2 + 1) (List.zipWith (· * ·)
        ((List.range size).map (samples.getD · 0)) weights)).getD bin 0 := by
  simp only [magnitude, buffer, fit_eq, Scalar.zero_eq, bins]

theorem previous_run {spectrum : Spectrum K}
    (hbins : ∀ buffer, (magnitudes (bins spectrum.size) buffer).length = bins spectrum.size)
    (hs : 0 ≤ spectrum.smoothing) {base : ℕ → K}
    (hprevious : spectrum.previous = some ((List.range (bins spectrum.size)).map base))
    (blocks : List (List K)) :
    (spectrum.run magnitudes (blocks.map .compute)).1.previous =
      some ((List.range (bins spectrum.size)).map fun bin ↦
        weighted spectrum.smoothing (base bin)
          (fun j ↦ spectrum.magnitude magnitudes (blocks.getD j []) bin) blocks.length) := by
  induction blocks using List.reverseRecOn with
  | nil => simpa [run, weighted_zero] using hprevious
  | append_singleton earlier samples ih =>
    rw [List.map_append, List.map_singleton, run_concat]
    obtain ⟨hsize, hweights, hsmoothing⟩ :=
      sameSettings_run magnitudes spectrum (earlier.map .compute)
    generalize (spectrum.run magnitudes (earlier.map .compute)).1 = state at *
    have hbuffer : state.buffer samples = spectrum.buffer samples := by
      rw [buffer, buffer, hsize, hweights]
    have hblend := smoothed_eq (hsmoothing ▸ hs) ih (hbins (spectrum.buffer samples))
    simp only [step, compute, hsize, hbuffer, hblend, hsmoothing]
    congr 1
    refine List.map_congr_left fun bin _ ↦ ?_
    rw [List.length_append, List.length_singleton, weighted_succ, magnitude]
    congr 2
    · refine weighted_congr fun j hj ↦ ?_
      rw [List.getD_append _ _ _ _ hj]
    · rw [List.getD_append_right _ _ _ _ le_rfl, Nat.sub_self]
      rfl

/-- With no spectrum before, the first one is the baseline of the rest. -/
theorem previous_run_of_eq_none {spectrum : Spectrum K}
    (hbins : ∀ buffer, (magnitudes (bins spectrum.size) buffer).length = bins spectrum.size)
    (hs : 0 ≤ spectrum.smoothing) (hprevious : spectrum.previous = none) (first : List K)
    (rest : List (List K)) :
    (spectrum.run magnitudes ((first :: rest).map .compute)).1.previous =
      some ((List.range (bins spectrum.size)).map fun bin ↦
        weighted spectrum.smoothing (spectrum.magnitude magnitudes first bin)
          (fun j ↦ spectrum.magnitude magnitudes (rest.getD j []) bin) rest.length) := by
  have hfirst : (spectrum.step magnitudes (.compute first)).1.previous =
      some ((List.range (bins spectrum.size)).map (spectrum.magnitude magnitudes first)) := by
    have halone : spectrum.smoothed (magnitudes (bins spectrum.size) (spectrum.buffer first)) =
        magnitudes (bins spectrum.size) (spectrum.buffer first) := by
      simp only [smoothed, hprevious]
    simp only [step, compute, halone]
    exact congrArg some (map_range_getD (hbins (spectrum.buffer first))).symm
  exact @previous_run K _ _ _ magnitudes (spectrum.step magnitudes (.compute first)).1 hbins hs _
    hfirst rest

/-- The spectra of a run without a reset, from a baseline. -/
theorem outputs_run {spectrum : Spectrum K}
    (hbins : ∀ buffer, (magnitudes (bins spectrum.size) buffer).length = bins spectrum.size)
    (hs : 0 ≤ spectrum.smoothing) {base : ℕ → K}
    (hprevious : spectrum.previous = some ((List.range (bins spectrum.size)).map base))
    {blocks : List (List K)} {n : ℕ} (hn : n < blocks.length) :
    (spectrum.run magnitudes (blocks.map .compute)).2[n]? =
      some (some ((List.range (bins spectrum.size)).map fun bin ↦
        weighted spectrum.smoothing (base bin)
          (fun j ↦ spectrum.magnitude magnitudes (blocks.getD j []) bin) (n + 1))) := by
  rw [getElem?_outputs magnitudes spectrum (by simpa using hn), ← List.map_take,
    previous_run hbins hs hprevious, List.length_take_of_le hn]
  congr 2
  refine List.map_congr_left fun bin _ ↦ weighted_congr fun j hj ↦ ?_
  rw [List.getD_eq_getElem?_getD, List.getElem?_take_of_lt hj, List.getD_eq_getElem?_getD]

/-- The spectra of a run without a reset, from none. -/
theorem outputs_run_of_eq_none {spectrum : Spectrum K}
    (hbins : ∀ buffer, (magnitudes (bins spectrum.size) buffer).length = bins spectrum.size)
    (hs : 0 ≤ spectrum.smoothing) (hprevious : spectrum.previous = none)
    {blocks : List (List K)} {n : ℕ} (hn : n < blocks.length) :
    (spectrum.run magnitudes (blocks.map .compute)).2[n]? =
      some (some ((List.range (bins spectrum.size)).map fun bin ↦
        weighted spectrum.smoothing (spectrum.magnitude magnitudes (blocks.getD 0 []) bin)
          (fun j ↦ spectrum.magnitude magnitudes (blocks.getD (j + 1) []) bin) n)) := by
  obtain ⟨first, rest, rfl⟩ :=
    List.exists_cons_of_ne_nil (List.ne_nil_of_length_pos (Nat.zero_lt_of_lt hn))
  rw [getElem?_outputs magnitudes spectrum (by simpa using hn), ← List.map_take,
    List.take_succ_cons, previous_run_of_eq_none hbins hs hprevious,
    List.length_take_of_le (Nat.le_of_lt_succ hn)]
  congr 2
  refine List.map_congr_left fun bin _ ↦ weighted_congr fun j hj ↦ ?_
  rw [List.getD_eq_getElem?_getD, List.getElem?_take_of_lt hj, List.getD_cons_succ,
    List.getD_eq_getElem?_getD]

end Exact

/-- Let a transform give as many magnitudes as it is asked for. For every size and every smoothing
between zero and one there is a processor, and in any run, in any arithmetic, each of its spectra
has `size / 2 + 1` bins, only the first `size` samples of a block count, zeros standing for those
that are missing, and nothing before a reset has a part in what comes after it.

In exact arithmetic, over any ordered field, the spectra since the processor was made are the
weighted sums of the magnitudes since then, and those since a reset are the same with the first
magnitudes for a baseline. So each bin lies between the least and the greatest of these magnitudes,
zero being one of them before any reset. -/
theorem spectra_are_weighted_sums (size : ℕ) (hsize : 0 < size) :
    (∀ (α : Type) [Scalar α] (magnitudes : ℕ → List α → List α) (weights : List α)
      (smoothing : α),
      (∀ buffer, (magnitudes (size / 2 + 1) buffer).length = size / 2 + 1) →
      Scalar.le Scalar.zero smoothing = true → Scalar.le smoothing Scalar.one = true →
      ∃ spectrum, create size weights smoothing = .ok spectrum ∧
        ∀ calls : List (SpectrumCall α),
          (∀ output, some output ∈ (spectrum.run magnitudes calls).2 →
            output.length = size / 2 + 1) ∧
          (spectrum.run magnitudes (calls.map (.fitted size))).2 =
            (spectrum.run magnitudes calls).2 ∧
          ∀ before others : List (SpectrumCall α),
            let after (earlier : List (SpectrumCall α)) :=
              (spectrum.run magnitudes (earlier ++ [SpectrumCall.reset])).1
            ((after before).run magnitudes calls).2 = ((after others).run magnitudes calls).2) ∧
    ∀ (K : Type) [Field K] [LinearOrder K] [IsStrictOrderedRing K] [FloorRing K]
      (magnitudes : ℕ → List K → List K) (weights : List K) (s : K),
      (∀ buffer, (magnitudes (size / 2 + 1) buffer).length = size / 2 + 1) → 0 ≤ s → s ≤ 1 →
      ∃ spectrum, create size weights s = .ok spectrum ∧
        ∀ (blocks : List (List K)) (n : ℕ), n < blocks.length →
          let m (j bin : ℕ) : K := (magnitudes (size / 2 + 1) (List.zipWith (· * ·)
            ((List.range size).map ((blocks.getD j []).getD · 0)) weights)).getD bin 0
          (∃ output, (spectrum.run magnitudes (blocks.map .compute)).2[n]? = some (some output) ∧
            ∀ bin < size / 2 + 1, ∃ value, output[bin]? = some value ∧
              value = (1 - s) * ∑ j ∈ Finset.range (n + 1), s ^ (n - j) * m j bin ∧
              (0 ≤ value ∨ ∃ j ≤ n, m j bin ≤ value) ∧
              (value ≤ 0 ∨ ∃ j ≤ n, value ≤ m j bin)) ∧
          ∀ before : List (SpectrumCall K), ∃ output,
            ((spectrum.run magnitudes (before ++ [SpectrumCall.reset])).1.run magnitudes
              (blocks.map .compute)).2[n]? = some (some output) ∧
            ∀ bin < size / 2 + 1, ∃ value, output[bin]? = some value ∧
              value = s ^ n * m 0 bin +
                (1 - s) * ∑ j ∈ Finset.Ico 1 (n + 1), s ^ (n - j) * m j bin ∧
              (∃ j ≤ n, m j bin ≤ value) ∧ ∃ j ≤ n, value ≤ m j bin := by
  refine ⟨?_, ?_⟩
  · intro α _ magnitudes weights smoothing hbins hlow hhigh
    refine ⟨_, create_eq_ok hsize weights hlow hhigh, fun calls ↦ ⟨?_, ?_, ?_⟩⟩
    · intro output houtput
      refine length_of_mem_outputs hbins ?_ houtput
      rintro previous hprevious
      obtain rfl := Option.some.inj hprevious
      exact List.length_replicate
    · exact congrArg Prod.snd (run_fitted magnitudes _ calls)
    · intro before others after
      simp only [after, run_concat, step, reset_run_eq]
  · intro K _ _ _ _ magnitudes weights s hbins hs hs'
    refine ⟨_, create_eq_ok hsize weights (Scalar.le_eq_true_iff.mpr (by simpa using hs))
      (Scalar.le_eq_true_iff.mpr (by simpa using hs')), fun blocks n hn ↦ ?_⟩
    intro m
    refine ⟨?_, fun before ↦ ?_⟩
    · have hsilence : some (List.replicate (bins size) (Scalar.zero : K)) =
          some ((List.range (bins size)).map fun _ ↦ 0) := by
        simp
      refine ⟨_, outputs_run hbins hs hsilence hn, fun bin hbin ↦ ?_⟩
      refine ⟨weighted s 0 (m · bin) (n + 1), ?_, weighted_of_zero s _ n, ?_, ?_⟩
      · simp only [bins, List.getElem?_map, List.getElem?_range hbin, Option.map_some, magnitude_eq,
          m]
      · simpa only [Nat.lt_succ_iff] using exists_le_weighted hs hs' 0 (m · bin) (n + 1)
      · simpa only [Nat.lt_succ_iff] using exists_weighted_le hs hs' 0 (m · bin) (n + 1)
    · rw [run_concat]
      simp only [step, reset_run_eq]
      refine ⟨_, outputs_run_of_eq_none hbins hs rfl hn, fun bin hbin ↦ ?_⟩
      refine ⟨weighted s (m 0 bin) (fun j ↦ m (j + 1) bin) n, ?_,
        weighted_of_first s (m · bin) n, ?_, ?_⟩
      · simp only [reset, bins, List.getElem?_map, List.getElem?_range hbin, Option.map_some,
          magnitude_eq, m]
      · rcases exists_le_weighted hs hs' (m 0 bin) (fun j ↦ m (j + 1) bin) n with
          hfirst | ⟨j, hj, hlater⟩
        · exact ⟨0, Nat.zero_le n, hfirst⟩
        · exact ⟨j + 1, hj, hlater⟩
      · rcases exists_weighted_le hs hs' (m 0 bin) (fun j ↦ m (j + 1) bin) n with
          hfirst | ⟨j, hj, hlater⟩
        · exact ⟨0, Nat.zero_le n, hfirst⟩
        · exact ⟨j + 1, hj, hlater⟩

/-- The transform of two samples: their sum and their difference. -/
def pairMagnitudes (count : ℕ) (buffer : List ℚ) : List ℚ :=
  (List.range count).map fun bin ↦ |buffer.getD 0 0 + (-1) ^ bin * buffer.getD 1 0|

/-- Blocks that are just right, too short and too long with a reset between them, and the processor
of an analyzer with the settings that hold if nothing else is said. -/
theorem spectra_are_weighted_sums_pair :
    (∃ spectrum output, create 2 [1, 1] (1 / 2 : ℚ) = .ok spectrum ∧
      ((spectrum.run pairMagnitudes [.compute [1, 1], .compute [1], .reset]).1.run
        pairMagnitudes ([[3, 1, 5], []].map .compute)).2[1]? = some (some output) ∧
      output[0]? = some 2 ∧ output[1]? = some 1) ∧
    ∃ analyzer, Analyzer.create {} = .ok analyzer ∧
      ∀ output,
        some output ∈ (analyzer.spectrum.run Fourier.magnitudes [.compute [1, 2], .reset]).2 →
          output.length = 513 := by
  refine ⟨?_, ?_⟩
  · have hexact := (spectra_are_weighted_sums 2 (by decide)).2 ℚ
    rw [Scalar.scalarOfField_rat] at hexact
    obtain ⟨spectrum, hcreate, hspectra⟩ := hexact pairMagnitudes [1, 1] (1 / 2)
      (fun buffer ↦ by simp [pairMagnitudes]) (by norm_num) (by norm_num)
    obtain ⟨output, houtput, hbin⟩ :=
      (hspectra [[3, 1, 5], []] 1 (by decide)).2 [.compute [1, 1], .compute [1]]
    obtain ⟨sum, hsum, rfl, -⟩ := hbin 0 (by decide)
    obtain ⟨difference, hdifference, rfl, -⟩ := hbin 1 (by decide)
    refine ⟨spectrum, output, hcreate, houtput, hsum.trans ?_, hdifference.trans ?_⟩
    · norm_num [pairMagnitudes]
    · norm_num [pairMagnitudes]
  · obtain ⟨spectrum, hcreate, hspectra⟩ := (spectra_are_weighted_sums 1024 (by decide)).1 Float
      Fourier.magnitudes (Window.weights .hann 1024) 0.5
      (fun buffer ↦ by simp [Fourier.magnitudes]) (by decide +kernel) (by decide +kernel)
    refine ⟨{ settings := {}, spectrum }, (Analyzer.create_eq {}).trans ?_, (hspectra _).1⟩
    exact congrArg (Except.map fun spectrum ↦ ({ settings := {}, spectrum } : Analyzer)) hcreate

end Spectrum

end LightShow
