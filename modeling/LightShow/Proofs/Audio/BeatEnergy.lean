import LightShow.Proofs.Audio.BeatEvents
import LightShow.Proofs.Number.ExactArithmetic

/-!
# Energies that stand out, in exact arithmetic

A block is a beat if its energy exceeds 1.3 times the mean of the energies that are held, and that
mean is positive. The mean lies between the bounds of the energies it is taken from (`le_mean`,
`mean_lt`), and what is held comes from what was heard (`mem_energies_step`). So sound whose
energies keep within `m` and `1.3 * m` never beats, whatever the instants are and however long it
lasts, and a block that exceeds 1.3 times every energy that is held stands out from all of them.

Both bounds are sharp: an energy of exactly `1.3 * m` is no beat, and with `m = 0` the mean is not
positive.
-/

set_option autoImplicit false

namespace LightShow

namespace BeatDetector

/-! ### What is held comes from what was heard -/

section Held

variable {α : Type} [Scalar α]

theorem mem_energies_step {detector : BeatDetector α} {event : BeatEvent α} {held : α}
    (hheld : held ∈ (detector.step event).1.energies) :
    held ∈ detector.energies ∨ ∃ now, event = .energy held now := by
  have houtcome := detector.outcome event
  generalize detector.step event = result at houtcome hheld
  cases houtcome with
  | quiet energy now hquiet =>
    rcases mem_of_mem_push hheld with hbefore | rfl
    · exact .inl hbefore
    · exact .inr ⟨now, rfl⟩
  | beat energy now hfree hloud =>
    rcases mem_of_mem_push hheld with hbefore | rfl
    · exact .inl hbefore
    · exact .inr ⟨now, rfl⟩
  | lapsed now hstale => exact .inl hheld
  | read now hfresh => exact .inl hheld
  | reset => exact absurd hheld List.not_mem_nil

end Held

/-! ### The mean -/

section Exact

open scoped ExactArithmetic

attribute [-instance] Scalar.toAdd Scalar.toSub Scalar.toMul Scalar.toDiv

variable {K : Type} [Field K] [LinearOrder K] [FloorRing K]

theorem mean_eq (energies : List K) : mean energies = energies.sum / energies.length := by
  cases energies with
  | nil => simp [mean]
  | cons energy rest => simp [mean]

theorem threshold_eq : (threshold : K) = 13 / 10 := by
  simp [threshold]

theorem standsOut_iff {energies : List K} {energy : K} :
    standsOut energies energy = true ↔ mean energies * (13 / 10) < energy ∧ 0 < mean energies := by
  simp [standsOut, threshold_eq]

theorem ne_nil_of_mean_pos {energies : List K} (hpositive : 0 < mean energies) :
    energies ≠ [] := by
  rintro rfl
  simp [mean_eq] at hpositive

variable [IsStrictOrderedRing K]

theorem le_mean {energies : List K} (hsome : energies ≠ []) {low : K}
    (hlow : ∀ energy ∈ energies, low ≤ energy) : low ≤ mean energies := by
  have hcount : (0 : K) < energies.length := Nat.cast_pos.mpr (List.length_pos_of_ne_nil hsome)
  rw [mean_eq, le_div_iff₀ hcount]
  calc low * energies.length = energies.length • low := by rw [nsmul_eq_mul, mul_comm]
    _ ≤ energies.sum := List.card_nsmul_le_sum energies low hlow

theorem mean_lt {energies : List K} (hsome : energies ≠ []) {high : K}
    (hhigh : ∀ energy ∈ energies, energy < high) : mean energies < high := by
  have hcount : (0 : K) < energies.length := Nat.cast_pos.mpr (List.length_pos_of_ne_nil hsome)
  rw [mean_eq, div_lt_iff₀ hcount]
  calc energies.sum = (energies.map id).sum := by rw [List.map_id]
    _ < (energies.map fun _ ↦ high).sum := List.sum_lt_sum_of_ne_nil hsome id _ hhigh
    _ = high * energies.length := by simp [mul_comm]

/-! ### Steady and sudden sound -/

/-- An energy of at most 1.3 times a lower bound of those that are held does not stand out. -/
theorem standsOut_eq_false {energies : List K} {low energy : K}
    (hlow : ∀ held ∈ energies, low ≤ held) (hsteady : energy ≤ 13 / 10 * low) :
    standsOut energies energy = false := by
  rw [Bool.eq_false_iff, Ne, standsOut_iff]
  rintro ⟨hloud, hpositive⟩
  have hmean := le_mean (ne_nil_of_mean_pos hpositive) hlow
  linarith

/-- An energy above 1.3 times every one that is held stands out, if their mean is positive. -/
theorem standsOut_of_forall_lt {energies : List K} {energy : K}
    (hpositive : 0 < mean energies) (hsudden : ∀ held ∈ energies, 13 / 10 * held < energy) :
    standsOut energies energy = true := by
  have hmean : mean energies < 10 / 13 * energy :=
    mean_lt (ne_nil_of_mean_pos hpositive) fun held hmem ↦ by linarith [hsudden held hmem]
  exact standsOut_iff.mpr ⟨by linarith, hpositive⟩

/-- What is held keeps above `m`, so no block of a steady run is a beat. -/
theorem not_beat_mem_run {m : K} {detector : BeatDetector K}
    (hheld : ∀ held ∈ detector.energies, m ≤ held) {events : List (BeatEvent K)}
    (hsteady : ∀ energy now, .energy energy now ∈ events → m ≤ energy ∧ energy ≤ 13 / 10 * m) :
    .beat true ∉ (detector.run events).2 := by
  induction events generalizing detector with
  | nil => exact List.not_mem_nil
  | cons event rest ih =>
    have hquiet : (detector.step event).2 ≠ .beat true := by
      cases event with
      | energy energy now =>
        have hlevel := (hsteady energy now List.mem_cons_self).2
        simp [step, hear_found, standsOut_eq_false hheld hlevel]
      | tempo now => simp [step]
      | reset => simp [step]
    have hafter : ∀ held ∈ (detector.step event).1.energies, m ≤ held := by
      intro held hmem
      rcases mem_energies_step hmem with hbefore | ⟨now, rfl⟩
      · exact hheld held hbefore
      · exact (hsteady held now List.mem_cons_self).1
    have hrest := ih hafter fun energy now hmem ↦ hsteady energy now (List.mem_cons_of_mem _ hmem)
    simp only [run, List.mem_cons, not_or]
    exact ⟨hquiet.symm, hrest⟩

/-- In exact arithmetic, over any ordered field, a detector that is new or was just reset finds no
beat in a run whose energies all keep within `m` and `1.3 * m`, at whatever instants they are heard
and however often the tempo is read in between. And whenever the latest beat is 200 ms back, an
energy above 1.3 times every one that is held is a beat, if their mean is positive. -/
theorem steady_sound_never_beats (K : Type) [Field K] [LinearOrder K] [IsStrictOrderedRing K]
    [FloorRing K] :
    (∀ (m : K) (start : BeatDetector K) (events : List (BeatEvent K)),
      (start = create ∨ ∃ detector : BeatDetector K, start = (detector.step .reset).1) →
      (∀ energy now, .energy energy now ∈ events → m ≤ energy ∧ energy ≤ 13 / 10 * m) →
      .beat true ∉ (start.run events).2) ∧
    ∀ (detector : BeatDetector K) (energy : K) (now : ℤ),
      (∀ last ∈ detector.lastBeat, last + 200000000 ≤ now) →
      detector.energies ≠ [] →
      0 < detector.energies.sum / (detector.energies.length : K) →
      (∀ held ∈ detector.energies, 13 / 10 * held < energy) →
      (detector.step (.energy energy now)).2 = .beat true := by
  refine ⟨fun m start events hstart hsteady ↦ ?_, ?_⟩
  · have hnone : start.energies = [] := by
      rcases hstart with rfl | ⟨detector, rfl⟩
      · rfl
      · rfl
    refine not_beat_mem_run (fun held hheld ↦ ?_) hsteady
    rw [hnone] at hheld
    exact absurd hheld List.not_mem_nil
  · intro detector energy now hspaced _ hpositive hsudden
    rw [← mean_eq] at hpositive
    have hfree : detector.isLocked now = false := isLocked_eq_false_iff.mpr hspaced
    simp [step, hear_found, hfree, standsOut_of_forall_lt hpositive hsudden]

/-- A run at both bounds, one of them exactly 1.3 times the other, then a beat, and another one as
soon as the lockout is over. -/
theorem steady_sound_never_beats_at_bounds :
    let start : BeatDetector ℚ := create
    let events : List (BeatEvent ℚ) := [.energy (13 / 10) 0, .energy 1 300000000,
      .tempo 400000000, .energy (13 / 10) 600000000]
    let detector := (start.run (events ++ [BeatEvent.energy 2 900000000])).1
    .beat true ∉ (start.run events).2 ∧
    detector.lastBeat = some 900000000 ∧
    (detector.step (.energy 3 1100000000)).2 = .beat true := by
  intro start events detector
  have hexact := steady_sound_never_beats ℚ
  rw [Scalar.scalarOfField_rat] at hexact
  obtain ⟨hsteady, hsudden⟩ := hexact
  have henergies : detector.energies = [13 / 10, 1, 13 / 10, 2] := by decide +kernel
  have hlast : detector.lastBeat = some 900000000 := by decide +kernel
  refine ⟨hsteady 1 start events (.inl rfl) ?_, hlast, hsudden detector 3 1100000000 ?_ ?_ ?_ ?_⟩
  · intro energy now hmem
    simp only [events, List.mem_cons, List.not_mem_nil, or_false, BeatEvent.energy.injEq,
      reduceCtorEq, false_or] at hmem
    rcases hmem with ⟨rfl, -⟩ | ⟨rfl, -⟩ | ⟨rfl, -⟩ <;> norm_num
  · simp [hlast]
  · simp [henergies]
  · rw [henergies]
    norm_num
  · rw [henergies]
    norm_num

end Exact

end BeatDetector

end LightShow
