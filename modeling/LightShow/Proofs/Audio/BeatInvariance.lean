import LightShow.Proofs.Audio.BeatEnergy

/-!
# Beat detection does not depend on the gain or on the origin of the clock

A detector compares an energy with the mean of others and an instant with other instants. So if all
energies are multiplied by one positive gain and all instants moved by one shift, what it holds is
multiplied and moved alike (`BeatDetector.moved`), and what it says is the same: one event keeps the
two detectors in step (`step_moved`), and so does every run (`run_moved`).

The shift asks nothing of the arithmetic. The gain needs exact arithmetic, where the mean of
multiplied energies is the multiplied mean.
-/

set_option autoImplicit false

namespace LightShow

/-- The event with its energy multiplied by a gain and its instant moved by a shift. -/
def BeatEvent.moved {α : Type} [Scalar α] (gain : α) (shift : ℤ) : BeatEvent α → BeatEvent α
  | .energy level now => .energy (gain * level) (now + shift)
  | .tempo now => .tempo (now + shift)
  | .reset => .reset

namespace BeatDetector

section Moved

variable {α : Type} [Scalar α]

/-- The detector that has heard the same with all energies multiplied and all instants moved. -/
def moved (gain : α) (shift : ℤ) (detector : BeatDetector α) : BeatDetector α where
  energies := detector.energies.map (gain * ·)
  beats := detector.beats.map (· + shift)
  lastBeat := detector.lastBeat.map (· + shift)
  tempo := detector.tempo

/-! ### Parts that only look at distances -/

theorem elapsed_add_right (since now shift : ℤ) :
    elapsed (since + shift) (now + shift) = elapsed since now := by
  rw [elapsed, elapsed, add_sub_add_right_eq_sub]

theorem push_map {β γ : Type} (f : β → γ) (count : ℕ) (xs : List β) (x : β) :
    push count (xs.map f) (f x) = (push count xs x).map f := by
  simp [push, List.map_drop]

theorem isLocked_moved (gain : α) (shift : ℤ) (detector : BeatDetector α) (now : ℤ) :
    (detector.moved gain shift).isLocked (now + shift) = detector.isLocked now := by
  simp only [isLocked, moved, Option.any_map, elapsed_add_right]

theorem isStale_moved (gain : α) (shift : ℤ) (detector : BeatDetector α) (now : ℤ) :
    (detector.moved gain shift).isStale (now + shift) = detector.isStale now := by
  simp only [isStale, moved, Option.all_map, elapsed_add_right]

theorem tempoOf_map_add (shift : ℤ) (beats : List ℤ) (tempo : α) :
    tempoOf (beats.map (· + shift)) tempo = tempoOf beats tempo := by
  unfold tempoOf
  rw [List.head?_map, List.getLast?_map, List.length_map]
  cases beats.head? with
  | none => rfl
  | some first =>
    cases beats.getLast? with
    | none => rfl
    | some last => simp only [Option.map_some, elapsed_add_right]

end Moved

open scoped ExactArithmetic

attribute [-instance] Scalar.toAdd Scalar.toSub Scalar.toMul Scalar.toDiv

variable {K : Type} [Field K] [LinearOrder K] [FloorRing K]

/-! ### Parts that compare energies -/

theorem mean_map_mul (gain : K) (energies : List K) :
    mean (energies.map (gain * ·)) = gain * mean energies := by
  rw [mean_eq, mean_eq, List.sum_map_mul_left, List.map_id', List.length_map, mul_div_assoc]

variable [IsStrictOrderedRing K] {gain : K}

theorem standsOut_map_mul (hgain : 0 < gain) (energies : List K) (energy : K) :
    standsOut (energies.map (gain * ·)) (gain * energy) = standsOut energies energy := by
  rw [Bool.eq_iff_iff, standsOut_iff, standsOut_iff, mean_map_mul, mul_assoc,
    mul_lt_mul_iff_right₀ hgain, mul_pos_iff_of_pos_left hgain]

/-! ### Whole runs -/

theorem step_moved (hgain : 0 < gain) (shift : ℤ) (detector : BeatDetector K)
    (event : BeatEvent K) :
    (detector.moved gain shift).step (event.moved gain shift) =
      ((detector.step event).1.moved gain shift, (detector.step event).2) := by
  cases event with
  | energy energy now =>
    have henergies : (detector.moved gain shift).energies = detector.energies.map (gain * ·) := rfl
    simp only [BeatEvent.moved, step, hear, isLocked_moved, henergies, standsOut_map_mul hgain,
      push_map]
    split_ifs with hlocked hloud
    · rfl
    · have hbeats : push beatCount (detector.moved gain shift).beats (now + shift) =
          (push beatCount detector.beats now).map (· + shift) :=
        push_map (· + shift) beatCount detector.beats now
      simp only [hbeats, tempoOf_map_add]
      rfl
    · rfl
  | tempo now =>
    simp only [BeatEvent.moved, step, readTempo, isStale_moved]
    split_ifs with hstale
    · rfl
    · rfl
  | reset => rfl

theorem run_moved (hgain : 0 < gain) (shift : ℤ) (detector : BeatDetector K)
    (events : List (BeatEvent K)) :
    (detector.moved gain shift).run (events.map (BeatEvent.moved gain shift)) =
      ((detector.run events).1.moved gain shift, (detector.run events).2) := by
  induction events generalizing detector with
  | nil => rfl
  | cons event rest ih => simp only [List.map_cons, run, step_moved hgain, ih]

/-- In exact arithmetic, over any ordered field, every run of blocks, reads and resets gives the
same beats and the same tempos when all energies are multiplied by one positive gain and all
instants are moved by one shift, and after each of its events as many energies and as many beats are
held. -/
theorem run_gain_shift_invariant (K : Type) [Field K] [LinearOrder K] [IsStrictOrderedRing K]
    [FloorRing K] (gain : K) (hgain : 0 < gain) (shift : ℤ) (events : List (BeatEvent K)) :
    let start : BeatDetector K := create
    let others := events.map (BeatEvent.moved gain shift)
    (start.run others).2 = (start.run events).2 ∧
    ∀ count,
      let detector := (start.run (events.take count)).1
      let other := (start.run (others.take count)).1
      other.energies.length = detector.energies.length ∧
      other.beats.length = detector.beats.length := by
  intro start others
  have hstart : start.moved gain shift = start := rfl
  refine ⟨?_, fun count ↦ ?_⟩
  · have hrun := run_moved hgain shift start events
    rw [hstart] at hrun
    exact (Prod.ext_iff.mp hrun).2
  · intro detector other
    have hother : other = detector.moved gain shift := by
      have hrun := run_moved hgain shift start (events.take count)
      rw [hstart, List.map_take] at hrun
      exact (Prod.ext_iff.mp hrun).1
    rw [hother]
    exact ⟨List.length_map _, List.length_map _⟩

/-- Two beats at seven times the energy, on a clock that starts a second earlier. -/
theorem run_gain_shift_invariant_two_beats :
    let start : BeatDetector ℚ := create
    let events : List (BeatEvent ℚ) := [.energy 1 0, .energy 2 500000000, .energy 9 600000000,
      .energy 9 1000000000, .tempo 1200000000]
    let others : List (BeatEvent ℚ) := [.energy 7 (-1000000000), .energy 14 (-500000000),
      .energy 63 (-400000000), .energy 63 0, .tempo 200000000]
    (start.run others).2 = (start.run events).2 ∧
    (start.run others).1.energies.length = 4 ∧
    (start.run others).1.beats.length = 2 := by
  intro start events others
  have hexact := run_gain_shift_invariant ℚ 7 (by norm_num) (-1000000000) events
  rw [Scalar.scalarOfField_rat] at hexact
  have hothers : events.map (BeatEvent.moved 7 (-1000000000)) = others := by
    norm_num [events, others, BeatEvent.moved]
  rw [hothers] at hexact
  obtain ⟨hsame, hheld⟩ := hexact
  refine ⟨hsame, (hheld 5).1.trans ?_, (hheld 5).2.trans ?_⟩
  · decide +kernel
  · decide +kernel

end BeatDetector

end LightShow
