import LightShow.Proofs.Audio.BeatHistory
import Mathlib.Data.Rat.Cast.Order
import Mathlib.Tactic.Linarith
import Mathlib.Tactic.Ring

/-!
# The tempo of a beat detector in exact arithmetic

The beats that a detector holds are spaced by the lockout, so the time from the first to the last of
them is at least the lockout times their number less one (`span_le_of_isChain`). Their mean distance
is then at least 200 ms and the tempo at most 300 beats per minute. In particular the distance is
never zero, and the tempo is always that of the beats that are held, whatever it was before
(`tempoOf_eq`).
-/

set_option autoImplicit false

namespace LightShow

namespace BeatDetector

theorem span_le_of_isChain {first last : ℤ} {rest : List ℤ}
    (hspaced : (first :: rest).IsChain Spaced) (hlast : (first :: rest).getLast? = some last) :
    first + rest.length * lockout ≤ last := by
  induction rest generalizing first with
  | nil =>
    obtain rfl : first = last := by simpa using hlast
    simp
  | cons second rest ih =>
    rw [List.getLast?_cons_cons] at hlast
    obtain ⟨hnear, hrest⟩ := List.isChain_cons_cons.mp hspaced
    have hspan := ih hrest hlast
    simp only [Spaced, lockout, List.length_cons] at hnear hspan ⊢
    push_cast at *
    omega

/-- From the first to the last of some spaced beats it is at least the lockout for each but one. -/
theorem span_le {beats : List ℤ} (hspaced : beats.IsChain Spaced) {first last : ℤ}
    (hfirst : beats.head? = some first) (hlast : beats.getLast? = some last) :
    (beats.length - 1 : ℤ) * lockout ≤ last - first := by
  obtain ⟨rest, rfl⟩ := List.head?_eq_some_iff.mp hfirst
  have hspan := span_le_of_isChain hspaced hlast
  rw [List.length_cons, Nat.cast_succ, add_sub_cancel_right]
  omega

theorem milliseconds_rat (n : ℕ) : (milliseconds n : ℚ) = n / 1000000 := by
  have hsplit : (n : ℚ) = (n / 1000000000 : ℕ) * 1000000000 + (n % 1000000000 : ℕ) := by
    exact_mod_cast (Nat.div_add_mod' n 1000000000).symm
  change (((n / 1000000000 : ℕ) : ℚ) + ((n % 1000000000 : ℕ) : ℚ) / ((1000000000 : ℕ) : ℚ)) *
    ((1000 : ℕ) : ℚ) = n / 1000000
  rw [hsplit]
  push_cast
  ring

/-- The mean distance in milliseconds of so many beats, from the first to the last of them. -/
def meanDistance (first last : ℤ) (count : ℕ) : ℚ :=
  ((last - first : ℤ) : ℚ) / 1000000 / ((count : ℚ) - 1)

/-- Beats that are spaced by the lockout have a mean distance of at least 200 ms. -/
theorem le_meanDistance {beats : List ℤ} (hspaced : beats.IsChain Spaced)
    (hcount : 2 ≤ beats.length) {first last : ℤ} (hfirst : beats.head? = some first)
    (hlast : beats.getLast? = some last) : 200 ≤ meanDistance first last beats.length := by
  have hspan : (((beats.length - 1 : ℤ) * lockout : ℤ) : ℚ) ≤ ((last - first : ℤ) : ℚ) :=
    Int.cast_le.mpr (span_le hspaced hfirst hlast)
  have hgaps : (1 : ℚ) ≤ (beats.length : ℚ) - 1 := by
    have hcast : ((2 : ℕ) : ℚ) ≤ beats.length := Nat.cast_le.mpr hcount
    push_cast at hcast
    linarith
  rw [meanDistance, le_div_iff₀ (by linarith), le_div_iff₀ (by norm_num)]
  rw [lockout] at hspan
  push_cast at hspan ⊢
  linarith

/-- The tempo of spaced beats is a minute over their mean distance, whatever it was before. -/
theorem tempoOf_eq {beats : List ℤ} (hspaced : beats.IsChain Spaced) (hcount : 2 ≤ beats.length)
    {first last : ℤ} (hfirst : beats.head? = some first) (hlast : beats.getLast? = some last)
    (stale : ℚ) : tempoOf beats stale = 60000 / meanDistance first last beats.length := by
  have hinterval : (milliseconds (elapsed first last) / Scalar.ofNat (beats.length - 1) : ℚ) =
      meanDistance first last beats.length := by
    have hspan := span_le hspaced hfirst hlast
    have hforward : 0 ≤ last - first := by
      rw [lockout] at hspan
      omega
    have helapsed : ((elapsed first last : ℕ) : ℚ) = ((last - first : ℤ) : ℚ) := by
      rw [elapsed, ← Int.cast_natCast, Int.toNat_of_nonneg hforward]
    have hgaps : ((beats.length - 1 : ℕ) : ℚ) = (beats.length : ℚ) - 1 := by
      rw [Nat.cast_sub (by omega), Nat.cast_one]
    rw [milliseconds_rat, helapsed, meanDistance, ← hgaps]
    rfl
  have hpositive : Scalar.lt Scalar.zero
      (milliseconds (elapsed first last) / Scalar.ofNat (beats.length - 1) : ℚ) = true := by
    have hdistance := le_meanDistance hspaced hcount hfirst hlast
    have hzero : (Scalar.zero : ℚ) = 0 := Nat.cast_zero
    rw [hinterval]
    exact decide_eq_true (by linarith)
  simp only [tempoOf, hfirst, hlast, Nat.not_lt.mpr hcount, if_false, hpositive, if_true]
  rw [hinterval]
  rfl

theorem tempoOf_of_length_lt {beats : List ℤ} (hcount : beats.length < 2) (stale : ℚ) :
    tempoOf beats stale = 0 := by
  match beats, hcount with
  | [], _ => rfl
  | [_], _ => rfl

/-- The tempo of spaced beats does not depend on what it was before, and is at most 300. -/
theorem tempoOf_le {beats : List ℤ} (hspaced : beats.IsChain Spaced) (stale : ℚ) :
    tempoOf beats stale ≤ 300 ∧ ∀ other, tempoOf beats other = tempoOf beats stale := by
  by_cases hcount : beats.length < 2
  · simp only [tempoOf_of_length_lt hcount]
    norm_num
  · have hcount' : 2 ≤ beats.length := Nat.not_lt.mp hcount
    have hne : beats ≠ [] := List.ne_nil_of_length_pos (by omega)
    have hfirst := List.head?_eq_some_head hne
    have hlast := List.getLast?_eq_some_getLast hne
    simp only [tempoOf_eq hspaced hcount' hfirst hlast, implies_true, and_true]
    have hdistance := le_meanDistance hspaced hcount' hfirst hlast
    rw [div_le_iff₀ (by linarith)]
    linarith

/-- In every run, whatever the energies and the instants are, the energies that a detector holds are
the last 43 that were heard since it was reset. Each beat that was found since then is at least
200 ms after the one before. The beats that are held are the last eight since beats were forgotten,
at a reset or with a tempo that lapsed, and the last of them is the latest beat. In exact arithmetic
the tempo is zero for fewer than two beats and else a minute over the mean distance of the beats
that are held; it is at most 300 and does not depend on what it was before. -/
theorem memory_and_tempo :
    (∀ (α : Type) [Scalar α] (events : List (BeatEvent α)),
      let start : BeatDetector α := create
      let detector := (start.run events).1
      let moments := start.trace events
      (start.run events).2 = moments.map BeatMoment.outcome ∧
      detector.energies = (BeatMoment.heard moments).rtake 43 ∧
      (BeatMoment.found moments).IsChain (fun earlier later ↦ earlier + 200000000 ≤ later) ∧
      detector.beats = (BeatMoment.unforgotten moments).rtake 8 ∧
      detector.lastBeat = (BeatMoment.found moments).getLast? ∧
      ∀ last ∈ detector.beats.getLast?, detector.lastBeat = some last) ∧
    ∀ events : List (BeatEvent ℚ),
      let start : BeatDetector ℚ := create
      let detector := (start.run events).1
      let count := detector.beats.length
      (count < 2 → detector.tempo = 0) ∧
      (2 ≤ count → ∀ first ∈ detector.beats.head?, ∀ last ∈ detector.beats.getLast?,
        detector.tempo = 60000 / (((last - first : ℤ) : ℚ) / 1000000 / ((count : ℚ) - 1))) ∧
      detector.tempo ≤ 300 ∧
      ∀ stale, tempoOf detector.beats stale = detector.tempo := by
  refine ⟨?_, ?_⟩
  · intro α _ events start detector moments
    have hrecords : detector.Records moments := records_run events
    exact ⟨outcomes_run start events, hrecords.energies, hrecords.spaced, hrecords.beats,
      hrecords.lastBeat, fun last hlast ↦ hrecords.lastBeat_eq hlast⟩
  · intro events start detector count
    have hrecords : detector.Records (start.trace events) := records_run events
    have hspaced := hrecords.isChain_beats
    obtain ⟨stale, htempo⟩ := hrecords.tempo
    obtain ⟨hbound, hsame⟩ := tempoOf_le hspaced stale
    rw [htempo]
    refine ⟨fun hcount ↦ tempoOf_of_length_lt hcount stale, ?_, hbound, hsame⟩
    intro hcount first hfirst last hlast
    exact tempoOf_eq hspaced hcount hfirst hlast stale

/-- Two beats with a loud block between them that is too near to the first one. -/
theorem memory_and_tempo_two_beats :
    let events : List (BeatEvent ℚ) := [.energy 1 0, .energy 2 500000000, .energy 9 600000000,
      .energy 9 1000000000, .tempo 1200000000]
    let start : BeatDetector ℚ := create
    let detector := (start.run events).1
    detector.beats = [500000000, 1000000000] ∧
    detector.lastBeat = some 1000000000 ∧
    detector.tempo = 120 := by
  intro events start detector
  obtain ⟨hmemory, htempo⟩ := memory_and_tempo
  have hbeats : detector.beats = [500000000, 1000000000] := by decide +kernel
  refine ⟨hbeats, (hmemory ℚ events).2.2.2.2.2 _ ?_, ?_⟩
  · rw [hbeats]
    rfl
  · rw [(htempo events).2.1 (by rw [hbeats]; decide) 500000000 (by rw [hbeats]; rfl) 1000000000
      (by rw [hbeats]; rfl), hbeats]
    norm_num

end BeatDetector

end LightShow
