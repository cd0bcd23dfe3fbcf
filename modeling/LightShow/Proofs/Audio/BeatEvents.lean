import LightShow.Audio.Beat
import Mathlib.Data.Int.Notation
import Mathlib.Data.Nat.Notation
import Mathlib.Tactic.SplitIfs

/-!
# What one event does to a beat detector

A block is a beat if the detector is not locked and the block stands out (`hear_found`), and both
the lock and the timeout are distances from the latest beat (`isLocked_eq_false_iff`,
`isStale_iff`). `Outcome` lists what an event can come to, and every event comes to one of these
(`outcome`), so that what a run preserves is shown case by case.
-/

set_option autoImplicit false

namespace LightShow

namespace BeatDetector

variable {α : Type}

theorem isLocked_eq_false_iff {detector : BeatDetector α} {now : ℤ} :
    detector.isLocked now = false ↔ ∀ last ∈ detector.lastBeat, last + lockout ≤ now := by
  unfold isLocked
  cases detector.lastBeat with
  | none => simp
  | some last =>
    have hspan : ¬ elapsed last now < lockout ↔ last + lockout ≤ now := by
      unfold elapsed lockout
      omega
    simpa using hspan

theorem isStale_iff {detector : BeatDetector α} {now : ℤ} :
    detector.isStale now = true ↔ ∀ last ∈ detector.lastBeat, last + timeout < now := by
  unfold isStale
  cases detector.lastBeat with
  | none => simp
  | some last =>
    have hspan : timeout < elapsed last now ↔ last + timeout < now := by
      unfold elapsed
      omega
    simpa using hspan

/-- Two instants have the lockout between them. -/
def Spaced (earlier later : ℤ) : Prop :=
  earlier + lockout ≤ later

theorem spaced_of_isLocked_eq_false {detector : BeatDetector α} {last now : ℤ}
    (hlast : detector.lastBeat = some last) (hfree : detector.isLocked now = false) :
    Spaced last now :=
  isLocked_eq_false_iff.mp hfree last hlast

theorem mem_of_mem_push {β : Type} {count : ℕ} {xs : List β} {x item : β}
    (hitem : item ∈ push count xs x) : item ∈ xs ∨ item = x := by
  have hmem := List.mem_of_mem_drop hitem
  simpa using hmem

variable [Scalar α]

theorem hear_found (detector : BeatDetector α) (energy : α) (now : ℤ) :
    (detector.hear energy now).2 =
      (!detector.isLocked now && standsOut detector.energies energy) := by
  unfold hear
  split_ifs with hlocked hloud
  · simp [hlocked]
  · simp [hlocked, hloud]
  · simp [hlocked, hloud]

theorem hear_of_quiet {detector : BeatDetector α} {energy : α} {now : ℤ}
    (hquiet : (detector.hear energy now).2 = false) :
    detector.hear energy now =
      ({ detector with energies := push energyCount detector.energies energy }, false) := by
  unfold hear at hquiet ⊢
  split_ifs at hquiet ⊢ <;> rfl

theorem hear_of_beat {detector : BeatDetector α} {energy : α} {now : ℤ}
    (hbeat : (detector.hear energy now).2 = true) :
    detector.hear energy now =
      ({ energies := push energyCount detector.energies energy
         beats := push beatCount detector.beats now
         lastBeat := some now
         tempo := tempoOf (push beatCount detector.beats now) detector.tempo }, true) := by
  unfold hear at hbeat ⊢
  split_ifs at hbeat ⊢
  rfl

/-- What an event can come to: the detector afterwards and what it says. -/
inductive Outcome (detector : BeatDetector α) :
    BeatEvent α → BeatDetector α × BeatOutcome α → Prop where
  | quiet (energy : α) (now : ℤ)
      (hquiet : detector.isLocked now = true ∨ standsOut detector.energies energy = false) :
      detector.Outcome (.energy energy now)
        ({ detector with energies := push energyCount detector.energies energy }, .beat false)
  | beat (energy : α) (now : ℤ) (hfree : detector.isLocked now = false)
      (hloud : standsOut detector.energies energy = true) :
      detector.Outcome (.energy energy now)
        ({ energies := push energyCount detector.energies energy
           beats := push beatCount detector.beats now
           lastBeat := some now
           tempo := tempoOf (push beatCount detector.beats now) detector.tempo }, .beat true)
  | lapsed (now : ℤ) (hstale : detector.isStale now = true) :
      detector.Outcome (.tempo now)
        ({ detector with tempo := Scalar.zero, beats := [] }, .tempo Scalar.zero)
  | read (now : ℤ) (hfresh : detector.isStale now = false) :
      detector.Outcome (.tempo now) (detector, .tempo detector.tempo)
  | reset : detector.Outcome .reset (create, .none)

theorem outcome (detector : BeatDetector α) (event : BeatEvent α) :
    detector.Outcome event (detector.step event) := by
  cases event with
  | energy energy now =>
    simp only [step, hear]
    split_ifs with hlocked hloud
    · exact .quiet energy now (.inl hlocked)
    · exact .beat energy now (Bool.eq_false_iff.mpr hlocked) hloud
    · exact .quiet energy now (.inr (Bool.eq_false_iff.mpr hloud))
  | tempo now =>
    simp only [step, readTempo]
    split_ifs with hstale
    · exact .lapsed now hstale
    · exact .read now (Bool.eq_false_iff.mpr hstale)
  | reset => exact .reset

theorem run_concat (detector : BeatDetector α) (events : List (BeatEvent α))
    (event : BeatEvent α) :
    (detector.run (events ++ [event])).1 = ((detector.run events).1.step event).1 := by
  induction events generalizing detector with
  | nil => rfl
  | cons first rest ih => exact ih (detector.step first).1

end BeatDetector

end LightShow
