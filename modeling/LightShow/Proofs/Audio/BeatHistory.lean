import LightShow.Proofs.Audio.BeatEvents
import Mathlib.Data.List.Chain
import Mathlib.Data.List.DropRight

/-!
# What a beat detector remembers

A run of a detector is told as a list of moments, each an event with the detector as it was just
before. From the moments it is read off which energies were heard since the last reset
(`BeatMoment.heard`), at which instants beats were found since then (`BeatMoment.found`), and which
of these have not been forgotten with a tempo that lapsed (`BeatMoment.unforgotten`). What a
detector holds are the last ones of them, and the beats that were found are spaced by the lockout
(`BeatDetector.Records`). All of this holds for any energies and any instants, also for instants
that run backwards.

What one event does to each part of the detector is said by the moment (`energies_after`,
`lastBeat_after`, `beats_after`); `Records.step` puts these together, and `records_run` is the
induction over the run.
-/

set_option autoImplicit false

namespace LightShow

namespace BeatDetector

/-! ### Lists of which the last items are kept -/

theorem push_eq_rtake {β : Type} (count : ℕ) (xs : List β) (x : β) :
    push count xs x = (xs ++ [x]).rtake count := by
  simp [push, List.rtake]

/-- Pushing an item onto the last ones of a list gives the last ones of the longer list. -/
theorem push_rtake {β : Type} (count : ℕ) (xs : List β) (x : β) :
    push count (xs.rtake count) x = (xs ++ [x]).rtake count := by
  rw [push_eq_rtake]
  cases count with
  | zero => simp
  | succ count =>
    rw [List.rtake_concat_succ, List.rtake_concat_succ]
    simp [List.rtake_eq_reverse_take_reverse, List.take_take]

theorem elim_push_rtake {β : Type} (count : ℕ) (xs : List β) (item : Option β) :
    item.elim (xs.rtake count) (push count (xs.rtake count)) =
      (xs ++ item.toList).rtake count := by
  cases item with
  | none => simp
  | some x => exact push_rtake count xs x

end BeatDetector

/-! ### Moments -/

/-- An event and the detector just before. -/
structure BeatMoment (α : Type) where
  before : BeatDetector α
  event : BeatEvent α

namespace BeatMoment

open BeatDetector (push energyCount beatCount Spaced)

variable {α : Type}

def isReset (moment : BeatMoment α) : Bool :=
  match moment.event with
  | .reset => true
  | _ => false

/-- Whether the beats are forgotten: at a reset, and when a tempo is read that has lapsed. -/
def forgets (moment : BeatMoment α) : Bool :=
  match moment.event with
  | .reset => true
  | .tempo now => moment.before.isStale now
  | .energy _ _ => false

/-- The energy that is heard. -/
def energy? (moment : BeatMoment α) : Option α :=
  match moment.event with
  | .energy energy _ => some energy
  | _ => none

theorem isReset_of_forgets_eq_false {moment : BeatMoment α} (hkept : moment.forgets = false) :
    moment.isReset = false := by
  obtain ⟨before, event⟩ := moment
  cases event <;> simp_all [forgets, isReset]

/-- What is read off the latest moments of a run grows by what the next moment adds to it, unless
that moment clears it. -/
theorem filterMap_rtakeWhile_concat {β : Type} (clears : BeatMoment α → Bool)
    (item? : BeatMoment α → Option β) (moments : List (BeatMoment α)) (moment : BeatMoment α) :
    ((moments ++ [moment]).rtakeWhile (!clears ·)).filterMap item? =
      if clears moment then []
      else (moments.rtakeWhile (!clears ·)).filterMap item? ++ (item? moment).toList := by
  rw [List.rtakeWhile_concat]
  cases clears moment <;> cases hitem : item? moment <;> simp [hitem]

/-- The energies that were heard since the last reset. -/
def heard (moments : List (BeatMoment α)) : List α :=
  (moments.rtakeWhile (!·.isReset)).filterMap energy?

theorem heard_concat (moments : List (BeatMoment α)) (moment : BeatMoment α) :
    heard (moments ++ [moment]) =
      if moment.isReset then [] else heard moments ++ moment.energy?.toList :=
  filterMap_rtakeWhile_concat ..

variable [Scalar α]

/-- The detector just after. -/
def after (moment : BeatMoment α) : BeatDetector α :=
  (moment.before.step moment.event).1

/-- What the detector says to the event. -/
def outcome (moment : BeatMoment α) : BeatOutcome α :=
  (moment.before.step moment.event).2

/-- The instant of the beat that is found. -/
def beat? (moment : BeatMoment α) : Option ℤ :=
  match moment.event, moment.outcome with
  | .energy _ now, .beat true => some now
  | _, _ => none

theorem energies_after (moment : BeatMoment α) :
    moment.after.energies =
      if moment.isReset then []
      else moment.energy?.elim moment.before.energies
        (push energyCount moment.before.energies) := by
  obtain ⟨before, event⟩ := moment
  have houtcome := before.outcome event
  unfold after
  generalize before.step event = result at houtcome ⊢
  cases houtcome <;> rfl

theorem lastBeat_after (moment : BeatMoment α) :
    moment.after.lastBeat =
      if moment.isReset then none else moment.beat?.or moment.before.lastBeat := by
  obtain ⟨before, event⟩ := moment
  have houtcome := before.outcome event
  unfold after beat? outcome
  generalize before.step event = result at houtcome ⊢
  cases houtcome <;> rfl

theorem beats_after (moment : BeatMoment α) :
    moment.after.beats =
      if moment.forgets then []
      else moment.beat?.elim moment.before.beats (push beatCount moment.before.beats) := by
  obtain ⟨before, event⟩ := moment
  have houtcome := before.outcome event
  unfold after beat? outcome
  generalize before.step event = result at houtcome ⊢
  cases houtcome with
  | lapsed now hstale => simp [forgets, hstale]
  | read now hfresh => simp [forgets, hfresh]
  | _ => rfl

/-- The tempo is the one of the beats that are held, or it was kept because they stand at one
instant. -/
theorem tempo_after (moment : BeatMoment α)
    (hbefore : ∃ stale, moment.before.tempo = BeatDetector.tempoOf moment.before.beats stale) :
    ∃ stale, moment.after.tempo = BeatDetector.tempoOf moment.after.beats stale := by
  obtain ⟨before, event⟩ := moment
  have houtcome := before.outcome event
  unfold after
  generalize before.step event = result at houtcome ⊢
  cases houtcome with
  | quiet energy now hquiet => exact hbefore
  | beat energy now hfree hloud => exact ⟨before.tempo, rfl⟩
  | lapsed now hstale => exact ⟨before.tempo, rfl⟩
  | read now hfresh => exact hbefore
  | reset => exact ⟨before.tempo, rfl⟩

/-- A beat is found only when the lockout of the one before is over. -/
theorem spaced_of_beat? {moment : BeatMoment α} {last now : ℤ}
    (hlast : moment.before.lastBeat = some last) (hbeat : moment.beat? = some now) :
    Spaced last now := by
  obtain ⟨before, event⟩ := moment
  have houtcome := before.outcome event
  unfold beat? outcome at hbeat
  generalize before.step event = result at houtcome hbeat
  cases houtcome with
  | beat energy instant hfree hloud =>
    obtain rfl : instant = now := Option.some.inj hbeat
    exact BeatDetector.spaced_of_isLocked_eq_false hlast hfree
  | _ => exact absurd hbeat (by simp)

/-- The instants of the beats that were found since the last reset. -/
def found (moments : List (BeatMoment α)) : List ℤ :=
  (moments.rtakeWhile (!·.isReset)).filterMap beat?

/-- The instants of the beats that were found since beats were last forgotten. -/
def unforgotten (moments : List (BeatMoment α)) : List ℤ :=
  (moments.rtakeWhile (!·.forgets)).filterMap beat?

theorem found_concat (moments : List (BeatMoment α)) (moment : BeatMoment α) :
    found (moments ++ [moment]) =
      if moment.isReset then [] else found moments ++ moment.beat?.toList :=
  filterMap_rtakeWhile_concat ..

theorem unforgotten_concat (moments : List (BeatMoment α)) (moment : BeatMoment α) :
    unforgotten (moments ++ [moment]) =
      if moment.forgets then [] else unforgotten moments ++ moment.beat?.toList :=
  filterMap_rtakeWhile_concat ..

theorem unforgotten_suffix_found (moments : List (BeatMoment α)) :
    unforgotten moments <:+ found moments := by
  refine List.IsSuffix.filterMap beat? ?_
  induction moments using List.reverseRecOn with
  | nil => exact List.suffix_rfl
  | append_singleton earlier moment ih =>
    rw [List.rtakeWhile_concat, List.rtakeWhile_concat]
    cases hforgets : moment.forgets with
    | true => exact List.nil_suffix
    | false =>
      obtain ⟨before, hbefore⟩ := ih
      refine ⟨before, ?_⟩
      simp [isReset_of_forgets_eq_false hforgets, ← hbefore]

end BeatMoment

namespace BeatDetector

open BeatMoment (heard found unforgotten)

variable {α : Type} [Scalar α]

/-! ### Runs -/

/-- The moments of a run. -/
def trace (detector : BeatDetector α) : List (BeatEvent α) → List (BeatMoment α)
  | [] => []
  | event :: rest => ⟨detector, event⟩ :: (detector.step event).1.trace rest

theorem trace_concat (detector : BeatDetector α) (events : List (BeatEvent α))
    (event : BeatEvent α) :
    detector.trace (events ++ [event]) =
      detector.trace events ++ [⟨(detector.run events).1, event⟩] := by
  induction events generalizing detector with
  | nil => rfl
  | cons first rest ih => exact congrArg _ (ih (detector.step first).1)

theorem outcomes_run (detector : BeatDetector α) (events : List (BeatEvent α)) :
    (detector.run events).2 = (detector.trace events).map BeatMoment.outcome := by
  induction events generalizing detector with
  | nil => rfl
  | cons event rest ih => exact congrArg _ (ih (detector.step event).1)

/-- A detector holds what the moments that led to it say. -/
structure Records (detector : BeatDetector α) (moments : List (BeatMoment α)) : Prop where
  energies : detector.energies = (heard moments).rtake energyCount
  lastBeat : detector.lastBeat = (found moments).getLast?
  spaced : (found moments).IsChain Spaced
  beats : detector.beats = (unforgotten moments).rtake beatCount
  tempo : ∃ stale, detector.tempo = tempoOf detector.beats stale

theorem Records.step (moment : BeatMoment α) {moments : List (BeatMoment α)}
    (hrecords : moment.before.Records moments) :
    moment.after.Records (moments ++ [moment]) := by
  obtain ⟨henergies, hlast, hspaced, hbeats, htempo⟩ := hrecords
  refine ⟨?_, ?_, ?_, ?_, moment.tempo_after htempo⟩
  · rw [moment.energies_after, henergies, elim_push_rtake, BeatMoment.heard_concat]
    split_ifs
    · exact (List.rtake_nil ..).symm
    · rfl
  · rw [moment.lastBeat_after, hlast, BeatMoment.found_concat]
    split_ifs
    · rfl
    · cases moment.beat? <;> simp
  · rw [BeatMoment.found_concat]
    split_ifs
    · exact .nil
    · cases hbeat : moment.beat? with
      | none => simpa using hspaced
      | some now =>
        refine hspaced.append (.singleton now) fun last hmem next hnext ↦ ?_
        obtain rfl : now = next := by simpa using hnext
        rw [← hlast] at hmem
        exact BeatMoment.spaced_of_beat? hmem hbeat
  · rw [moment.beats_after, hbeats, elim_push_rtake, BeatMoment.unforgotten_concat]
    split_ifs
    · exact (List.rtake_nil ..).symm
    · rfl

/-- The beats that a detector holds are the last ones that were found. -/
theorem Records.beats_suffix_found {detector : BeatDetector α} {moments : List (BeatMoment α)}
    (hrecords : detector.Records moments) : detector.beats <:+ found moments := by
  rw [hrecords.beats]
  exact (List.drop_suffix ..).trans (BeatMoment.unforgotten_suffix_found moments)

theorem Records.isChain_beats {detector : BeatDetector α} {moments : List (BeatMoment α)}
    (hrecords : detector.Records moments) : detector.beats.IsChain Spaced :=
  hrecords.spaced.suffix hrecords.beats_suffix_found

theorem Records.lastBeat_eq {detector : BeatDetector α} {moments : List (BeatMoment α)}
    (hrecords : detector.Records moments) {last : ℤ} (hlast : detector.beats.getLast? = some last) :
    detector.lastBeat = some last := by
  obtain ⟨earlier, hfound⟩ := hrecords.beats_suffix_found
  rw [hrecords.lastBeat, ← hfound, List.getLast?_append, hlast]
  rfl

theorem records_run (events : List (BeatEvent α)) :
    ((create : BeatDetector α).run events).1.Records ((create : BeatDetector α).trace events) := by
  induction events using List.reverseRecOn with
  | nil => exact ⟨rfl, rfl, .nil, rfl, Scalar.zero, rfl⟩
  | append_singleton earlier event ih =>
    rw [run_concat, trace_concat]
    exact Records.step ⟨_, event⟩ ih

end BeatDetector

end LightShow
