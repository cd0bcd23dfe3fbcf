import LightShow.Number.Scalar

/-!
Beat detection. A block is a beat when its energy stands out from the mean of the energies before it
and the latest beat is not too near. The tempo is taken from the latest beats and lapses when none
comes for a while. Instants are in nanoseconds and may run backwards.
-/

set_option autoImplicit false

namespace LightShow

structure BeatDetector (α : Type) where
  /-- The latest energies, oldest first. -/
  energies : List α
  /-- The latest beats, oldest first. -/
  beats : List Int
  lastBeat : Option Int
  tempo : α
  deriving Repr

/-- What a detector is told or asked. -/
inductive BeatEvent (α : Type) where
  /-- A block of this energy at an instant. -/
  | energy (energy : α) (now : Int)
  /-- The tempo is read at an instant. -/
  | tempo (now : Int)
  | reset
  deriving Repr

/-- What a detector says to an event. -/
inductive BeatOutcome (α : Type) where
  | beat (found : Bool)
  | tempo (bpm : α)
  | none
  deriving Repr

namespace BeatDetector

/-- How many energies are kept, about a second of sound. -/
def energyCount : Nat := 43

/-- How many beats are kept. -/
def beatCount : Nat := 8

/-- The least distance of two beats. -/
def lockout : Nat := 200000000

/-- How long a tempo holds without a beat. -/
def timeout : Nat := 3000000000

/-- Appends to a list of which only the last `count` items are kept. -/
def push {β : Type} (count : Nat) (xs : List β) (x : β) : List β :=
  (xs ++ [x]).drop (xs.length + 1 - count)

/-- The time from one instant to another, zero if it is not later. -/
def elapsed (since now : Int) : Nat :=
  (now - since).toNat

variable {α : Type} [Scalar α]

/-- A detector that has heard nothing. -/
def create : BeatDetector α :=
  ⟨[], [], none, Scalar.zero⟩

/-- The energy must exceed the mean by this factor. -/
def threshold : α :=
  Scalar.ofNat 13 / Scalar.ofNat 10

/-- The mean of the kept energies, zero for none. -/
def mean (energies : List α) : α :=
  if energies.isEmpty then Scalar.zero
  else Scalar.sum energies / Scalar.ofNat energies.length

/-- A time span in milliseconds. -/
def milliseconds (nanoseconds : Nat) : α :=
  let second := 1000000000
  (Scalar.ofNat (nanoseconds / second)
    + Scalar.ofNat (nanoseconds % second) / Scalar.ofNat second) * Scalar.ofNat 1000

/-- The tempo of the kept beats in beats per minute. Beats at one instant leave it as it was. -/
def tempoOf (beats : List Int) (tempo : α) : α :=
  match beats.head?, beats.getLast? with
  | some first, some last =>
    if beats.length < 2 then Scalar.zero
    else
      let interval := milliseconds (elapsed first last) / Scalar.ofNat (beats.length - 1)
      if Scalar.lt Scalar.zero interval then Scalar.ofNat 60000 / interval else tempo
  | _, _ => Scalar.zero

/-- Whether a beat at this instant would be too near to the latest one. -/
def isLocked (detector : BeatDetector α) (now : Int) : Bool :=
  detector.lastBeat.any fun last => elapsed last now < lockout

/-- Whether an energy stands out from the ones before it. -/
def standsOut (energies : List α) (energy : α) : Bool :=
  Scalar.lt (mean energies * threshold) energy && Scalar.lt Scalar.zero (mean energies)

/-- Takes in an energy and tells whether it is a beat. -/
def hear (detector : BeatDetector α) (energy : α) (now : Int) : BeatDetector α × Bool :=
  let heard := { detector with energies := push energyCount detector.energies energy }
  if detector.isLocked now then (heard, false)
  else if standsOut detector.energies energy then
    let beats := push beatCount detector.beats now
    ({ heard with lastBeat := some now, beats, tempo := tempoOf beats detector.tempo }, true)
  else (heard, false)

/-- Whether the tempo has lapsed. -/
def isStale (detector : BeatDetector α) (now : Int) : Bool :=
  detector.lastBeat.all fun last => timeout < elapsed last now

/-- Reads the tempo. One that has lapsed is zero, and the beats it came from are forgotten. -/
def readTempo (detector : BeatDetector α) (now : Int) : BeatDetector α × α :=
  if detector.isStale now then ({ detector with tempo := Scalar.zero, beats := [] }, Scalar.zero)
  else (detector, detector.tempo)

/-- One event and what comes of it. -/
def step (detector : BeatDetector α) : BeatEvent α → BeatDetector α × BeatOutcome α
  | .energy energy now =>
    let (next, found) := detector.hear energy now
    (next, .beat found)
  | .tempo now =>
    let (next, bpm) := detector.readTempo now
    (next, .tempo bpm)
  | .reset => (create, .none)

/-- A whole run. -/
def run (detector : BeatDetector α) : List (BeatEvent α) → BeatDetector α × List (BeatOutcome α)
  | [] => (detector, [])
  | event :: rest =>
    let (next, outcome) := detector.step event
    let (last, outcomes) := next.run rest
    (last, outcome :: outcomes)

end BeatDetector

end LightShow
