import LightShow.Audio.Pcm

/-!
The features of a block of sound: the frequency of its strongest bin, its peak and its energy.
-/

set_option autoImplicit false

namespace LightShow

structure Features (α : Type) where
  /-- The strongest frequency in Hz. -/
  frequency : α
  /-- The largest absolute sample. -/
  amplitude : α
  /-- The root of the mean square of the samples. -/
  energy : α
  deriving Repr

namespace Features

variable {α : Type} [Scalar α]

/-- The place and the value of the first strongest item, given the best one so far. -/
def strongest : Nat × α → Nat → List α → Nat × α
  | best, _, [] => best
  | best, i, x :: xs => strongest (if Scalar.lt best.2 x then (i, x) else best) (i + 1) xs

/-- The frequency of the strongest bin. -/
def dominantFrequency (sampleRate : Nat) : List α → α
  | [] => Scalar.zero
  | first :: rest =>
    let index := (strongest (0, first) 1 rest).1
    Scalar.ofNat index * Scalar.ofNat sampleRate
      / (Scalar.ofNat 2 * Scalar.ofNat (rest.length + 1))

/-- The largest absolute sample, zero for none. -/
def peak (samples : List α) : α :=
  (samples.map Scalar.abs).foldl Scalar.maxOf Scalar.zero

/-- The mean square of the samples, zero for none. -/
def meanSquare (samples : List α) : α :=
  if samples.isEmpty then Scalar.zero
  else Scalar.sum (samples.map fun x => x * x) / Scalar.ofNat samples.length

/-- The root of the mean square. -/
def rms [SquareRoot α] (samples : List α) : α :=
  if samples.isEmpty then Scalar.zero else SquareRoot.sqrt (meanSquare samples)

end Features

end LightShow
