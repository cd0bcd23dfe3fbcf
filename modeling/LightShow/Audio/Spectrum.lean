import LightShow.Audio.Fourier
import LightShow.Number.Scalar

/-!
Smoothed magnitude spectra. Each spectrum is blended with the one before it; a new processor starts
from silence, and a reset makes the next spectrum stand alone.
-/

set_option autoImplicit false

namespace LightShow

structure Spectrum (α : Type) where
  /-- How many samples are transformed. -/
  size : Nat
  /-- The weight of each sample. -/
  weights : List α
  /-- The share of the spectrum before in the next one. -/
  smoothing : α
  previous : Option (List α)
  deriving Repr

inductive SpectrumError where
  | emptyTransform
  | smoothingOutOfRange
  deriving DecidableEq, Repr

def SpectrumError.message : SpectrumError → String
  | .emptyTransform => "Invalid parameter: FFT size must be positive"
  | .smoothingOutOfRange => "Invalid parameter: Smoothing must be between 0 and 1"

namespace Spectrum

variable {α : Type} [Scalar α]

/-- The number of bins of a transform. -/
def bins (size : Nat) : Nat :=
  size / 2 + 1

/-- A processor that has heard nothing yet. -/
def create (size : Nat) (weights : List α) (smoothing : α) :
    Except SpectrumError (Spectrum α) :=
  if size = 0 then .error .emptyTransform
  else if Scalar.le Scalar.zero smoothing && Scalar.le smoothing Scalar.one then
    .ok ⟨size, weights, smoothing, some (List.replicate (bins size) Scalar.zero)⟩
  else .error .smoothingOutOfRange

/-- The first `size` samples, zeros standing for those that are missing. -/
def fit (size : Nat) (samples : List α) : List α :=
  samples.take size ++ List.replicate (size - samples.length) Scalar.zero

/-- What is transformed: the fitted samples by their weights. -/
def buffer (spectrum : Spectrum α) (samples : List α) : List α :=
  List.zipWith (· * ·) (fit spectrum.size samples) spectrum.weights

/-- The blend of an old value and a new one. -/
def blend (smoothing old new : α) : α :=
  smoothing * old + (Scalar.one - smoothing) * new

/-- New magnitudes blended with the spectrum before. -/
def smoothed (spectrum : Spectrum α) (magnitudes : List α) : List α :=
  match spectrum.previous with
  | some previous =>
    if Scalar.lt Scalar.zero spectrum.smoothing then
      List.zipWith (blend spectrum.smoothing) previous magnitudes
    else magnitudes
  | none => magnitudes

/-- The spectrum of samples, where `magnitudes` gives so many bins of a transform. -/
def compute (magnitudes : Nat → List α → List α) (spectrum : Spectrum α) (samples : List α) :
    Spectrum α × List α :=
  let output := spectrum.smoothed (magnitudes (bins spectrum.size) (spectrum.buffer samples))
  ({ spectrum with previous := some output }, output)

/-- Forgets the spectrum before. -/
def reset (spectrum : Spectrum α) : Spectrum α :=
  { spectrum with previous := none }

end Spectrum

end LightShow
