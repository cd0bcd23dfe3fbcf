import LightShow.Audio.Features
import LightShow.Audio.Spectrum
import LightShow.Settings.Audio

/-!
The analyzer turns blocks of sound into features, block by block.
-/

set_option autoImplicit false

namespace LightShow

structure Analyzer where
  settings : AudioSettings
  spectrum : Spectrum Float
  /-- The levels of the latest block. -/
  samples : List Float := []
  deriving Repr

namespace Analyzer

def create (settings : AudioSettings) : Except SpectrumError Analyzer := do
  -- The weights are made up only for a transform that is not refused.
  let size := settings.transformSize.toNat
  let spectrum ← Spectrum.create size [] settings.smoothing
  return { settings, spectrum := { spectrum with weights := settings.window.weights size } }

/-- The features of levels at a sample rate. -/
def analyzeSamples (analyzer : Analyzer) (samples : List Float) (sampleRate : UInt32) :
    Analyzer × Features Float :=
  let (spectrum, bins) := analyzer.spectrum.compute Fourier.magnitudes samples
  ({ analyzer with spectrum },
    { frequency := Features.dominantFrequency sampleRate.toNat bins
      amplitude := Features.peak samples
      energy := Features.rms samples })

/-- The features of a block. A block without a sample rate is taken at the one of the settings. -/
def analyze (analyzer : Analyzer) (frame : AudioFrame) : Analyzer × Features Float :=
  let samples := Pcm.decodeInto analyzer.samples frame.data frame.channels
  let rate := if 0 < frame.sampleRate then frame.sampleRate else analyzer.settings.sampleRate
  { analyzer with samples }.analyzeSamples samples rate

def reset (analyzer : Analyzer) : Analyzer :=
  { analyzer with spectrum := analyzer.spectrum.reset }

end Analyzer

end LightShow
