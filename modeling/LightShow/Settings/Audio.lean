import LightShow.Audio.Window

/-!
Settings of the sound analysis.
-/

set_option autoImplicit false

namespace LightShow

structure AudioSettings where
  /-- The rate in Hz for sound that does not tell its own. -/
  sampleRate : UInt32 := 44100
  transformSize : UInt64 := 1024
  window : Window := .hann
  /-- The share of the spectrum before in the next one. -/
  smoothing : Float := 0.5
  deriving Repr

end LightShow
