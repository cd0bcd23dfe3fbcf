import LightShow.Audio.Features
import LightShow.Effect.Pulse

/-!
The energy effect: the energy of the sound drives the brightness, its strongest frequency the hue,
on a logarithmic scale over the range of hearing.
-/

set_option autoImplicit false

namespace LightShow

structure EnergyEffect where
  /-- The energy of full brightness. -/
  fullScale : Float := 0.5
  deriving Repr

namespace EnergyEffect

def lowestFrequency : Float := 20

def highestFrequency : Float := 20000

/-- The hue of a frequency. Frequencies out of hearing take the nearer end. -/
def hueOf (frequency : Float) : Float :=
  if frequency.isNaN || frequency ≤ lowestFrequency then 0
  else
    let span := (highestFrequency / lowestFrequency).log
    Scalar.clamp 0 1 ((frequency / lowestFrequency).log / span)

/-- An energy as a share of full brightness. -/
def scaleOf (effect : EnergyEffect) (energy : Float) : Float :=
  if 0 < effect.fullScale then Scalar.clamp 0 1 (energy / effect.fullScale) else 0

def updates (effect : EnergyEffect) (features : Features Float) (lights : List String) :
    List (Update Float) :=
  lights.map fun light =>
    { light
      brightness := some (Pulse.brightnessOf (effect.scaleOf features.energy))
      hue := some (hueOf features.frequency)
      saturation := some 1
      transition := some 1 }

end EnergyEffect

end LightShow
