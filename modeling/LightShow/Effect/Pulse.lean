import LightShow.Light.Update
import LightShow.Number.Scalar

/-!
The pulse effect: all lights flash on a beat, each beat in another colour, and fade until the next.
While fading only changes of some size are sent, and the end.
-/

set_option autoImplicit false

namespace LightShow

structure Pulse (α : Type) where
  /-- By what the level is multiplied per block without a beat. -/
  decay : α
  /-- How far the hue moves per beat. -/
  hueStep : α
  level : α
  baseHue : α
  /-- The brightness sent latest. -/
  lastSent : Option Int32
  deriving Repr

namespace Pulse

/-- Full brightness. -/
def fullBrightness : Nat := 254

/-- The least change that is sent while fading. -/
def leastStep : Int32 := 16

variable {α : Type} [Scalar α]

def create (decay hueStep : α) : Pulse α :=
  ⟨Scalar.clamp Scalar.zero Scalar.one decay, hueStep, Scalar.zero, Scalar.zero, none⟩

/-- The decay of a pulse that is not told otherwise. -/
def usualDecay : α := Scalar.ofNat 85 / Scalar.ofNat 100

/-- The hue step of a pulse that is not told otherwise. -/
def usualHueStep : α := Scalar.ofNat 13 / Scalar.ofNat 100

/-- The hue of one light of many: they spread over a third of the colour circle. -/
def hueOf (baseHue : α) (index count : Nat) : α :=
  Scalar.fract (baseHue
    + Scalar.ofNat index / Scalar.ofNat (max count 1) / Scalar.ofNat 3)

/-- A level as a brightness. -/
def brightnessOf (level : α) : Int32 :=
  let rounded := Scalar.round (level * Scalar.ofNat fullBrightness)
  Int32.ofInt (max Int32.minValue.toInt (min rounded Int32.maxValue.toInt))

/-- The updates of a flash. -/
def flash (baseHue : α) (lights : List String) : List (Update α) :=
  lights.mapIdx fun index light =>
    { light
      brightness := some (Int32.ofNat fullBrightness)
      hue := some (hueOf baseHue index lights.length)
      saturation := some Scalar.one
      transition := some 0 }

/-- Whether a brightness is worth sending after another. Their distance wraps around where it does
not fit in a word. -/
def isWorthSending (last brightness : Int32) : Bool :=
  leastStep ≤ (last - brightness).abs || (brightness == 0 && last != 0)

/-- One block of sound: with a beat all lights flash, otherwise they fade. -/
def step (pulse : Pulse α) (beat : Bool) (lights : List String) : Pulse α × List (Update α) :=
  if beat then
    let baseHue := Scalar.fract (pulse.baseHue + pulse.hueStep)
    ({ pulse with
        level := Scalar.one, baseHue, lastSent := some (Int32.ofNat fullBrightness) },
      flash baseHue lights)
  else
    let level := pulse.level * pulse.decay
    let brightness := brightnessOf level
    if pulse.lastSent.any fun last => isWorthSending last brightness then
      ({ pulse with level, lastSent := some brightness },
        lights.map fun light =>
          { light, brightness := some brightness, transition := some 1 })
    else ({ pulse with level }, [])

end Pulse

end LightShow
