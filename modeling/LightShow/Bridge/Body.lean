import LightShow.Number.Scalar
import LightShow.Light.Update

/-!
What a bridge is asked to set on a light, and how a bridge takes it: a field that is present
overwrites that field of the light, the others stay.
-/

set_option autoImplicit false

namespace LightShow

structure Body where
  bri : Option UInt8 := none
  hue : Option UInt16 := none
  sat : Option UInt8 := none
  transition : Option Int32 := none
  deriving DecidableEq, Repr

namespace Body

def maxBrightness : Nat := 254

def maxHue : Nat := 65535

def maxSaturation : Nat := 254

/-- A brightness moved into the range of a bridge. -/
def brightnessLevel (brightness : Int32) : Nat :=
  min brightness.toInt.toNat maxBrightness

def ofUpdate {κ : Type} [Scalar κ] (update : Update κ) : Body where
  bri := update.brightness.map fun b => UInt8.ofNat (brightnessLevel b)
  hue := update.hue.map fun h => UInt16.ofNat (Scalar.share maxHue h)
  sat := update.saturation.map fun s => UInt8.ofNat (Scalar.share maxSaturation s)
  transition := update.transition

/-- The state of a light after a body is applied to it. -/
def applyTo (body state : Body) : Body where
  bri := body.bri.or state.bri
  hue := body.hue.or state.hue
  sat := body.sat.or state.sat
  transition := body.transition.or state.transition

end Body

end LightShow
