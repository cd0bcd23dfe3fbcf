import LightShow.Effect.Energy
import LightShow.Effect.Pulse

/-!
Effects map features of the sound and beats to light updates.
-/

set_option autoImplicit false

namespace LightShow

inductive Effect where
  | pulse (state : Pulse Float)
  | energy (effect : EnergyEffect)
  deriving Repr

/-- One block of sound. -/
def Effect.step (effect : Effect) (features : Features Float) (beat : Bool)
    (lights : List String) : Effect × List (Update Float) :=
  match effect with
  | .pulse state =>
    let (next, updates) := state.step beat lights
    (.pulse next, updates)
  | .energy state => (effect, state.updates features lights)

end LightShow
