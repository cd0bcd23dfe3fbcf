import LightShow.Effect.Basic
import Mathlib.Data.List.Basic

/-!
# An effect serves all its lights or none

An effect decides block by block whether it makes updates, but if it makes any, it makes one for
each light it is given, in order (`Effect.lights_step`). On a beat it always does.
-/

set_option autoImplicit false

namespace LightShow

theorem Pulse.lights_flash {α : Type} [Scalar α] (baseHue : α) (lights : List String) :
    (flash baseHue lights).map (·.light) = lights := by
  apply List.ext_getElem
  · simp [flash]
  · intro index _ _
    simp [flash]

/-- Updates made light by light are for these lights. -/
theorem map_light_map {κ : Type} {make : String → Update κ}
    (hmake : ∀ light, (make light).light = light) (lights : List String) :
    (lights.map make).map (·.light) = lights := by
  rw [List.map_map]
  exact List.map_id'' hmake lights

theorem Pulse.lights_step {α : Type} [Scalar α] (pulse : Pulse α) (beat : Bool)
    (lights : List String) :
    (pulse.step beat lights).2 = [] ∨ (pulse.step beat lights).2.map (·.light) = lights := by
  unfold step
  by_cases hbeat : beat = true
  · rw [if_pos hbeat]
    exact .inr (lights_flash _ lights)
  · rw [if_neg hbeat]
    dsimp only
    split_ifs
    · exact .inr (map_light_map (fun _ ↦ rfl) lights)
    · exact .inl rfl

theorem EnergyEffect.lights_updates (effect : EnergyEffect) (features : Features Float)
    (lights : List String) : (effect.updates features lights).map (·.light) = lights :=
  map_light_map (fun _ ↦ rfl) lights

namespace Effect

/-- An effect makes no update, or one for each light in order. -/
theorem lights_step (effect : Effect) (features : Features Float) (beat : Bool)
    (lights : List String) :
    (effect.step features beat lights).2 = [] ∨
      (effect.step features beat lights).2.map (·.light) = lights := by
  cases effect with
  | pulse pulse => exact pulse.lights_step beat lights
  | energy energy => exact .inr (energy.lights_updates features lights)

/-- On a beat an effect makes updates for all lights. -/
theorem lights_step_of_beat (effect : Effect) (features : Features Float) (lights : List String) :
    (effect.step features true lights).2.map (·.light) = lights := by
  cases effect with
  | pulse pulse => exact Pulse.lights_flash _ lights
  | energy energy => exact energy.lights_updates features lights

end Effect

end LightShow
