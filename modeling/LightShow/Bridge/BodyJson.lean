import LightShow.Bridge.Body
import LightShow.Json.Record

/-!
Bodies as JSON records.
-/

set_option autoImplicit false

namespace LightShow.Body

def jsonNames : List String :=
  ["bri", "hue", "sat", "transitiontime"]

def toJson (body : Body) : JsonValue :=
  .object (JsonValue.optionalField "bri" (body.bri.map fun b => .int b.toNat)
    ++ JsonValue.optionalField "hue" (body.hue.map fun h => .int h.toNat)
    ++ JsonValue.optionalField "sat" (body.sat.map fun s => .int s.toNat)
    ++ JsonValue.optionalField "transitiontime" (body.transition.map fun t => .int t.toInt))

def ofJson? (value : JsonValue) : Option Body := do
  let record ← value.record? jsonNames
  return {
    bri := ← record.optionalName "bri" JsonValue.uint8?
    hue := ← record.optionalName "hue" JsonValue.uint16?
    sat := ← record.optionalName "sat" JsonValue.uint8?
    transition := ← record.optionalName "transitiontime" JsonValue.int32? }

end LightShow.Body
