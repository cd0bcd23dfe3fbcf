import LightShow.Json.Record
import LightShow.Light.Update

/-!
Updates and frames as JSON records.
-/

set_option autoImplicit false

namespace LightShow

namespace Update

def jsonNames : List String :=
  ["lightId", "brightness", "hue", "saturation", "transitionTime"]

def toJson (update : Update Float) : JsonValue :=
  .object (("lightId", .text update.light)
    :: JsonValue.optionalField "brightness" (update.brightness.map fun b => .int b.toInt)
    ++ JsonValue.optionalField "hue" (update.hue.map .float)
    ++ JsonValue.optionalField "saturation" (update.saturation.map .float)
    ++ JsonValue.optionalField "transitionTime" (update.transition.map fun t => .int t.toInt))

def ofJson? (value : JsonValue) : Option (Update Float) := do
  let record ← value.record? jsonNames
  return {
    light := ← record.required "lightId" JsonValue.text?
    brightness := ← record.optional "brightness" JsonValue.int32?
    hue := ← record.optional "hue" JsonValue.float?
    saturation := ← record.optional "saturation" JsonValue.float?
    transition := ← record.optional "transitionTime" JsonValue.int32? }

end Update

namespace Frame

def jsonNames : List String :=
  ["updates", "timestamp", "sequence"]

def toJson (frame : Frame Float) : JsonValue :=
  .object ([("updates", .array (frame.updates.map Update.toJson)),
      ("timestamp", .int frame.timestamp.toNat)]
    ++ JsonValue.optionalField "sequence" (frame.sequence.map fun n => .int n.toNat))

def ofJson? (value : JsonValue) : Option (Frame Float) := do
  let record ← value.record? jsonNames
  return {
    updates := ← record.required "updates" (JsonValue.list? Update.ofJson?)
    timestamp := ← record.required "timestamp" JsonValue.uint64?
    sequence := ← record.optional "sequence" JsonValue.uint32? }

end Frame

end LightShow
