import LightShow.Json.Reader
import LightShow.Json.Record
import LightShow.Light.Table

/-!
Light maps: documents that list the lights and the transport each one is driven through. An entry
whose transport is not recognised is passed over; among the others of a light the last one counts.
-/

set_option autoImplicit false

namespace LightShow

/-- How a light is driven. -/
inductive Transport where
  /-- By streamed packets. -/
  | stream
  /-- By requests to a bridge. -/
  | bridge
  deriving DecidableEq, Repr

namespace Transport

def name : Transport → String
  | .stream => "FAST_UDP"
  | .bridge => "LOW_HTTP"

def ofName? (name : String) : Option Transport :=
  if name = Transport.stream.name then some .stream
  else if name = Transport.bridge.name then some .bridge
  else none

def toJson (transport : Transport) : JsonValue :=
  .text transport.name

def ofJson? (value : JsonValue) : Option Transport :=
  value.choice?.bind ofName?

end Transport

/-- A bridge of a light map. -/
structure BridgeEntry where
  id : String
  ip : Option String := none
  deriving DecidableEq, Repr

namespace BridgeEntry

def jsonNames : List String :=
  ["id", "ip"]

def toJson (entry : BridgeEntry) : JsonValue :=
  .object (("id", .text entry.id) :: JsonValue.optionalField "ip" (entry.ip.map .text))

def ofJson? (value : JsonValue) : Option BridgeEntry := do
  let record ← value.record? jsonNames
  return {
    id := ← record.required "id" JsonValue.text?
    ip := ← record.optional "ip" JsonValue.text? }

end BridgeEntry

/-- A light of a light map, with its transport as it is written. -/
structure LightEntry where
  id : String
  controlType : String := ""
  x : Option Float := none
  y : Option Float := none
  bridgeId : Option String := none
  name : Option String := none
  deriving Repr

namespace LightEntry

def jsonNames : List String :=
  ["id", "controlType", "x", "y", "bridgeId", "name"]

def toJson (entry : LightEntry) : JsonValue :=
  .object ([("id", .text entry.id), ("controlType", .text entry.controlType)]
    ++ JsonValue.optionalField "x" (entry.x.map .float)
    ++ JsonValue.optionalField "y" (entry.y.map .float)
    ++ JsonValue.optionalField "bridgeId" (entry.bridgeId.map .text)
    ++ JsonValue.optionalField "name" (entry.name.map .text))

def ofJson? (value : JsonValue) : Option LightEntry := do
  let record ← value.record? jsonNames
  return {
    id := ← record.required "id" JsonValue.text?
    controlType := ← record.withDefault "controlType" JsonValue.text? ""
    x := ← record.optional "x" JsonValue.float?
    y := ← record.optional "y" JsonValue.float?
    bridgeId := ← record.optional "bridgeId" JsonValue.text?
    name := ← record.optional "name" JsonValue.text? }

end LightEntry

structure LightMap where
  bridges : List BridgeEntry := []
  lights : List LightEntry := []
  deriving Repr

namespace LightMap

def jsonNames : List String :=
  ["bridges", "lights"]

def toJson (map : LightMap) : JsonValue :=
  .object [("bridges", .array (map.bridges.map BridgeEntry.toJson)),
    ("lights", .array (map.lights.map LightEntry.toJson))]

def ofJson? (value : JsonValue) : Option LightMap := do
  let record ← value.record? jsonNames
  return {
    bridges := ← record.withDefault "bridges" (JsonValue.list? BridgeEntry.ofJson?) []
    lights := ← record.withDefault "lights" (JsonValue.list? LightEntry.ofJson?) [] }

/-- The light map in a JSON text. -/
def read? (text : String) : Option LightMap :=
  (JsonValue.read? text).bind ofJson?

/-- Enters a light into a routing table, if its transport is recognised. -/
def enter (table : LightTable Transport) (entry : LightEntry) : LightTable Transport :=
  match Transport.ofName? entry.controlType with
  | some transport => table.insert entry.id transport
  | none => table

/-- The entries that are passed over. -/
def unrecognised (map : LightMap) : List LightEntry :=
  map.lights.filter fun entry => (Transport.ofName? entry.controlType).isNone

/-- The routing table of a light map. -/
def routes (map : LightMap) : LightTable Transport :=
  map.lights.foldl enter LightTable.empty

end LightMap

end LightShow
