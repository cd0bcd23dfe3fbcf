import LightShow.Files.Content
import LightShow.Light.Map
import LightShow.Light.Update

/-!
Routing: the updates of a frame are split by the transports of their lights, and each half goes to
its sink if there is one. Updates of unknown lights are dropped.
-/

set_option autoImplicit false

namespace LightShow

structure Router where
  routes : LightTable Transport := LightTable.empty
  /-- Whether a stream sink is attached. -/
  streams : Bool := false
  /-- Whether a bridge sink is attached. -/
  bridges : Bool := false
  deriving Repr

inductive LoadError where
  /-- The text is no light map. -/
  | invalid
  | notFound (path : String)
  /-- There is a directory in place of the file. -/
  | directory
  /-- The file holds no text. -/
  | notText
  deriving DecidableEq, Repr

def LoadError.message : LoadError → String
  | .invalid => "Configuration error: Invalid light map"
  | .notFound path => s!"Configuration error: Light map not found: {path}"
  | .directory => "IO error: Is a directory (os error 21)"
  | .notText => "IO error: stream did not contain valid UTF-8"

/-- The light map in a text. -/
def LightMap.ofText (text : String) : Except LoadError LightMap :=
  match LightMap.read? text with
  | some map => .ok map
  | none => .error .invalid

/-- The light map in a file, which errors show under a name. -/
def LightMap.ofFile (shown : String) (content : FileContent) : Except LoadError LightMap :=
  match content with
  | .missing => .error (.notFound shown)
  | .directory => .error .directory
  | .bytes _ =>
    match content.text? with
    | some text => LightMap.ofText text
    | none => .error .notText

/-- What the sinks get of a frame. -/
structure Routed (κ : Type) where
  stream : Option (Frame κ) := none
  bridge : Option (List (Update κ)) := none
  deriving Repr

namespace Router

/-- Replaces the routes by those of a light map, if there is one. -/
def adopt (router : Router) : Except LoadError LightMap → Router × Except LoadError Nat
  | .ok map => ({ router with routes := map.routes }, .ok map.routes.size)
  | .error error => (router, .error error)

/-- Replaces the routes by those of a light map. A text that is none changes nothing. -/
def load (router : Router) (text : String) : Router × Except LoadError Nat :=
  router.adopt (LightMap.ofText text)

/-- The ids of the lights in order. -/
def lights (router : Router) : List String :=
  router.routes.lights.mergeSort fun a b => !decide (b < a)

/-- Whether some light is driven through a transport. -/
def uses (router : Router) (transport : Transport) : Bool :=
  router.routes.entries.any fun entry => entry.2 = transport

variable {κ : Type}

/-- The updates of lights driven through a transport, in order. -/
def share (router : Router) (transport : Transport) (updates : List (Update κ)) :
    List (Update κ) :=
  updates.filter fun update => router.routes.get? update.light = some transport

/-- Splits a frame among the sinks. -/
def route (router : Router) (frame : Frame κ) : Routed κ :=
  let streamed := router.share .stream frame.updates
  let requested := router.share .bridge frame.updates
  { stream :=
      if router.streams && !streamed.isEmpty then some ⟨streamed, frame.timestamp, none⟩ else none
    bridge := if router.bridges && !requested.isEmpty then some requested else none }

end Router

end LightShow
