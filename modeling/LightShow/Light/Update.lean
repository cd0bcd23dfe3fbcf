/-!
Light updates. A field that is absent leaves the light as it is, which is not the same as zero.
-/

set_option autoImplicit false

namespace LightShow

/-- A wanted change of one light. `κ` is what hue and saturation are kept as: numbers while an
effect is computed, bit patterns on the wire. -/
structure Update (κ : Type) where
  light : String
  brightness : Option Int32 := none
  /-- A share of the colour circle. -/
  hue : Option κ := none
  saturation : Option κ := none
  /-- In units of 100 ms. -/
  transition : Option Int32 := none
  deriving DecidableEq, Repr

namespace Update

variable {κ : Type}

/-- Folds a newer update of the same light into an older one: a field of the newer one wins where
it is present. -/
def merge (older newer : Update κ) : Update κ where
  light := older.light
  brightness := newer.brightness.or older.brightness
  hue := newer.hue.or older.hue
  saturation := newer.saturation.or older.saturation
  transition := newer.transition.or older.transition

/-- Changes what hue and saturation are kept as. -/
def map {ι : Type} (f : κ → ι) (update : Update κ) : Update ι where
  light := update.light
  brightness := update.brightness
  hue := update.hue.map f
  saturation := update.saturation.map f
  transition := update.transition

end Update

/-- The updates made for one stretch of sound, in order. -/
structure Frame (κ : Type) where
  updates : List (Update κ)
  /-- In milliseconds. -/
  timestamp : UInt64
  /-- Given when the frame goes on the wire. -/
  sequence : Option UInt32 := none
  deriving DecidableEq, Repr

/-- Changes what hue and saturation are kept as. -/
def Frame.map {κ ι : Type} (f : κ → ι) (frame : Frame κ) : Frame ι :=
  ⟨frame.updates.map (Update.map f), frame.timestamp, frame.sequence⟩

end LightShow
