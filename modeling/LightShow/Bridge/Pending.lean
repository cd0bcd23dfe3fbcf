import LightShow.Light.Update

/-!
The queue of updates for the bridge. A light has at most one queued update: a newer one is merged
into it and keeps its place.
-/

set_option autoImplicit false

namespace LightShow

abbrev Pending (κ : Type) := List (Update κ)

namespace Pending

variable {κ : Type}

/-- Queues one update. -/
def add : Pending κ → Update κ → Pending κ
  | [], update => [update]
  | queued :: rest, update =>
    if queued.light = update.light then queued.merge update :: rest
    else queued :: add rest update

/-- Queues updates in order. -/
def addAll (pending : Pending κ) (updates : List (Update κ)) : Pending κ :=
  updates.foldl add pending

end Pending

end LightShow
