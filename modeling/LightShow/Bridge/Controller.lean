import LightShow.Bridge.Backoff
import LightShow.Bridge.Body
import LightShow.Bridge.Pending

/-!
The bridge controller as a machine. Flushes take turns: one at a time holds the turn, and the others
wait in order of arrival. A flush drains the queue and goes through its batch update by update. Each
update waits for its slot, which opens one interval after the latest request was started; then it
is dropped if its light is closed by backoff, and sent otherwise. The next update is looked at after
the answer. Instants are in nanoseconds and come with the events.
-/

set_option autoImplicit false

namespace LightShow

/-- Who runs a flush. -/
inductive FlushOwner where
  /-- The periodic flush task. While an old one is being stopped, a new one with another number may
  already be at work. -/
  | task (number : Nat := 0)
  /-- A caller that wants a flush now. -/
  | caller
  deriving DecidableEq, Repr

/-- The flush that has the turn. -/
structure Flush (κ : Type) where
  owner : FlushOwner
  /-- What is left of the drained batch. -/
  batch : List (Update κ)
  /-- The light whose request has not been answered yet. -/
  awaiting : Option String := none
  deriving Repr

/-- A request as it goes out. -/
structure Request where
  light : String
  start : Nat
  body : Body
  deriving DecidableEq, Repr

structure Controller (κ : Type) where
  /-- The least distance between the starts of two requests in milliseconds. -/
  interval : Nat
  pending : Pending κ := []
  backoff : BackoffTable := LightTable.empty
  lastRequest : Option Nat := none
  flushing : Option (Flush κ) := none
  /-- Flushes that wait for their turn, in order of arrival. -/
  waiting : List FlushOwner := []
  deriving Repr

/-- What can happen to a controller. -/
inductive ControllerEvent (κ : Type) where
  /-- Updates are queued. -/
  | queue (updates : List (Update κ))
  /-- A flush is asked for and waits for its turn. -/
  | ask (owner : FlushOwner)
  /-- The first waiting flush takes its turn and drains the queue. -/
  | drain
  /-- The slot of the next update of the batch opens. -/
  | slot
  /-- The request on its way is answered. -/
  | answer (answer : Answer)
  /-- The flushes of an owner are cut off, waiting or not. What is left of a batch is lost. -/
  | cutOff (owner : FlushOwner)
  /-- The queue is emptied. -/
  | discard
  deriving Repr

namespace Controller

variable {κ : Type}

/-- The instant from which on another request may be started. -/
def nextSlot (controller : Controller κ) : Nat :=
  match controller.lastRequest with
  | some start => start + millis controller.interval
  | none => 0

/-- Ends a flush that has nothing left to do. -/
def settle (controller : Controller κ) : Controller κ :=
  match controller.flushing with
  | some ⟨_, [], none⟩ => { controller with flushing := none }
  | _ => controller

/-- Gives the turn to the first waiting flush, if it is free. -/
def drain (controller : Controller κ) : Controller κ :=
  match controller.flushing, controller.waiting with
  | none, owner :: waiting =>
    settle { controller with
      pending := [], waiting, flushing := some { owner, batch := controller.pending } }
  | _, _ => controller

/-- Deals with the next update of the batch, if its slot is open. -/
def slot [Scalar κ] (controller : Controller κ) (now : Nat) : Controller κ × Option Request :=
  match controller.flushing with
  | some ⟨owner, update :: batch, none⟩ =>
    if now < controller.nextSlot then (controller, none)
    else if controller.backoff.allows update.light now then
      ({ controller with
          lastRequest := some now
          flushing := some ⟨owner, batch, some update.light⟩ },
        some ⟨update.light, now, Body.ofUpdate update⟩)
    else (settle { controller with flushing := some ⟨owner, batch, none⟩ }, none)
  | _ => (controller, none)

/-- Takes in the answer to the request on its way. -/
def answer (controller : Controller κ) (now : Nat) (answer : Answer) : Controller κ :=
  match controller.flushing with
  | some ⟨owner, batch, some light⟩ =>
    settle { controller with
      backoff := controller.backoff.record light answer now
      flushing := some ⟨owner, batch, none⟩ }
  | _ => controller

def cutOff (controller : Controller κ) (owner : FlushOwner) : Controller κ :=
  { controller with
    flushing := controller.flushing.filter fun flush => flush.owner ≠ owner
    waiting := controller.waiting.filter fun other => other ≠ owner }

/-- One event at an instant, with the request it starts, if any. An event that cannot happen in the
present state changes nothing. -/
def step [Scalar κ] (controller : Controller κ) (now : Nat) :
    ControllerEvent κ → Controller κ × Option Request
  | .queue updates => ({ controller with pending := controller.pending.addAll updates }, none)
  | .ask owner => ({ controller with waiting := controller.waiting ++ [owner] }, none)
  | .drain => (controller.drain, none)
  | .slot => controller.slot now
  | .answer answer => (controller.answer now answer, none)
  | .cutOff owner => (controller.cutOff owner, none)
  | .discard => ({ controller with pending := [] }, none)

/-- A whole run, with the requests it starts in order. -/
def run [Scalar κ] (controller : Controller κ) :
    List (Nat × ControllerEvent κ) → Controller κ × List Request
  | [] => (controller, [])
  | (now, event) :: rest =>
    let (next, request) := controller.step now event
    let (last, requests) := next.run rest
    (last, request.toList ++ requests)

/-- Whether a flush of this owner is waiting or under way. -/
def isBusy (controller : Controller κ) (owner : FlushOwner) : Bool :=
  controller.waiting.contains owner || controller.flushing.any fun flush => flush.owner = owner

end Controller

end LightShow
