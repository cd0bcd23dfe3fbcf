import LightShow.Bridge.Controller

/-!
The bridge controller on a clock of its own, against a bridge whose answers are known in advance.
Time passes only while everything waits. The flush task takes a tick every window and flushes at
each one; commands are given one after another, and each is waited for.

On a runtime of one thread, a task that is aborted is not polled again. On one of several threads it
may be in the middle of a poll then, and goes on to its next yield. A stop does not wait for that,
so how much an aborted task still does comes with the command.
-/

set_option autoImplicit false

namespace LightShow

/-- An answer of the bridge and how many nanoseconds it takes. Without a delay it never comes. -/
structure Reply where
  delay : Option Nat := some 0
  answer : Answer := .response ⟨200, none⟩
  deriving Repr

structure Clockwork (κ : Type) where
  clock : Nat := 0
  /-- The period of the flush task in milliseconds. -/
  window : Nat
  controller : Controller κ
  /-- When the installed flush task takes its next tick. -/
  nextTick : Option Nat := none
  /-- Whether a flush task was started and has not been told to stop since. -/
  running : Bool := false
  /-- The answers to come, per light. An exhausted light is answered with a success at once. -/
  script : LightTable (List Reply) := LightTable.empty
  /-- The reply to the request on its way, and the instant it arrives. -/
  inFlight : Option (Option Nat × Answer) := none
  /-- All requests so far, the latest one first. -/
  requests : List Request := []
  deriving Repr

/-- What goes on by itself. -/
inductive Activity where
  | drain
  | slot
  | answer
  | tick
  deriving DecidableEq, Repr

/-- What the clockwork is told to do. -/
inductive Command (κ : Type) where
  /-- Start the flush task, where a runtime for it may be lacking. -/
  | start (runtime : Bool := true)
  /-- Stop the flush task, which may take some ticks that are overdue before it obeys, and do some
  things that are due before an abort takes effect. -/
  | stop (overdue : Nat := 0) (late : Nat := 0)
  | flush
  | update (updates : List (Update κ))
  /-- Wait until an instant. -/
  | sleep (instant : Nat)
  deriving Repr

namespace Clockwork

variable {κ : Type}

/-- How late a tick may be taken without moving the ones after it. -/
def tickTolerance : Nat := millis 5

/-- How long a stop waits for a flush under way. -/
def stopTimeout : Nat := millis 5000

def isRunning (work : Clockwork κ) : Bool :=
  work.running

def isInstalled (work : Clockwork κ) : Bool :=
  work.nextTick.isSome

/-- The next thing the flush that has the turn, or the first one waiting for it, does. -/
def nextFlushActivity (work : Clockwork κ) : Option (Nat × Activity) :=
  match work.controller.flushing with
  | some ⟨_, _, some _⟩ =>
    match work.inFlight with
    | some (some arrival, _) => some (max work.clock arrival, .answer)
    | _ => none
  | some ⟨_, _, none⟩ => some (max work.clock work.controller.nextSlot, .slot)
  | none => if work.controller.waiting.isEmpty then none else some (work.clock, .drain)

/-- The next tick, which the flush task takes when it is not flushing. -/
def nextTickActivity (work : Clockwork κ) : Option (Nat × Activity) :=
  match work.nextTick with
  | some due => if work.controller.isBusy .task then none else some (max work.clock due, .tick)
  | none => none

/-- What happens next, and when. -/
def nextActivity (work : Clockwork κ) : Option (Nat × Activity) :=
  match work.nextFlushActivity, work.nextTickActivity with
  | some (t, activity), some (tick, other) =>
    if tick < t then some (tick, other) else some (t, activity)
  | some next, none => some next
  | none, other => other

/-- The reply to the next request of a light, and the answers after it. -/
def takeReply (script : LightTable (List Reply)) (light : String) :
    Reply × LightTable (List Reply) :=
  match script.get? light with
  | some (reply :: rest) => (reply, script.insert light rest)
  | _ => ({}, script)

/-- Sends off a request and sets up its reply. -/
def dispatch (work : Clockwork κ) (request : Request) : Clockwork κ :=
  let (reply, script) := takeReply work.script request.light
  { work with
    script
    inFlight := some (reply.delay.map (work.clock + ·), reply.answer)
    requests := request :: work.requests }

/-- Performs an activity at the present instant. -/
def perform [Scalar κ] (work : Clockwork κ) : Activity → Clockwork κ
  | .drain => { work with controller := (work.controller.step work.clock .drain).1 }
  | .slot =>
    let (controller, request) := work.controller.step work.clock .slot
    request.elim { work with controller } { work with controller }.dispatch
  | .answer =>
    match work.inFlight with
    | some (_, answer) =>
      { work with
        inFlight := none
        controller := (work.controller.step work.clock (.answer answer)).1 }
    | none => work
  | .tick =>
    let due := work.nextTick.getD work.clock
    let base := if work.clock ≤ due + tickTolerance then due else work.clock
    { work with
      nextTick := some (base + millis work.window)
      controller := (work.controller.step work.clock (.ask .task)).1 }

/-- Lets things happen until `done` holds or nothing is due before the limit. Whoever waits for the
limit goes on first, so that what is due at that very instant happens later. -/
def advance [Scalar κ] (limit : Option Nat) (done : Clockwork κ → Bool) :
    Nat → Clockwork κ → Clockwork κ
  | 0, work => work
  | fuel + 1, work =>
    if done work then work
    else
      match work.nextActivity with
      | some (t, activity) =>
        if limit.all (t < ·) then
          advance limit done fuel ({ work with clock := t }.perform activity)
        else work
      | none => work

/-- A bound on the activities of the flushes that are asked for. -/
def flushWork (work : Clockwork κ) : Nat :=
  let batch := (work.controller.flushing.map fun flush => flush.batch.length).getD 0
  4 * (work.controller.pending.length + batch + work.controller.waiting.length + 2)

/-- A bound on the activities up to an instant: each tick moves the next one on. -/
def workUntil (work : Clockwork κ) (limit : Nat) : Nat :=
  work.flushWork + 4 * ((limit - work.nextTick.getD limit) / millis 1 + 1)

/-- Waits until an instant. -/
def sleep [Scalar κ] (work : Clockwork κ) (instant : Nat) : Clockwork κ :=
  let work := work.advance (some instant) (fun _ => false) (work.workUntil instant)
  { work with clock := max work.clock instant }

/-- Why the flush task could not be installed. -/
inductive StartError where
  /-- There is nothing that could run the task. -/
  | noRuntime
  deriving DecidableEq, Repr

def StartError.message : StartError → String
  | .noRuntime => "Configuration error: No tokio runtime"

/-- Installs the flush task, unless one is installed. Its first tick is one window away. -/
def start (work : Clockwork κ) (runtime : Bool := true) : Clockwork κ × Except StartError Unit :=
  if work.isInstalled then (work, .ok ())
  else if runtime then
    ({ work with nextTick := some (work.clock + millis work.window), running := true }, .ok ())
  else (work, .error .noRuntime)

/-- Runs one flush to its end. -/
def flush [Scalar κ] (work : Clockwork κ) : Clockwork κ :=
  let asked := { work with controller := (work.controller.step work.clock (.ask .caller)).1 }
  asked.advance none (fun w => !w.controller.isBusy .caller) asked.flushWork

/-- Waits for the flush of the flush task, if it has one, up to a limit. -/
def awaitTask [Scalar κ] (limit : Nat) (work : Clockwork κ) : Clockwork κ :=
  work.advance (some limit) (fun w => !w.controller.isBusy .task) work.flushWork

/-- Whether the flush task is not flushing and its tick is due. -/
def isOverdue (work : Clockwork κ) : Bool :=
  !work.controller.isBusy .task && work.nextTick.any (· ≤ work.clock)

/-- The flush task has been told to stop and ends as soon as it is not flushing. When a tick is due
then, either may come first, so it may take some more. -/
def windDown [Scalar κ] (limit : Nat) : Nat → Clockwork κ → Clockwork κ
  | 0, work => work.awaitTask limit
  | overdue + 1, work =>
    let waited := work.awaitTask limit
    if waited.isOverdue then windDown limit overdue (waited.perform .tick) else waited

/-- The flush task is removed and told to stop. Its flush is waited for up to a time limit, after
which it is aborted. Then the queue is emptied, and the stop returns. -/
def retire [Scalar κ] (work : Clockwork κ) (overdue : Nat := 0) : Clockwork κ :=
  let limit := work.clock + stopTimeout
  let waited := { work with running := false }.windDown limit overdue
  let clock := if waited.controller.isBusy .task then limit else waited.clock
  { waited with clock, controller := (waited.controller.step clock .discard).1 }

/-- An aborted flush task does some of what is due at that very instant. -/
def straggle [Scalar κ] (late : Nat) (work : Clockwork κ) : Clockwork κ :=
  work.advance (some (work.clock + 1)) (fun w => !w.controller.isBusy .task) late

/-- Cuts off the flush of the flush task, if it has one. -/
def cutOffTask [Scalar κ] (work : Clockwork κ) : Clockwork κ :=
  let isWaiting := work.controller.flushing.any fun flush => flush.owner = .task
  { work with
    nextTick := none
    inFlight := if isWaiting then none else work.inFlight
    controller := (work.controller.step work.clock (.cutOff .task)).1 }

/-- Removes the flush task and waits for its end, or for the abort that comes after a time limit to
take effect. -/
def stop [Scalar κ] (work : Clockwork κ) (overdue : Nat := 0) (late : Nat := 0) : Clockwork κ :=
  if work.isInstalled then ((work.retire overdue).straggle late).cutOffTask
  else work

def update [Scalar κ] (work : Clockwork κ) (updates : List (Update κ)) : Clockwork κ :=
  { work with controller := (work.controller.step work.clock (.queue updates)).1 }

/-- Carries out a command and waits for its end. -/
def execute [Scalar κ] (work : Clockwork κ) : Command κ → Clockwork κ
  | .start runtime => (work.start runtime).1
  | .stop overdue late => work.stop overdue late
  | .flush => work.flush
  | .update updates => work.update updates
  | .sleep instant => work.sleep instant

end Clockwork

end LightShow
