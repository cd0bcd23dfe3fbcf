/-!
The relay between reading and analysis: a reader polls blocks from a source and sends them through a
bounded queue to a loop that processes them. Both watch a stop flag. The reader ends when the source
is exhausted, when the flag is up, or when nobody receives any more; the loop ends when the flag is
up, or when the queue is empty and the reader is gone.
-/

set_option autoImplicit false

namespace LightShow

/-- Where the reader stands. -/
inductive ReaderPhase (β : Type) where
  /-- About to look at the stop flag. -/
  | checking
  /-- About to poll the source. -/
  | polling
  /-- Waiting to send a block. -/
  | sending (block : β)
  | ended
  deriving DecidableEq, Repr

/-- Where the loop stands. -/
inductive LoopPhase where
  /-- About to look at the stop flag. -/
  | checking
  /-- Waiting for a block. -/
  | receiving
  | ended
  deriving DecidableEq, Repr

structure Relay (β : Type) where
  /-- What the source has still to give. -/
  source : List β
  /-- The blocks polled so far, in order. -/
  polled : List β := []
  reader : ReaderPhase β := .checking
  queue : List β := []
  loop : LoopPhase := .checking
  /-- The blocks processed so far, in order. -/
  processed : List β := []
  stopped : Bool := false
  deriving Repr

/-- Who moves next. -/
inductive RelayEvent where
  | reader
  | loop
  /-- The stop flag is raised. -/
  | stop
  deriving DecidableEq, Repr

namespace Relay

variable {β : Type}

/-- How many blocks the queue holds. -/
def capacity : Nat := 8

/-- A move of the reader. Sending to a full queue waits; sending to nobody ends. -/
def stepReader (relay : Relay β) : Relay β :=
  match relay.reader with
  | .checking => { relay with reader := if relay.stopped then .ended else .polling }
  | .polling =>
    match relay.source with
    | [] => { relay with reader := .ended }
    | block :: source =>
      { relay with source, polled := relay.polled ++ [block], reader := .sending block }
  | .sending block =>
    if relay.loop = .ended then { relay with reader := .ended }
    else if relay.queue.length < capacity then
      { relay with queue := relay.queue ++ [block], reader := .checking }
    else relay
  | .ended => relay

/-- Whether the reader has ended. -/
def readerEnded (relay : Relay β) : Bool :=
  match relay.reader with
  | .ended => true
  | _ => false

/-- A move of the loop. Waiting for a block of a living reader is given up after a while, to look at
the stop flag again. -/
def stepLoop (relay : Relay β) : Relay β :=
  match relay.loop with
  | .checking => { relay with loop := if relay.stopped then .ended else .receiving }
  | .receiving =>
    match relay.queue with
    | block :: queue =>
      { relay with queue, processed := relay.processed ++ [block], loop := .checking }
    | [] => { relay with loop := if relay.readerEnded then .ended else .checking }
  | .ended => relay

def step (relay : Relay β) : RelayEvent → Relay β
  | .reader => relay.stepReader
  | .loop => relay.stepLoop
  | .stop => { relay with stopped := true }

def run (relay : Relay β) (events : List RelayEvent) : Relay β :=
  events.foldl step relay

/-- Both sides taking turns until nothing can change any more. Each block takes a few rounds. -/
def finish (relay : Relay β) : Relay β :=
  let rounds := 4 * (relay.source.length + relay.queue.length) + 16
  relay.run ((List.replicate rounds [RelayEvent.reader, .loop]).flatten)

end Relay

end LightShow
