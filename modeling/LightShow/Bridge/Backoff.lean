import LightShow.Bridge.Answer
import LightShow.Light.Table
import LightShow.Text.Blank
import LightShow.Text.Numeral

/-!
Backoff per light. A rate-limited answer closes a light until an instant: for as long as a valid
`Retry-After` says, and otherwise for a time that doubles from one second up to ten. A success
forgets the light. Instants are in nanoseconds, and durations are whole milliseconds.
-/

set_option autoImplicit false

namespace LightShow

/-- A duration of whole milliseconds, in nanoseconds. -/
def millis (count : Nat) : Nat :=
  1000000 * count

/-- The seconds named by a `Retry-After` header: a 64-bit numeral, white space around it aside. -/
def retryAfterSeconds (header : String) : Option Nat :=
  readWord64 (trimBlank header.toList)

structure Backoff where
  /-- The light is open again from this instant on. -/
  expiry : Nat
  /-- The latest doubling step in milliseconds, from which the next one is taken. -/
  lastStep : Option Nat
  deriving DecidableEq, Repr

abbrev BackoffTable := LightTable Backoff

namespace Backoff

def firstStep : Nat := 1000

def maxStep : Nat := 10000

/-- The longest duration whose milliseconds fit in 64 bits. -/
def maxDuration : Nat := UInt64.size - 1

def nextStep : Option Nat → Nat
  | some step => min (2 * step) maxStep
  | none => firstStep

/-- The duration after a rate-limited answer in milliseconds, and the step to remember. -/
def choose (lastStep : Option Nat) (header : Option String) : Nat × Option Nat :=
  match header.bind retryAfterSeconds with
  | some seconds => (min (seconds * 1000) maxDuration, lastStep)
  | none => (nextStep lastStep, some (nextStep lastStep))

end Backoff

namespace BackoffTable

/-- Whether an update of the light may be sent at this instant. -/
def allows (table : BackoffTable) (light : String) (now : Nat) : Bool :=
  match table.get? light with
  | some backoff => backoff.expiry ≤ now
  | none => true

/-- The duration in milliseconds chosen for a light that is rate-limited now. -/
def duration (table : BackoffTable) (light : String) (header : Option String) : Nat :=
  (Backoff.choose ((table.get? light).bind (·.lastStep)) header).1

/-- Closes a light after a rate-limited answer. -/
def limit (table : BackoffTable) (light : String) (header : Option String) (now : Nat) :
    BackoffTable :=
  let (duration, lastStep) := Backoff.choose ((table.get? light).bind (·.lastStep)) header
  table.insert light ⟨now + millis duration, lastStep⟩

/-- Forgets a light after a success. -/
def clear (table : BackoffTable) (light : String) : BackoffTable :=
  table.erase light

/-- Takes in an answer for a light: a success forgets, a rate limit closes, all else changes
nothing. -/
def record (table : BackoffTable) (light : String) (answer : Answer) (now : Nat) : BackoffTable :=
  match answer with
  | .failed => table
  | .response response =>
    if response.isSuccess then table.clear light
    else if response.isRateLimited then table.limit light response.retryAfter now
    else table

end BackoffTable

end LightShow
