import LightShow.Number.Scalar
import LightShow.Settings.Stream
import LightShow.Stream.HostAddress
import LightShow.Stream.Packet

/-!
Stream sessions. Within a session every non-empty frame takes the next sequence number, whether its
packet gets out or not. The counters go on over all sessions.
-/

set_option autoImplicit false

namespace LightShow

/-- Totals over all sessions. -/
structure StreamStats where
  framesSent : UInt64 := 0
  packetsSent : UInt64 := 0
  packetsFailed : UInt64 := 0
  deriving DecidableEq, Repr

/-- The percentage of the packets that did not get out, zero if there was none. -/
def StreamStats.loss (stats : StreamStats) : Float :=
  let total := stats.packetsSent + stats.packetsFailed
  if total = 0 then 0 else stats.packetsFailed.toFloat * 100 / total.toFloat

structure Session where
  active : Bool := false
  /-- The sequence number of the next packet. -/
  sequence : UInt32 := 0
  stats : StreamStats := {}
  deriving DecidableEq, Repr

inductive StreamError where
  | inactive
  /-- The target cannot be resolved. -/
  | badAddress
  /-- No socket can be bound for the target. -/
  | notBound
  /-- The packet did not get out. -/
  | notSent
  deriving DecidableEq, Repr

def StreamError.message : StreamError → String
  | .inactive => "No active session"
  | .badAddress => "Invalid address"
  | .notBound => "IO error"
  | .notSent => "IO error"

/-- What comes of looking for a way to a target. -/
inductive Opening where
  | unresolved
  /-- The target is known, but no socket can be bound for it. -/
  | unbound
  | opened
  deriving DecidableEq, Repr

/-- The network a session sends into: the addresses of its hosts, the sockets that can be bound for
them, and the packets it takes. -/
structure Network where
  /-- The address of a host, if it is known. -/
  resolve : String → Option HostAddress
  binds : HostAddress → Bool
  takes : List UInt8 → Bool

/-- Looks for a way to a host. -/
def Network.wayTo (network : Network) (host : String) : Opening :=
  match network.resolve host with
  | none => .unresolved
  | some address => if network.binds address then .opened else .unbound

namespace Session

/-- Opens a session, unless one is open. The numbering starts over. -/
def start (session : Session) (opening : Opening) : Session × Except StreamError Unit :=
  if session.active then (session, .ok ())
  else
    match opening with
    | .unresolved => (session, .error .badAddress)
    | .unbound => (session, .error .notBound)
    | .opened => ({ session with active := true, sequence := 0 }, .ok ())

def stop (session : Session) : Session :=
  { session with active := false }

/-- The packet of a frame, if this session sends one for it. -/
def packet (session : Session) (frame : Frame UInt64) : Option (List UInt8) :=
  if session.active && !frame.updates.isEmpty then some (Packet.encode frame session.sequence)
  else none

/-- Sends a frame, given whether the network takes its packet. The result is the sequence number
it was sent under; an empty frame is passed over. -/
def send (session : Session) (frame : Frame UInt64) (taken : Bool) :
    Session × Except StreamError (Option UInt32) :=
  if !session.active then (session, .error .inactive)
  else if frame.updates.isEmpty then (session, .ok none)
  else
    let stats := session.stats
    if taken then
      ({ session with
          sequence := session.sequence + 1
          stats := { stats with
            framesSent := stats.framesSent + 1, packetsSent := stats.packetsSent + 1 } },
        .ok (some session.sequence))
    else
      ({ session with
          sequence := session.sequence + 1
          stats := { stats with packetsFailed := stats.packetsFailed + 1 } },
        .error .notSent)

/-- Sends a frame into a network, with the packet that arrives. -/
def sendInto (session : Session) (network : Network) (frame : Frame UInt64) :
    Session × Except StreamError (Option UInt32) × Option (List UInt8) :=
  let packet := session.packet frame
  let (next, result) := session.send frame (packet.any network.takes)
  (next, result, packet.filter network.takes)

end Session

end LightShow
