import LightShow.Proofs.Stream.PacketRoundTrip
import LightShow.Stream.Session
import Mathlib.Data.List.DropRight

/-!
# Sequence numbers and counters of stream sessions

Which session is open, and since when, is read off the events alone: it began with the first
successful start after the latest stop (`sessionEvents?`). The number of a packet is how many
non-empty frames its session was asked to send before, taken or not (`number?`). `Numbered` says
that a session agrees with its events on both, and every event keeps that (`Numbered.step`).

The counters are kept over all sessions. They count the packets that were handed to the network, by
whether it took them (`stats_run`).
-/

set_option autoImplicit false

namespace LightShow

/-- What is asked of a session. -/
inductive SessionEvent where
  /-- A start, with what comes of looking for a way to the target. -/
  | start (opening : Opening)
  | stop
  /-- A frame to send, with whether the network takes its packet. -/
  | send (frame : Frame UInt64) (taken : Bool)
  deriving DecidableEq

/-- Whether a frame is to be sent that has something in it. -/
def SessionEvent.isFrame : SessionEvent → Bool
  | .send frame _ => !frame.updates.isEmpty
  | _ => false

/-- The events of the session that is open after some events, if one is: those after the first
successful start that follows the latest stop. -/
def sessionEvents? (events : List SessionEvent) : Option (List SessionEvent) :=
  match (events.rtakeWhile (· ≠ .stop)).dropWhile (· ≠ .start .opened) with
  | [] => none
  | _ :: since => some since

/-- The number for the packet of a frame after some events: how many non-empty frames the open
session was asked to send before. An empty frame has none. -/
def number? (events : List SessionEvent) (frame : Frame UInt64) : Option UInt32 :=
  if frame.updates.isEmpty then none
  else (sessionEvents? events).map fun since ↦ UInt32.ofNat (since.countP (·.isFrame))

theorem sessionEvents?_concat_stop (events : List SessionEvent) :
    sessionEvents? (events ++ [.stop]) = none := by
  simp [sessionEvents?]

/-- The events after which no session is open stay so until a start succeeds. -/
theorem sessionEvents?_concat_of_none {events : List SessionEvent}
    (hclosed : sessionEvents? events = none) (event : SessionEvent) :
    sessionEvents? (events ++ [event]) = if event = .start .opened then some [] else none := by
  by_cases hstop : event = .stop
  · simp [hstop, sessionEvents?_concat_stop]
  unfold sessionEvents? at hclosed ⊢
  rw [List.rtakeWhile_concat_pos _ _ _ (by simpa using hstop), List.dropWhile_append]
  cases hrest : (events.rtakeWhile (· ≠ .stop)).dropWhile (· ≠ .start .opened) with
  | nil => by_cases hstart : event = .start .opened <;> simp [hstart]
  | cons first since =>
    rw [hrest] at hclosed
    simp at hclosed

/-- An event that is no stop belongs to the session that is open. -/
theorem sessionEvents?_concat_of_some {events since : List SessionEvent}
    (hopen : sessionEvents? events = some since) {event : SessionEvent} (hstop : event ≠ .stop) :
    sessionEvents? (events ++ [event]) = some (since ++ [event]) := by
  unfold sessionEvents? at hopen ⊢
  rw [List.rtakeWhile_concat_pos _ _ _ (by simpa using hstop), List.dropWhile_append]
  cases hrest : (events.rtakeWhile (· ≠ .stop)).dropWhile (· ≠ .start .opened) with
  | nil =>
    rw [hrest] at hopen
    simp at hopen
  | cons first rest =>
    rw [hrest] at hopen
    simpa using hopen

namespace Session

/-- One event. -/
def step (session : Session) : SessionEvent → Session
  | .start opening => (session.start opening).1
  | .stop => session.stop
  | .send frame taken => (session.send frame taken).1

/-- A whole run. -/
def run (session : Session) (events : List SessionEvent) : Session :=
  events.foldl step session

/-- The packet that is handed to the network at an event, with whether it is taken. -/
def attempt? (session : Session) : SessionEvent → Option (List UInt8 × Bool)
  | .send frame taken => (session.packet frame).map (·, taken)
  | _ => none

/-- The packets that are handed to the network in a run. -/
def attempts (session : Session) : List SessionEvent → List (List UInt8 × Bool)
  | [] => []
  | event :: rest => (session.attempt? event).toList ++ (session.step event).attempts rest

/-- Whether an event neither opens a session nor hands a packet over: a stop, a start in an open
session, a start that fails, a frame without a session or without updates. -/
def isIdle (session : Session) : SessionEvent → Bool
  | .start opening => session.active || opening != .opened
  | .stop => true
  | .send frame _ => !session.active || frame.updates.isEmpty

end Session

/-- Counts a packet that was handed to the network. -/
def StreamStats.count (stats : StreamStats) (taken : Bool) : StreamStats :=
  if taken then
    { stats with framesSent := stats.framesSent + 1, packetsSent := stats.packetsSent + 1 }
  else { stats with packetsFailed := stats.packetsFailed + 1 }

namespace Session

/-- What an event can come to: the packet that is handed over and the session afterwards. -/
inductive Outcome (session : Session) :
    SessionEvent → Option (List UInt8 × Bool) → Session → Prop where
  | stopped : session.Outcome .stop none { session with active := false }
  | ignored (event : SessionEvent) (hstop : event ≠ .stop)
      (hstart : session.active = false → event ≠ .start .opened)
      (hframe : session.active = true → event.isFrame = false) :
      session.Outcome event none session
  | opened (hclosed : session.active = false) :
      session.Outcome (.start .opened) none { session with active := true, sequence := 0 }
  | sent (frame : Frame UInt64) (taken : Bool) (hopen : session.active = true)
      (hframe : frame.updates.isEmpty = false) :
      session.Outcome (.send frame taken) (some (Packet.encode frame session.sequence, taken))
        { session with sequence := session.sequence + 1, stats := session.stats.count taken }

theorem outcome (session : Session) (event : SessionEvent) :
    session.Outcome event (session.attempt? event) (session.step event) := by
  cases event with
  | stop => exact .stopped
  | start opening =>
    simp only [attempt?, step, start]
    split_ifs with hactive
    · exact .ignored _ (by simp) (by simp [hactive]) (fun _ ↦ rfl)
    · cases opening with
      | unresolved => exact .ignored _ (by simp) (by simp) (fun _ ↦ rfl)
      | unbound => exact .ignored _ (by simp) (by simp) (fun _ ↦ rfl)
      | opened => exact .opened (Bool.eq_false_iff.mpr hactive)
  | send frame taken =>
    simp only [attempt?, packet, step, send]
    cases hactive : session.active with
    | false => exact .ignored _ (by simp) (by simp) (by simp [hactive])
    | true =>
      cases hframe : frame.updates.isEmpty with
      | true => exact .ignored _ (by simp) (by simp) (by simp [SessionEvent.isFrame, hframe])
      | false =>
        have hsent := Outcome.sent frame taken hactive hframe
        rw [hactive] at hsent
        cases taken <;> exact hsent

/-! ### Numbers -/

/-- A session agrees with the events that led to it on whether it is open and, if it is, on its next
number. -/
inductive Numbered (session : Session) (events : List SessionEvent) : Prop where
  | closed (hevents : sessionEvents? events = none) (hactive : session.active = false)
  | running (since : List SessionEvent) (hevents : sessionEvents? events = some since)
      (hactive : session.active = true)
      (hsequence : session.sequence = UInt32.ofNat (since.countP (·.isFrame)))

/-- A second start and an empty frame belong to the open session, but neither takes a number. -/
theorem Numbered.step {session : Session} {events : List SessionEvent}
    (hnumbered : session.Numbered events) (event : SessionEvent) :
    (session.step event).Numbered (events ++ [event]) := by
  have houtcome := session.outcome event
  generalize session.attempt? event = attempt at houtcome
  generalize session.step event = next at houtcome
  cases houtcome with
  | stopped => exact .closed (sessionEvents?_concat_stop events) rfl
  | ignored event hstop hstart hframe =>
    cases hnumbered with
    | closed hevents hactive =>
      refine .closed ?_ hactive
      rw [sessionEvents?_concat_of_none hevents, if_neg (hstart hactive)]
    | running since hevents hactive hsequence =>
      refine .running _ (sessionEvents?_concat_of_some hevents hstop) hactive ?_
      simp [hsequence, hframe hactive]
  | opened hclosed =>
    cases hnumbered with
    | closed hevents hactive => exact .running [] (sessionEvents?_concat_of_none hevents _) rfl rfl
    | running since hevents hactive hsequence => simp [hclosed] at hactive
  | sent frame taken hopen hframe =>
    cases hnumbered with
    | closed hevents hactive => simp [hopen] at hactive
    | running since hevents hactive hsequence =>
      refine .running _ (sessionEvents?_concat_of_some hevents (by simp)) hopen ?_
      have hcounts : (SessionEvent.send frame taken).isFrame = true := by
        simp [SessionEvent.isFrame, hframe]
      rw [List.countP_append, List.countP_singleton, if_pos hcounts, UInt32.ofNat_add, hsequence]
      rfl

theorem numbered_run (events : List SessionEvent) : (run {} events).Numbered events := by
  induction events using List.reverseRecOn with
  | nil => exact .closed rfl rfl
  | append_singleton earlier event ih =>
    rw [run, List.foldl_append]
    exact ih.step event

/-- The packet of a frame carries the number that the events give it. -/
theorem Numbered.packet_eq {session : Session} {events : List SessionEvent}
    (hnumbered : session.Numbered events) (frame : Frame UInt64) :
    session.packet frame = (number? events frame).map (Packet.encode frame) := by
  cases hnumbered with
  | closed hevents hactive => simp [packet, number?, hevents, hactive]
  | running since hevents hactive hsequence =>
    cases hframe : frame.updates.isEmpty <;>
      simp [packet, number?, hevents, hactive, hsequence, hframe]

/-- A frame is reported as sent under a number when its packet was taken and carried that number. -/
theorem Numbered.send_eq_ok_iff {session : Session} {events : List SessionEvent}
    (hnumbered : session.Numbered events) (frame : Frame UInt64) (taken : Bool)
    (number : UInt32) :
    (session.send frame taken).2 = .ok (some number) ↔
      taken = true ∧ number? events frame = some number := by
  cases hnumbered with
  | closed hevents hactive => simp [send, number?, hevents, hactive]
  | running since hevents hactive hsequence =>
    cases hframe : frame.updates.isEmpty <;> cases taken <;>
      simp [send, number?, hevents, hactive, hsequence, hframe]

/-! ### Counters -/

theorem stats_step (session : Session) (event : SessionEvent) :
    (session.step event).stats =
      ((session.attempt? event).map Prod.snd).elim session.stats session.stats.count := by
  have houtcome := session.outcome event
  generalize session.attempt? event = attempt at houtcome ⊢
  generalize session.step event = next at houtcome ⊢
  cases houtcome <;> rfl

/-- The counters count the packets that are handed over in a run. -/
theorem stats_run (session : Session) (events : List SessionEvent) :
    (session.run events).stats =
      ((session.attempts events).map Prod.snd).foldl StreamStats.count session.stats := by
  induction events generalizing session with
  | nil => rfl
  | cons event rest ih =>
    have hrest := ih (session.step event)
    rw [stats_step] at hrest
    rw [attempts, List.map_append, List.foldl_append]
    refine hrest.trans ?_
    cases session.attempt? event <;> rfl

end Session

/-- Packets one after another add up by whether they were taken. -/
theorem StreamStats.foldl_count (stats : StreamStats) (outcomes : List Bool) :
    outcomes.foldl count stats =
      { framesSent := stats.framesSent + UInt64.ofNat (outcomes.count true)
        packetsSent := stats.packetsSent + UInt64.ofNat (outcomes.count true)
        packetsFailed := stats.packetsFailed + UInt64.ofNat (outcomes.count false) } := by
  induction outcomes using List.reverseRecOn with
  | nil => simp
  | append_singleton earlier taken ih =>
    rw [List.foldl_append, ih]
    cases taken <;> simp [count, UInt64.ofNat_add, UInt64.add_assoc]

namespace Session

theorem step_of_isIdle {session : Session} {event : SessionEvent}
    (hidle : session.isIdle event = true) :
    (session.step event).sequence = session.sequence ∧
      (session.step event).stats = session.stats := by
  have houtcome := session.outcome event
  generalize session.attempt? event = attempt at houtcome
  generalize session.step event = next at houtcome ⊢
  cases houtcome with
  | stopped => exact ⟨rfl, rfl⟩
  | ignored event hstop hstart hframe => exact ⟨rfl, rfl⟩
  | opened hclosed => simp [isIdle, hclosed] at hidle
  | sent frame taken hopen hframe =>
    rw [isIdle, hopen, hframe] at hidle
    exact absurd hidle (by decide)

/-- In every run, the packet handed over for a frame carries the number of non-empty frames that its
session was asked to send before, whether they got out or not, and the number is reported exactly
when the packet is taken. The counters hold how many packets of all sessions were taken and how many
were not. An event that neither opens a session nor hands a packet over changes neither the number
nor a counter, and opening a session changes only the number, to zero. -/
theorem numbering_and_accounting (events : List SessionEvent) :
    let session := run {} events
    let outcomes := (attempts {} events).map Prod.snd
    (∀ frame, session.packet frame = (number? events frame).map (Packet.encode frame) ∧
      (∀ packet ∈ session.packet frame, ∃ decoded, Packet.decode packet = .ok decoded ∧
        number? events frame = some decoded.sequence) ∧
      ∀ taken number, (session.send frame taken).2 = .ok (some number) ↔
        taken = true ∧ number? events frame = some number) ∧
    session.stats =
      { framesSent := UInt64.ofNat (outcomes.count true)
        packetsSent := UInt64.ofNat (outcomes.count true)
        packetsFailed := UInt64.ofNat (outcomes.count false) } ∧
    (∀ event, session.isIdle event = true →
      (session.step event).sequence = session.sequence ∧
        (session.step event).stats = session.stats) ∧
    (session.active = false →
      session.step (.start .opened) = { session with active := true, sequence := 0 }) := by
  intro session outcomes
  have hnumbered : session.Numbered events := numbered_run events
  refine ⟨fun frame ↦ ⟨hnumbered.packet_eq frame, ?_, hnumbered.send_eq_ok_iff frame⟩, ?_,
    fun event ↦ step_of_isIdle, ?_⟩
  · intro packet hpacket
    rw [hnumbered.packet_eq frame] at hpacket
    obtain ⟨number, hnumber, rfl⟩ := Option.map_eq_some_iff.mp hpacket
    exact ⟨_, Packet.decode_encode frame number, hnumber⟩
  · have hstats : session.stats = outcomes.foldl StreamStats.count {} := stats_run {} events
    rw [hstats, StreamStats.foldl_count]
    simp only [UInt64.zero_add]
  · intro hclosed
    simp [step, start, hclosed]

/-- A session whose second packet does not get out, in which a start and an empty frame come to
nothing, and a session after it. -/
theorem numbering_and_accounting_restart :
    let frame : Frame UInt64 := ⟨[{ light := "a" }], 0, none⟩
    let first : List SessionEvent := [.start .opened, .send frame true, .send frame false,
      .start .opened, .send ⟨[], 0, none⟩ true]
    let closed : List SessionEvent := first ++ [.stop, .send frame true, .start .unresolved]
    (run {} first).packet frame = some (Packet.encode frame 2) ∧
    ((run {} first).send frame true).2 = .ok (some 2) ∧
    ((run {} first).step .stop).sequence = (run {} first).sequence ∧
    (run {} closed).packet frame = none ∧
    (run {} closed).stats = ⟨1, 1, 1⟩ ∧
    (run {} closed).step (.start .opened) =
      { run {} closed with active := true, sequence := 0 } := by
  intro frame first closed
  obtain ⟨hfirst, -, hidle, -⟩ := numbering_and_accounting first
  obtain ⟨hclosed, hstats, -, hopen⟩ := numbering_and_accounting closed
  have hnumber : number? first frame = some 2 := by decide
  have hnone : number? closed frame = none := by decide
  refine ⟨?_, ((hfirst frame).2.2 true 2).mpr ⟨rfl, hnumber⟩, (hidle .stop rfl).1, ?_, hstats,
    hopen (by decide)⟩
  · rw [(hfirst frame).1, hnumber]
    rfl
  · rw [(hclosed frame).1, hnone]
    rfl

end Session

end LightShow
