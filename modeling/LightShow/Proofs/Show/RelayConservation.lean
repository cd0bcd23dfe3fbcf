import LightShow.Proofs.Show.PipelineRouting
import LightShow.Show.Relay

/-!
# The relay loses nothing and ends

What a turn of the reader or of the loop can do is said once, by cases (`Outcome`). While the loop
goes on, the blocks processed, queued and held make up the blocks polled; when the flag stops the
loop, at most a full queue and one more block are left behind (`Conserved`). A loop that ends by
itself has seen a reader that is gone and an empty queue, so it leaves nothing behind.

No turn adds to the effort that lies ahead, and turns of both sides take from it until both have
ended (`effort_run_lt`): a reader waits only for a full queue and a loop only for an empty one, so
they never wait for each other. A schedule that gives both their turn often enough ends both, with
the flag raised or not (`hasEnded_of_rounds`).
-/

set_option autoImplicit false

namespace LightShow.Relay

variable {β : Type}

/-- The block that the reader holds. -/
def held (relay : Relay β) : List β :=
  match relay.reader with
  | .sending block => [block]
  | _ => []

/-- Both sides have ended. -/
def HasEnded (relay : Relay β) : Prop :=
  relay.reader = .ended ∧ relay.loop = .ended

/-! ### What a turn can do -/

/-- All that an event can do, by where the side stands whose turn it is. -/
inductive Outcome (relay : Relay β) : RelayEvent → Relay β → Prop where
  | readerLooks (hreader : relay.reader = .checking) (hflag : relay.stopped = false) :
    Outcome relay .reader { relay with reader := .polling }
  | readerStops (hreader : relay.reader = .checking) (hflag : relay.stopped = true) :
    Outcome relay .reader { relay with reader := .ended }
  | polls (hreader : relay.reader = .polling) (block : β) (source : List β)
    (hsource : relay.source = block :: source) :
    Outcome relay .reader
      { relay with source, polled := relay.polled ++ [block], reader := .sending block }
  | exhausted (hreader : relay.reader = .polling) (hsource : relay.source = []) :
    Outcome relay .reader { relay with reader := .ended }
  | sends (block : β) (hreader : relay.reader = .sending block) (hloop : relay.loop ≠ .ended)
    (hroom : relay.queue.length < capacity) :
    Outcome relay .reader { relay with queue := relay.queue ++ [block], reader := .checking }
  /-- The reader waits, because the queue is full. -/
  | waits (block : β) (hreader : relay.reader = .sending block) (hloop : relay.loop ≠ .ended)
    (hfull : capacity ≤ relay.queue.length) : Outcome relay .reader relay
  /-- The reader finds nobody to send to. -/
  | abandoned (block : β) (hreader : relay.reader = .sending block)
    (hloop : relay.loop = .ended) : Outcome relay .reader { relay with reader := .ended }
  | readerGone (hreader : relay.reader = .ended) : Outcome relay .reader relay
  | loopLooks (hloop : relay.loop = .checking) (hflag : relay.stopped = false) :
    Outcome relay .loop { relay with loop := .receiving }
  | loopStops (hloop : relay.loop = .checking) (hflag : relay.stopped = true) :
    Outcome relay .loop { relay with loop := .ended }
  | receives (hloop : relay.loop = .receiving) (block : β) (queue : List β)
    (hqueue : relay.queue = block :: queue) :
    Outcome relay .loop
      { relay with queue, processed := relay.processed ++ [block], loop := .checking }
  /-- The loop has waited for a while in vain. -/
  | timesOut (hloop : relay.loop = .receiving) (hqueue : relay.queue = [])
    (hreader : relay.reader ≠ .ended) : Outcome relay .loop { relay with loop := .checking }
  /-- The loop finds the reader gone and the queue empty. -/
  | closes (hloop : relay.loop = .receiving) (hqueue : relay.queue = [])
    (hreader : relay.reader = .ended) : Outcome relay .loop { relay with loop := .ended }
  | loopGone (hloop : relay.loop = .ended) : Outcome relay .loop relay
  | flag : Outcome relay .stop { relay with stopped := true }

theorem readerEnded_iff (relay : Relay β) : relay.readerEnded = true ↔ relay.reader = .ended := by
  unfold readerEnded
  cases relay.reader <;> simp

theorem outcome_reader (relay : Relay β) : Outcome relay .reader relay.stepReader := by
  unfold stepReader
  split
  next hreader =>
    by_cases hflag : relay.stopped = true
    · rw [if_pos hflag]
      exact .readerStops hreader hflag
    · rw [if_neg hflag]
      exact .readerLooks hreader (Bool.eq_false_of_not_eq_true hflag)
  next hreader =>
    split
    next hsource => exact .exhausted hreader hsource
    next block source hsource => exact .polls hreader block source hsource
  next block hreader =>
    split_ifs with hloop hroom
    · exact .abandoned block hreader hloop
    · exact .sends block hreader hloop hroom
    · exact .waits block hreader hloop (Nat.le_of_not_lt hroom)
  next hreader => exact .readerGone hreader

theorem outcome_loop (relay : Relay β) : Outcome relay .loop relay.stepLoop := by
  unfold stepLoop
  split
  next hloop =>
    by_cases hflag : relay.stopped = true
    · rw [if_pos hflag]
      exact .loopStops hloop hflag
    · rw [if_neg hflag]
      exact .loopLooks hloop (Bool.eq_false_of_not_eq_true hflag)
  next hloop =>
    split
    next block queue hqueue => exact .receives hloop block queue hqueue
    next hqueue =>
      by_cases hreader : relay.reader = .ended
      · rw [if_pos (relay.readerEnded_iff.mpr hreader)]
        exact .closes hloop hqueue hreader
      · rw [if_neg (mt relay.readerEnded_iff.mp hreader)]
        exact .timesOut hloop hqueue hreader
  next hloop => exact .loopGone hloop

theorem outcome (relay : Relay β) (event : RelayEvent) :
    Outcome relay event (relay.step event) := by
  cases event with
  | reader => exact relay.outcome_reader
  | loop => exact relay.outcome_loop
  | stop => exact .flag

/-! ### What the steps keep -/

/-- How many blocks the reader may still poll once nobody receives. -/
def mayPoll (relay : Relay β) : ℕ :=
  match relay.reader with
  | .polling => 1
  | _ => 0

/-- Where the blocks of `source` are. -/
structure Conserved (source : List β) (relay : Relay β) : Prop where
  polled_append : relay.polled ++ relay.source = source
  room : relay.queue.length ≤ capacity
  /-- While the loop goes on, no block is lost. -/
  flow : relay.loop ≠ .ended → relay.processed ++ relay.queue ++ relay.held = relay.polled
  /-- The loop ends because of the flag, or when there is nothing more to come. -/
  cause : relay.loop = .ended →
    relay.stopped = true ∨ relay.reader = .ended ∧ relay.processed = relay.polled
  /-- A full queue and one more block may be left behind. -/
  left : relay.loop = .ended →
    ∃ rest, relay.processed ++ rest = relay.polled ∧ rest.length + relay.mayPoll ≤ capacity + 1

theorem conserved_start (source : List β) : Conserved source { source } where
  polled_append := rfl
  room := Nat.zero_le _
  flow := fun _ ↦ rfl
  cause := nofun
  left := nofun

theorem length_held_add_mayPoll_le (relay : Relay β) :
    relay.held.length + relay.mayPoll ≤ 1 := by
  unfold held mayPoll
  cases relay.reader <;> simp

/-- A reader that leaves holds nothing, or nobody receives any more. -/
theorem Conserved.leave {source : List β} {relay : Relay β} (hkept : Conserved source relay)
    (hheld : relay.loop ≠ .ended → relay.held = []) :
    Conserved source { relay with reader := .ended } where
  polled_append := hkept.polled_append
  room := hkept.room
  flow := by
    intro hloop
    have hflow := hkept.flow hloop
    rw [hheld hloop] at hflow
    exact hflow
  cause := by
    intro hloop
    rcases hkept.cause hloop with hflag | ⟨-, hall⟩
    · exact Or.inl hflag
    · exact Or.inr ⟨rfl, hall⟩
  left := by
    intro hloop
    obtain ⟨rest, hrest, hlength⟩ := hkept.left hloop
    exact ⟨rest, hrest, (Nat.le_add_right _ _).trans hlength⟩

theorem Conserved.next {source : List β} {relay next : Relay β} {event : RelayEvent}
    (hkept : Conserved source relay) (houtcome : Outcome relay event next) :
    Conserved source next := by
  have hkept' := hkept
  obtain ⟨hsource, hroom, hflow, hcause, hleft⟩ := hkept'
  cases houtcome with
  | readerLooks hreader hflag =>
    have halive : relay.loop ≠ .ended := by
      intro hloop
      rcases hcause hloop with hup | ⟨hgone, -⟩
      · simp [hflag] at hup
      · simp [hreader] at hgone
    refine ⟨hsource, hroom, ?_, fun hloop ↦ absurd hloop halive, fun hloop ↦ absurd hloop halive⟩
    intro hloop
    simpa [held, hreader] using hflow hloop
  | readerStops hreader hflag =>
    exact hkept.leave fun _ ↦ by simp [held, hreader]
  | polls hreader block rest hblock =>
    refine ⟨?_, hroom, ?_, ?_, ?_⟩
    · rw [hblock] at hsource
      simpa using hsource
    · intro hloop
      have hbefore := hflow hloop
      simp only [held, hreader, List.append_nil] at hbefore ⊢
      rw [hbefore]
    · intro hloop
      rcases hcause hloop with hflag | ⟨hgone, -⟩
      · exact Or.inl hflag
      · simp [hreader] at hgone
    · intro hloop
      obtain ⟨left, hbefore, hlength⟩ := hleft hloop
      simp only [mayPoll, hreader] at hlength
      refine ⟨left ++ [block], ?_, by simpa [mayPoll] using hlength⟩
      rw [← List.append_assoc, hbefore]
  | exhausted hreader hnone =>
    exact hkept.leave fun _ ↦ by simp [held, hreader]
  | sends block hreader hloop hfree =>
    refine ⟨hsource, ?_, ?_, fun hended ↦ absurd hended hloop, fun hended ↦ absurd hended hloop⟩
    · simpa using Nat.succ_le_of_lt hfree
    · intro _
      simpa [held, hreader] using hflow hloop
  | waits => exact hkept
  | abandoned block hreader hloop => exact hkept.leave fun halive ↦ absurd hloop halive
  | readerGone => exact hkept
  | loopLooks hloop hflag => exact ⟨hsource, hroom, fun _ ↦ hflow (by simp [hloop]), nofun, nofun⟩
  | loopStops hloop hflag =>
    have hbefore := hflow (by simp [hloop])
    refine ⟨hsource, hroom, fun halive ↦ absurd rfl halive, fun _ ↦ Or.inl hflag, fun _ ↦ ?_⟩
    refine ⟨relay.queue ++ relay.held, by rwa [← List.append_assoc], ?_⟩
    have hone := relay.length_held_add_mayPoll_le
    simp only [List.length_append]
    show relay.queue.length + relay.held.length + relay.mayPoll ≤ capacity + 1
    omega
  | receives hloop block queue hqueue =>
    have hbefore := hflow (by simp [hloop])
    rw [hqueue] at hroom hbefore
    refine ⟨hsource, Nat.le_of_succ_le hroom, fun _ ↦ ?_, nofun, nofun⟩
    simpa [held] using hbefore
  | timesOut hloop hqueue hreader =>
    exact ⟨hsource, hroom, fun _ ↦ hflow (by simp [hloop]), nofun, nofun⟩
  | closes hloop hqueue hreader =>
    have hall : relay.processed = relay.polled := by
      simpa [held, hqueue, hreader] using hflow (by simp [hloop])
    refine ⟨hsource, hroom, fun halive ↦ absurd rfl halive, fun _ ↦ Or.inr ⟨hreader, hall⟩,
      fun _ ↦ ⟨[], by simpa using hall, ?_⟩⟩
    simp [mayPoll, hreader]
  | loopGone => exact hkept
  | flag => exact ⟨hsource, hroom, hflow, fun _ ↦ Or.inl rfl, hleft⟩

theorem Conserved.run {source : List β} {relay : Relay β} (hkept : Conserved source relay)
    (events : List RelayEvent) : Conserved source (relay.run events) := by
  induction events generalizing relay with
  | nil => exact hkept
  | cons event events ih => exact ih (hkept.next (relay.outcome event))

/-- Only the flag's event raises the flag. -/
theorem stopped_run {relay : Relay β} {events : List RelayEvent} (hdown : relay.stopped = false)
    (hnever : RelayEvent.stop ∉ events) : (relay.run events).stopped = false := by
  induction events generalizing relay with
  | nil => exact hdown
  | cons event events ih =>
    rw [List.mem_cons, not_or] at hnever
    refine ih ?_ hnever.2
    have houtcome := relay.outcome event
    generalize relay.step event = next at houtcome ⊢
    cases houtcome with
    | flag => exact absurd rfl hnever.1
    | _ => exact hdown

theorem run_append (relay : Relay β) (before after : List RelayEvent) :
    relay.run (before ++ after) = (relay.run before).run after :=
  List.foldl_append

/-! ### Both sides end -/

/-- Once both have ended, only the flag can change. -/
theorem HasEnded.next {relay next : Relay β} {event : RelayEvent} (hended : relay.HasEnded)
    (houtcome : Outcome relay event next) :
    next.HasEnded ∧ next.processed = relay.processed ∧ next.polled = relay.polled := by
  obtain ⟨hreader, hloop⟩ := hended
  cases houtcome <;> simp_all [HasEnded]

theorem HasEnded.run {relay : Relay β} (hended : relay.HasEnded) (events : List RelayEvent) :
    (relay.run events).HasEnded ∧ (relay.run events).processed = relay.processed ∧
      (relay.run events).polled = relay.polled := by
  induction events generalizing relay with
  | nil => exact ⟨hended, rfl, rfl⟩
  | cons event events ih =>
    obtain ⟨hnext, hprocessed, hpolled⟩ := hended.next (relay.outcome event)
    obtain ⟨hrun, hprocessed', hpolled'⟩ := ih hnext
    exact ⟨hrun, hprocessed'.trans hprocessed, hpolled'.trans hpolled⟩

/-- How many turns of its own the reader needs at most. -/
def readerTurns (relay : Relay β) : ℕ :=
  match relay.reader with
  | .checking => 3 * relay.source.length + 2
  | .polling => 3 * relay.source.length + 1
  | .sending _ => 3 * relay.source.length + 3
  | .ended => 0

/-- How many turns of its own the loop needs for what is queued, where a turn that waits in vain for
a reader counts for nothing. -/
def loopTurns : LoopPhase → Bool → ℕ → ℕ
  | .ended, _, _ => 0
  | .checking, true, queued => 2 * queued + 2
  | .receiving, true, queued => 2 * queued + 1
  | .checking, false, queued => 2 * queued + 1
  | .receiving, false, queued => max 1 (2 * queued)

/-- What lies ahead of both sides. A turn of the reader can give the loop two more, so it weighs
three. -/
def effort (relay : Relay β) : ℕ :=
  3 * relay.readerTurns + loopTurns relay.loop relay.readerEnded relay.queue.length

theorem effort_withLoop (relay : Relay β) (phase : LoopPhase) :
    { relay with loop := phase }.effort =
      3 * relay.readerTurns + loopTurns phase relay.readerEnded relay.queue.length :=
  rfl

theorem loopTurns_send_le (phase : LoopPhase) (queued : ℕ) :
    loopTurns phase false (queued + 1) ≤ loopTurns phase false queued + 2 := by
  cases phase <;> simp only [loopTurns] <;> omega

theorem loopTurns_leave_le (phase : LoopPhase) (queued : ℕ) :
    loopTurns phase true queued ≤ loopTurns phase false queued + 1 := by
  cases phase <;> simp only [loopTurns] <;> omega

theorem loopTurns_look_lt (gone : Bool) (queued : ℕ) :
    loopTurns .receiving gone queued < loopTurns .checking gone queued ∨
      gone = false ∧ queued = 0 := by
  cases gone
  · rcases Nat.eq_zero_or_pos queued with hempty | hqueued
    · exact Or.inr ⟨rfl, hempty⟩
    · left
      simp only [loopTurns]
      omega
  · exact Or.inl (Nat.lt_succ_self _)

theorem loopTurns_stop_lt (gone : Bool) (queued : ℕ) :
    loopTurns .ended gone queued < loopTurns .checking gone queued := by
  cases gone <;> exact Nat.succ_pos _

theorem loopTurns_take_lt (gone : Bool) (queued : ℕ) :
    loopTurns .checking gone queued < loopTurns .receiving gone (queued + 1) := by
  cases gone <;> simp only [loopTurns] <;> omega

/-- The reader can do nothing. -/
def ReaderIdle (relay : Relay β) : Prop :=
  relay.reader = .ended ∨ relay.loop ≠ .ended ∧ capacity ≤ relay.queue.length

/-- The loop can do nothing, or can only look at the flag again. -/
def LoopIdle (relay : Relay β) : Prop :=
  relay.loop = .ended ∨ relay.reader ≠ .ended ∧ relay.queue = []

theorem hasEnded_of_idle {relay : Relay β} (hreader : relay.ReaderIdle) (hloop : relay.LoopIdle) :
    relay.HasEnded := by
  rcases hreader with hreader | ⟨halive, hfull⟩
  · rcases hloop with hloop | ⟨halive, -⟩
    · exact ⟨hreader, hloop⟩
    · exact absurd hreader halive
  · rcases hloop with hloop | ⟨-, hempty⟩
    · exact absurd hloop halive
    · simp [hempty, capacity] at hfull

/-- A turn takes from the effort ahead, or was the turn of a side that is idle. -/
theorem effort_next {relay next : Relay β} {event : RelayEvent}
    (houtcome : Outcome relay event next) :
    next.effort < relay.effort ∨
      next.effort = relay.effort ∧ (next.ReaderIdle ↔ relay.ReaderIdle) ∧
        (next.LoopIdle ↔ relay.LoopIdle) ∧ (event = .reader → relay.ReaderIdle) ∧
        (event = .loop → relay.LoopIdle) := by
  have hsend := loopTurns_send_le relay.loop relay.queue.length
  have hleave := loopTurns_leave_le relay.loop relay.queue.length
  cases houtcome with
  | readerLooks hreader hflag =>
    simp [effort, readerTurns, readerEnded, hreader]
  | readerStops hreader hflag =>
    left
    simp only [effort, readerTurns, readerEnded, hreader]
    omega
  | polls hreader block rest hblock =>
    left
    simp only [effort, readerTurns, readerEnded, hreader, hblock, List.length_cons]
    omega
  | exhausted hreader hnone =>
    left
    simp only [effort, readerTurns, readerEnded, hreader]
    omega
  | sends block hreader hloop hfree =>
    left
    simp only [effort, readerTurns, readerEnded, hreader, List.length_append, List.length_singleton]
    omega
  | waits block hreader hloop hfull =>
    exact Or.inr ⟨rfl, Iff.rfl, Iff.rfl, fun _ ↦ Or.inr ⟨hloop, hfull⟩, nofun⟩
  | abandoned block hreader hloop =>
    left
    simp only [effort, readerTurns, readerEnded, hreader]
    omega
  | readerGone hreader =>
    exact Or.inr ⟨rfl, Iff.rfl, Iff.rfl, fun _ ↦ Or.inl hreader, nofun⟩
  | loopLooks hloop hflag =>
    rw [effort_withLoop, effort, hloop]
    rcases loopTurns_look_lt relay.readerEnded relay.queue.length with hlt | ⟨halive, hempty⟩
    · exact Or.inl (Nat.add_lt_add_left hlt _)
    · have hidle : relay.LoopIdle := by
        refine Or.inr ⟨fun hgone ↦ ?_, List.length_eq_zero_iff.mp hempty⟩
        simp [relay.readerEnded_iff.mpr hgone] at halive
      refine Or.inr ⟨?_, by simp [ReaderIdle, hloop], by simp [LoopIdle, hloop], nofun,
        fun _ ↦ hidle⟩
      rw [halive, hempty]
      rfl
  | loopStops hloop hflag =>
    rw [effort_withLoop, effort, hloop]
    exact Or.inl (Nat.add_lt_add_left (loopTurns_stop_lt _ _) _)
  | receives hloop block queue hqueue =>
    left
    rw [effort, effort, hloop, hqueue]
    exact Nat.add_lt_add_left (loopTurns_take_lt relay.readerEnded queue.length) _
  | timesOut hloop hqueue hreader =>
    have halive : relay.readerEnded = false :=
      Bool.eq_false_of_not_eq_true (mt relay.readerEnded_iff.mp hreader)
    refine Or.inr ⟨?_, by simp [ReaderIdle, hloop], by simp [LoopIdle, hloop], nofun,
      fun _ ↦ Or.inr ⟨hreader, hqueue⟩⟩
    rw [effort_withLoop, effort, hloop, halive, hqueue]
    rfl
  | closes hloop hqueue hreader =>
    rw [effort_withLoop, effort, hloop, relay.readerEnded_iff.mpr hreader]
    exact Or.inl (Nat.add_lt_add_left (Nat.succ_pos _) _)
  | loopGone hloop => exact Or.inr ⟨rfl, Iff.rfl, Iff.rfl, nofun, fun _ ↦ Or.inl hloop⟩
  | flag => exact Or.inr ⟨rfl, Iff.rfl, Iff.rfl, nofun, nofun⟩

/-- Turns of both sides take from the effort ahead, unless both have ended. -/
theorem effort_run (relay : Relay β) (events : List RelayEvent) :
    (relay.run events).effort < relay.effort ∨
      (relay.run events).effort = relay.effort ∧ (RelayEvent.reader ∈ events → relay.ReaderIdle) ∧
        (RelayEvent.loop ∈ events → relay.LoopIdle) := by
  induction events generalizing relay with
  | nil => exact Or.inr ⟨rfl, nofun, nofun⟩
  | cons event events ih =>
    show ((relay.step event).run events).effort < relay.effort ∨
      ((relay.step event).run events).effort = relay.effort ∧ _ ∧ _
    rcases effort_next (relay.outcome event) with hlt | ⟨heq, hreader, hloop, hturn, hturn'⟩
    · left
      rcases ih (relay.step event) with hlater | ⟨hlater, -⟩
      · exact hlater.trans hlt
      · exact hlater.trans_lt hlt
    · rcases ih (relay.step event) with hlater | ⟨hlater, hidle, hidle'⟩
      · exact Or.inl (hlater.trans_eq heq)
      · refine Or.inr ⟨hlater.trans heq, fun hmem ↦ ?_, fun hmem ↦ ?_⟩
        · rcases List.mem_cons.mp hmem with hnow | hmem
          · exact hturn hnow.symm
          · exact hreader.mp (hidle hmem)
        · rcases List.mem_cons.mp hmem with hnow | hmem
          · exact hturn' hnow.symm
          · exact hloop.mp (hidle' hmem)

theorem effort_run_lt {relay : Relay β} {events : List RelayEvent}
    (hreader : RelayEvent.reader ∈ events) (hloop : RelayEvent.loop ∈ events)
    (hgoing : ¬relay.HasEnded) : (relay.run events).effort < relay.effort := by
  rcases relay.effort_run events with hlt | ⟨-, hidle, hidle'⟩
  · exact hlt
  · exact absurd (hasEnded_of_idle (hidle hreader) (hidle' hloop)) hgoing

/-- When neither side's turn changes anything, both have ended. -/
theorem hasEnded_of_stuck {relay : Relay β} (hreader : relay.step .reader = relay)
    (hloop : relay.step .loop = relay) : relay.HasEnded := by
  by_contra hgoing
  have hlt : (relay.run [.reader, .loop]).effort < relay.effort :=
    effort_run_lt (by simp) (by simp) hgoing
  have hsame : relay.run [.reader, .loop] = relay := by
    show (relay.step .reader).step .loop = relay
    rw [hreader, hloop]
  rw [hsame] at hlt
  exact Nat.lt_irrefl _ hlt

/-- Whatever else happens between, rounds in which both have a turn end both. -/
theorem hasEnded_of_rounds {relay : Relay β} {rounds : List (List RelayEvent)}
    (hfair : ∀ round ∈ rounds, RelayEvent.reader ∈ round ∧ RelayEvent.loop ∈ round)
    (henough : relay.effort ≤ rounds.length) : (relay.run rounds.flatten).HasEnded := by
  induction rounds generalizing relay with
  | nil =>
    by_contra hgoing
    have hlt : (relay.run [.reader, .loop]).effort < relay.effort :=
      effort_run_lt (by simp) (by simp) hgoing
    exact Nat.not_lt_of_le (henough.trans (Nat.zero_le _)) hlt
  | cons round rounds ih =>
    rw [List.flatten_cons, run_append]
    by_cases hended : relay.HasEnded
    · exact ((hended.run round).1.run rounds.flatten).1
    · obtain ⟨hreader, hloop⟩ := hfair round List.mem_cons_self
      refine ih (fun other hother ↦ hfair other (List.mem_cons_of_mem round hother)) ?_
      exact Nat.le_of_lt_succ ((effort_run_lt hreader hloop hended).trans_le henough)

/-! ### The relay as a whole -/

/-- The loop that ends with the flag still down has processed every block polled, and the reader is
gone. -/
theorem Conserved.hasEnded {source : List β} {relay : Relay β} (hkept : Conserved source relay)
    (hloop : relay.loop = .ended) (hflag : relay.stopped = false) :
    relay.HasEnded ∧ relay.processed = relay.polled := by
  rcases hkept.cause hloop with hup | ⟨hreader, hall⟩
  · rw [hflag] at hup
    exact absurd hup Bool.false_ne_true
  · exact ⟨⟨hreader, hloop⟩, hall⟩

/-- For every source, every order of turns and every moment of the flag: while the loop goes on, the
blocks processed, queued and held are the blocks polled. Once both sides have ended, the blocks
processed come first among those polled, at most nine were polled and not counted by the
statistics, which count in words of 64 bits, and none if the loop ended before the flag was raised.
The two sides are never stuck, and they end under every schedule that gives both their turn often
enough. -/
theorem relay_conserves_blocks (source : List AudioFrame) (events : List RelayEvent) :
    let relay := ({ source } : Relay AudioFrame).run events
    relay.polled ++ relay.source = source ∧
    relay.queue.length ≤ capacity ∧
    (relay.loop ≠ .ended → relay.processed ++ relay.queue ++ relay.held = relay.polled) ∧
    (relay.HasEnded → relay.processed <+: relay.polled ∧
      relay.polled.length ≤ relay.processed.length + 9 ∧
      (RelayEvent.stop ∉ events → relay.processed = relay.polled) ∧
      ∀ (pipeline : Pipeline) (timed : List (AudioFrame × Int)),
        pipeline.stats = {} → timed.map Prod.fst = relay.processed →
          let stats := (pipeline.processAll timed).1.stats
          stats.frames = UInt64.ofNat relay.processed.length ∧
          (relay.polled.length < 2 ^ 64 →
            stats.frames.toNat ≤ relay.polled.length ∧
            relay.polled.length ≤ stats.frames.toNat + 9 ∧
            (RelayEvent.stop ∉ events → relay.polled.length = stats.frames.toNat))) ∧
    (∀ before after, events = before ++ after → RelayEvent.stop ∉ before →
      (({ source } : Relay AudioFrame).run before).loop = .ended →
        relay.HasEnded ∧ relay.processed = relay.polled) ∧
    (relay.step .reader = relay → relay.step .loop = relay → relay.HasEnded) ∧
    ∀ rounds : List (List RelayEvent),
      (∀ round ∈ rounds, RelayEvent.reader ∈ round ∧ RelayEvent.loop ∈ round) →
        relay.effort ≤ rounds.length → (relay.run rounds.flatten).HasEnded := by
  intro relay
  have hkept : Conserved source relay := (conserved_start source).run events
  refine ⟨hkept.polled_append, hkept.room, hkept.flow, ?_, ?_, fun hreader hloop ↦
    hasEnded_of_stuck hreader hloop, fun rounds hfair henough ↦ hasEnded_of_rounds hfair henough⟩
  · rintro ⟨-, hloop⟩
    obtain ⟨rest, hrest, hlength⟩ := hkept.left hloop
    have hpolled : relay.polled.length = relay.processed.length + rest.length := by
      rw [← hrest, List.length_append]
    have hnine : rest.length ≤ 9 := (Nat.le_add_right _ _).trans hlength
    have hall (hnever : RelayEvent.stop ∉ events) : relay.processed = relay.polled :=
      (hkept.hasEnded hloop (stopped_run rfl hnever)).2
    refine ⟨⟨rest, hrest⟩, by omega, hall, ?_⟩
    intro pipeline timed hfresh htimed stats
    have hframes : stats.frames = UInt64.ofNat relay.processed.length := by
      simp only [stats, Pipeline.stats_processAll, hfresh, UInt64.zero_add]
      rw [← htimed, List.length_map]
    refine ⟨hframes, fun hfits ↦ ?_⟩
    have hsize : relay.processed.length < UInt64.size := by
      change relay.processed.length < 2 ^ 64
      omega
    rw [hframes, UInt64.toNat_ofNat_of_lt' hsize]
    exact ⟨by omega, by omega, fun hnever ↦ by rw [hall hnever]⟩
  · intro before after hevents hnever hloop
    obtain ⟨hended, hall⟩ :=
      ((conserved_start source).run before).hasEnded hloop (stopped_run rfl hnever)
    obtain ⟨hrun, hprocessed, hpolled⟩ := hended.run after
    have hrelay : relay = (({ source } : Relay AudioFrame).run before).run after := by
      rw [← run_append, ← hevents]
    rw [hrelay]
    exact ⟨hrun, hprocessed.trans (hall.trans hpolled.symm)⟩

/-- Nine blocks can be left behind: the loop takes one of ten, the reader fills the queue again and
holds the tenth when the flag ends the loop. -/
theorem relay_conserves_blocks_nine :
    let source := (List.range 10).map fun n ↦ (⟨[], 44100, 2, UInt64.ofNat n⟩ : AudioFrame)
    let send : List RelayEvent := [.reader, .reader, .reader]
    let take : List RelayEvent := [.loop, .loop]
    let part : List RelayEvent := [.reader, .reader, .stop, .loop, .reader]
    let events := (List.replicate 8 send).flatten ++ take ++ send ++ part
    let relay := ({ source } : Relay AudioFrame).run events
    relay.HasEnded ∧ relay.processed = source.take 1 ∧ relay.polled = source ∧
      relay.processed <+: relay.polled ∧
      ∃ pipeline : Pipeline, pipeline.stats = {} ∧
        let stats := (pipeline.processAll [(⟨[], 44100, 2, 0⟩, 0)]).1.stats
        relay.polled.length ≤ stats.frames.toNat + 9 ∧ relay.polled.length = 10 ∧
        stats.frames = 1 := by
  intro source send take part events relay
  have hended : relay.HasEnded := ⟨by decide +kernel, by decide +kernel⟩
  obtain ⟨pipeline, hcreate⟩ : ∃ pipeline, Pipeline.create {} (.energy {})
      { streams := true, bridges := true } = .ok pipeline :=
    ⟨_, rfl⟩
  obtain ⟨-, -, -, hstats⟩ := Pipeline.attached_of_create hcreate
  obtain ⟨-, -, -, hend, -⟩ := relay_conserves_blocks source events
  obtain ⟨hfirst, -, -, hcount⟩ := hend hended
  have hpolled : relay.polled.length = 10 := by decide +kernel
  have hprocessed : relay.processed = source.take 1 := by decide +kernel
  obtain ⟨hframes, hfits⟩ :=
    hcount pipeline [(⟨[], 44100, 2, 0⟩, 0)] hstats (by decide +kernel)
  obtain ⟨-, hnine, -⟩ := hfits (hpolled.trans_lt (by decide))
  have hone : relay.processed.length = 1 := by rw [hprocessed]; rfl
  exact ⟨hended, hprocessed, by decide +kernel, hfirst, pipeline, hstats, hnine, hpolled,
    hframes.trans (congrArg UInt64.ofNat hone)⟩

end LightShow.Relay
