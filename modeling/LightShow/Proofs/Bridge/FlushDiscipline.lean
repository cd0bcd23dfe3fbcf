import LightShow.Proofs.Bridge.BackoffSafety
import LightShow.Proofs.Bridge.PendingQueue

/-!
# Flushes keep order, slots and distance

A flush goes through its batch from the front. What lies before it moves at each moment in one of
four ways (`Agenda.Move`), so the updates whose slots open before the next flush takes its turn are
a first part of the batch, and all of it once the flush is over (`Agenda.Runs.exists_batch_eq`).
After a request the first thing to happen is its answer (`Agenda.Runs.answered_of_cons`).

The slot of the next update opens one interval after the latest request, and dropped updates leave
it where it is (`nextSlot_run`). So the starts of requests keep their distance over a whole run,
also from one flush to the next (`pairwise_requests`). -/

set_option autoImplicit false

namespace LightShow

variable {κ : Type}

namespace Moment

/-- The updates that are sent are among those whose slots open, in the same order. -/
theorem sublist_filterMap_sent? (moments : List (Moment κ)) :
    (moments.filterMap sent?).Sublist (moments.filterMap update?) := by
  induction moments with
  | nil => exact List.Sublist.slnil
  | cons moment rest ih =>
    obtain ⟨now, controller, deed⟩ := moment
    cases deed with
    | sent update => exact ih.cons_cons update
    | dropped update => exact ih.cons update
    | turn owner batch => exact ih
    | answered light answer => exact ih

/-- A request asks for the state that the update sent wants of its light. -/
theorem map_filterMap_request? [Scalar κ] (moments : List (Moment κ)) :
    (moments.filterMap request?).map (fun request ↦ (request.light, request.body)) =
      (moments.filterMap sent?).map fun update ↦ (update.light, Body.ofUpdate update) := by
  rw [List.map_filterMap, List.map_filterMap]
  congr 1
  funext moment
  cases hsent : moment.sent? with
  | none => simp [request?, hsent]
  | some update => simp [request?, hsent]

end Moment

/-! ### The agenda of a flush -/

namespace Agenda

/-- How a deed moves the agenda. -/
inductive Move : Agenda κ → Deed κ → Agenda κ → Prop where
  | turn (owner : FlushOwner) (batch : List (Update κ)) :
    Move {} (.turn owner batch) { batch }
  | sent (update : Update κ) (rest : List (Update κ)) :
    Move { batch := update :: rest } (.sent update) ⟨rest, some update.light⟩
  | dropped (update : Update κ) (rest : List (Update κ)) :
    Move { batch := update :: rest } (.dropped update) { batch := rest }
  | answered (light : String) (answer : Answer) (batch : List (Update κ)) :
    Move ⟨batch, some light⟩ (.answered light answer) { batch }

theorem Move.eq_of_turn {first second : Agenda κ} {owner : FlushOwner} {batch : List (Update κ)}
    (hmove : Move first (.turn owner batch) second) : second = { batch } := by
  cases hmove
  rfl

theorem Move.awaited_of_sent {first second : Agenda κ} {update : Update κ}
    (hmove : Move first (.sent update) second) : second.awaited = some update.light := by
  cases hmove
  rfl

/-- How the moments of a history move the agenda. -/
inductive Runs : Agenda κ → List (Moment κ) → Agenda κ → Prop where
  | nil (agenda : Agenda κ) : Runs agenda [] agenda
  | cons {first second last : Agenda κ} {moment : Moment κ} {rest : List (Moment κ)}
    (hmove : Move first moment.deed second) (hrest : Runs second rest last) :
    Runs first (moment :: rest) last

/-- A moment in the middle makes its move there. -/
theorem Runs.exists_move {first last : Agenda κ} {earlier later : List (Moment κ)}
    {moment : Moment κ} (hruns : Runs first (earlier ++ moment :: later) last) :
    ∃ before after, Move before moment.deed after ∧ Runs after later last := by
  induction earlier generalizing first with
  | nil =>
    cases hruns with
    | cons hmove hrest => exact ⟨_, _, hmove, hrest⟩
  | cons other earlier ih =>
    cases hruns with
    | cons hmove hrest => exact ih hrest

/-- The moments up to the next turn, which are those of the flush that has the turn. -/
def ofFlush (moments : List (Moment κ)) : List (Moment κ) :=
  moments.takeWhile fun moment ↦ !moment.isTurn

/-- The slots that open before the next turn are those of a first part of the batch. Nothing is left
of the batch once the flush is over, because another one has taken its turn or nothing lies before
it any more. -/
theorem Runs.exists_batch_eq {first last : Agenda κ} {moments : List (Moment κ)}
    (hruns : Runs first moments last) :
    ∃ left, first.batch = (ofFlush moments).filterMap Moment.update? ++ left ∧
      ((∃ moment ∈ moments, moment.isTurn = true) ∨ last = {} → left = []) := by
  induction hruns with
  | nil agenda =>
    refine ⟨agenda.batch, rfl, ?_⟩
    rintro (⟨moment, hmem, -⟩ | rfl)
    · simp at hmem
    · rfl
  | @cons first second last moment rest hmove hrest ih =>
    obtain ⟨now, controller, deed⟩ := moment
    obtain ⟨left, hbatch, hleft⟩ := ih
    cases hmove with
    | turn owner batch => exact ⟨[], rfl, fun _ ↦ rfl⟩
    | sent update remaining =>
      refine ⟨left, congrArg (List.cons update) hbatch, fun hover ↦ hleft ?_⟩
      simpa [Moment.isTurn] using hover
    | dropped update remaining =>
      refine ⟨left, congrArg (List.cons update) hbatch, fun hover ↦ hleft ?_⟩
      simpa [Moment.isTurn] using hover
    | answered light answer batch =>
      refine ⟨left, hbatch, fun hover ↦ hleft ?_⟩
      simpa [Moment.isTurn] using hover

/-- The requests that are started before the next turn are those of some updates of the batch, in
the order of the batch. -/
theorem Runs.requests_sublist [Scalar κ] {first last : Agenda κ} {moments : List (Moment κ)}
    (hruns : Runs first moments last) :
    (((ofFlush moments).filterMap Moment.request?).map fun request ↦
      (request.light, request.body)).Sublist
        (first.batch.map fun update ↦ (update.light, Body.ofUpdate update)) := by
  obtain ⟨left, hbatch, -⟩ := hruns.exists_batch_eq
  rw [Moment.map_filterMap_request?]
  have hopened : ((ofFlush moments).filterMap Moment.update?).Sublist first.batch := by
    rw [hbatch]
    exact List.sublist_append_left _ left
  exact ((Moment.sublist_filterMap_sent? (ofFlush moments)).trans hopened).map _

/-- While a request is on its way, the first thing to happen is its answer. -/
theorem Runs.answered_of_cons {first last : Agenda κ} {moment : Moment κ} {rest : List (Moment κ)}
    (hruns : Runs first (moment :: rest) last) {light : String}
    (hawaited : first.awaited = some light) : ∃ answer, moment.deed = .answered light answer := by
  obtain ⟨now, controller, deed⟩ := moment
  cases hruns with
  | cons hmove hrest =>
    cases hmove with
    | turn owner batch => simp at hawaited
    | sent update rest => simp at hawaited
    | dropped update rest => simp at hawaited
    | answered other answer batch =>
      obtain rfl : other = light := by simpa using hawaited
      exact ⟨answer, rfl⟩

end Agenda

namespace Controller

variable [Scalar κ]

/-! ### The agenda along a run -/

theorem move_agenda {controller : Controller κ} {now : ℕ} {event : ControllerEvent κ}
    {deed : Deed κ} (hdeed : controller.deed? now event = some deed) :
    Agenda.Move controller.agenda deed (controller.step now event).1.agenda := by
  cases outcome hdeed with
  | turn owner waiting hfree hstep =>
    rw [hstep, agenda_settle, agenda_of_free hfree, agenda_of_flushing rfl]
    exact .turn owner controller.pending
  | sent owner update rest hflushing hslot hopen hstep =>
    rw [hstep, agenda_of_flushing hflushing, agenda_of_flushing rfl]
    exact .sent update rest
  | dropped owner update rest hflushing hslot hclosed hstep =>
    rw [hstep, agenda_settle, agenda_of_flushing hflushing, agenda_of_flushing rfl]
    exact .dropped update rest
  | answered owner light batch answer hflushing hstep =>
    rw [hstep, agenda_settle, agenda_of_flushing hflushing, agenda_of_flushing rfl]
    exact .answered light answer batch

theorem agenda_step_of_idle {controller : Controller κ} {now : ℕ} {event : ControllerEvent κ}
    (hidle : controller.deed? now event = none) (huncut : ∀ owner, event ≠ .cutOff owner) :
    (controller.step now event).1.agenda = controller.agenda := by
  cases outcome hidle with
  | idle pending waiting flushing hflushing hstep =>
    rw [hstep]
    rcases hflushing with rfl | ⟨-, owner, rfl⟩
    · rfl
    · exact absurd rfl (huncut owner)

/-- Unless flushes are cut off, the agenda moves with the history alone. -/
theorem runs_agenda (controller : Controller κ) {events : List (ℕ × ControllerEvent κ)}
    (huncut : ∀ timed ∈ events, ∀ owner, timed.2 ≠ .cutOff owner) :
    Agenda.Runs controller.agenda (controller.history events) (controller.run events).1.agenda := by
  induction events generalizing controller with
  | nil => exact .nil controller.agenda
  | cons timed rest ih =>
    obtain ⟨now, event⟩ := timed
    obtain ⟨hevent, hrest⟩ := List.forall_mem_cons.mp huncut
    have hruns := ih (controller.step now event).1 hrest
    cases hdeed : controller.deed? now event with
    | none =>
      rw [history_cons_of_idle hdeed, ← agenda_step_of_idle hdeed hevent]
      exact hruns
    | some deed =>
      rw [history_cons_of_deed hdeed]
      exact .cons (move_agenda hdeed) hruns

/-! ### Slots along a run -/

theorem interval_step (controller : Controller κ) (now : ℕ) (event : ControllerEvent κ) :
    (controller.step now event).1.interval = controller.interval := by
  generalize hdeed : controller.deed? now event = deed
  cases outcome hdeed with
  | idle pending waiting flushing hflushing hstep => rw [hstep]
  | turn owner waiting hfree hstep => rw [hstep, interval_settle]
  | sent owner update rest hflushing hslot hopen hstep => rw [hstep]
  | dropped owner update rest hflushing hslot hclosed hstep => rw [hstep, interval_settle]
  | answered owner light batch answer hflushing hstep => rw [hstep, interval_settle]

/-- An event moves the next slot only by starting a request. -/
theorem nextSlot_step (controller : Controller κ) (now : ℕ) (event : ControllerEvent κ) :
    (controller.step now event).1.nextSlot =
      (controller.step now event).2.elim controller.nextSlot
        (·.start + millis controller.interval) := by
  generalize hdeed : controller.deed? now event = deed
  cases outcome hdeed with
  | idle pending waiting flushing hflushing hstep => rw [hstep]; rfl
  | turn owner waiting hfree hstep => rw [hstep]; simp [nextSlot]
  | sent owner update rest hflushing hslot hopen hstep => rw [hstep]; rfl
  | dropped owner update rest hflushing hslot hclosed hstep => rw [hstep]; simp [nextSlot]
  | answered owner light batch answer hflushing hstep => rw [hstep]; simp [nextSlot]

theorem nextSlot_le_start {controller : Controller κ} {now : ℕ} {event : ControllerEvent κ}
    {request : Request} (hrequest : (controller.step now event).2 = some request) :
    controller.nextSlot ≤ request.start := by
  generalize hdeed : controller.deed? now event = deed
  cases outcome hdeed with
  | idle pending waiting flushing hflushing hstep => simp [hstep] at hrequest
  | turn owner waiting hfree hstep => simp [hstep] at hrequest
  | sent owner update rest hflushing hslot hopen hstep =>
    obtain rfl : _ = request := by simpa [hstep] using hrequest
    exact hslot
  | dropped owner update rest hflushing hslot hclosed hstep => simp [hstep] at hrequest
  | answered owner light batch answer hflushing hstep => simp [hstep] at hrequest

/-- The next slot opens one interval after the latest request of a run. -/
theorem nextSlot_run (controller : Controller κ) (events : List (ℕ × ControllerEvent κ)) :
    (controller.run events).1.nextSlot =
      (controller.run events).2.getLast?.elim controller.nextSlot
        (·.start + millis controller.interval) := by
  induction events generalizing controller with
  | nil => rfl
  | cons timed rest ih =>
    obtain ⟨now, event⟩ := timed
    rw [run_cons, ih, interval_step, nextSlot_step, List.getLast?_append]
    cases ((controller.step now event).1.run rest).2.getLast? with
    | some request => rfl
    | none => cases (controller.step now event).2 <;> rfl

/-- The requests of a run start from the next slot on, each at least one interval after all those
before it. -/
theorem pairwise_requests (controller : Controller κ) (events : List (ℕ × ControllerEvent κ)) :
    (∀ request ∈ (controller.run events).2, controller.nextSlot ≤ request.start) ∧
      (controller.run events).2.Pairwise fun earlier later ↦
        earlier.start + millis controller.interval ≤ later.start := by
  induction events generalizing controller with
  | nil => exact ⟨by simp [run], List.Pairwise.nil⟩
  | cons timed rest ih =>
    obtain ⟨now, event⟩ := timed
    obtain ⟨hslot, hspaced⟩ := ih (controller.step now event).1
    rw [nextSlot_step] at hslot
    rw [interval_step] at hspaced
    rw [run_cons]
    cases hrequest : (controller.step now event).2 with
    | none =>
      rw [hrequest] at hslot
      exact ⟨hslot, hspaced⟩
    | some request =>
      rw [hrequest] at hslot
      have hstart : controller.nextSlot ≤ request.start := nextSlot_le_start hrequest
      refine ⟨?_, List.pairwise_cons.mpr ⟨hslot, hspaced⟩⟩
      intro other hother
      rcases List.mem_cons.mp hother with rfl | hmem
      · exact hstart
      · have hother : request.start + millis controller.interval ≤ other.start := hslot other hmem
        omega

/-! ### Flushes -/

/-- The moments of a history follow one another on a clock that never goes back. -/
theorem pairwise_now_history (controller : Controller κ) {events : List (ℕ × ControllerEvent κ)}
    (hclock : Chronological events) :
    (controller.history events).Pairwise fun earlier later ↦ earlier.now ≤ later.now := by
  induction events generalizing controller with
  | nil => exact List.Pairwise.nil
  | cons timed rest ih =>
    obtain ⟨now, event⟩ := timed
    obtain ⟨hnow, hrest⟩ := List.pairwise_cons.mp hclock
    have hlater := ih (controller.step now event).1 hrest
    cases hdeed : controller.deed? now event with
    | none =>
      rw [history_cons_of_idle hdeed]
      exact hlater
    | some deed =>
      rw [history_cons_of_deed hdeed]
      exact List.pairwise_cons.mpr ⟨fun moment hmem ↦ le_now_of_mem_history hnow hmem, hlater⟩

/-- A flush that takes its turn drains the queue, so it has at most one update for each light. -/
theorem batch_of_turn {interval : ℕ} {events : List (ℕ × ControllerEvent κ)}
    {earlier later : List (Moment κ)} {moment : Moment κ}
    (hhistory : ({ interval } : Controller κ).history events = earlier ++ moment :: later)
    {owner : FlushOwner} {batch : List (Update κ)} (hturn : moment.deed = .turn owner batch) :
    batch = moment.controller.pending ∧ (batch.map (·.light)).Nodup := by
  obtain ⟨before, event, after, -, -, hcontroller, hdeed, -⟩ := history_split hhistory
  rw [hturn] at hdeed
  cases outcome hdeed with
  | turn owner waiting hfree hstep =>
    refine ⟨rfl, ?_⟩
    rw [hcontroller, run_pending { interval } [] rfl before]
    exact Pending.nodup_lights_addAll [] List.nodup_nil _

/-- At a moment of a run, the next slot is given by the requests so far. -/
theorem nextSlot_of_history {controller : Controller κ} {events : List (ℕ × ControllerEvent κ)}
    {earlier later : List (Moment κ)} {moment : Moment κ}
    (hhistory : controller.history events = earlier ++ moment :: later) :
    moment.controller.nextSlot = (earlier.filterMap Moment.request?).getLast?.elim
      controller.nextSlot (·.start + millis controller.interval) := by
  obtain ⟨before, event, after, -, rfl, hcontroller, -, -⟩ := history_split hhistory
  rw [hcontroller, nextSlot_run, requests_run]

/-- When the slot of an update opens, it is dropped exactly if its light is closed for longer. -/
theorem dropped_iff {controller : Controller κ} {events : List (ℕ × ControllerEvent κ)}
    {earlier later : List (Moment κ)} {moment : Moment κ}
    (hhistory : controller.history events = earlier ++ moment :: later) {update : Update κ}
    (hupdate : moment.update? = some update) :
    moment.controller.nextSlot ≤ moment.now ∧
      (moment.deed = .dropped update ↔ ∃ backoff ∈ moment.controller.backoff.get? update.light,
        moment.now < backoff.expiry) := by
  obtain ⟨before, event, after, -, -, -, hdeed, -⟩ := history_split hhistory
  obtain ⟨hslot, hverdict⟩ := slot_of_update? moment hdeed hupdate
  refine ⟨hslot, ?_⟩
  rw [← BackoffTable.allows_eq_false_iff, hverdict]
  split_ifs with hopen <;> simp [hopen]

/-- On a clock that never goes back, and with no flush cut off, the following hold of every run. Any
two requests start at least one interval apart. At every moment the next slot is given by the latest
request alone, so that a dropped update takes no slot. The batch of a flush is the queue it drains,
its requests are those of some updates of the batch, in order and at most one for each light, and
the slots of all its updates have opened when it is over. When the slot of an update opens, the
update is dropped exactly if its light is closed for longer than that. What happens next after a
request is its answer. -/
theorem flush_discipline (interval : ℕ) (events : List (ℕ × ControllerEvent κ))
    (hclock : Chronological events) (huncut : ∀ timed ∈ events, ∀ owner, timed.2 ≠ .cutOff owner) :
    let start : Controller κ := { interval }
    (start.run events).2 = (start.history events).filterMap Moment.request? ∧
    ((start.run events).2.Pairwise fun earlier later ↦
      earlier.start + millis interval ≤ later.start) ∧
    ∀ earlier moment later, start.history events = earlier ++ moment :: later →
      moment.controller.nextSlot =
        (earlier.filterMap Moment.request?).getLast?.elim 0 (·.start + millis interval) ∧
      (∀ owner batch, moment.deed = .turn owner batch →
        let flush := Agenda.ofFlush later
        let requests := flush.filterMap Moment.request?
        batch = moment.controller.pending ∧
        (requests.map fun request ↦ (request.light, request.body)).Sublist
          (batch.map fun update ↦ (update.light, Body.ofUpdate update)) ∧
        (requests.map (·.light)).Nodup ∧
        ((∃ next ∈ later, next.isTurn = true) ∨ (start.run events).1.flushing = none →
          flush.filterMap Moment.update? = batch)) ∧
      (∀ update, moment.update? = some update →
        moment.controller.nextSlot ≤ moment.now ∧
        (moment.deed = .dropped update ↔ ∃ backoff ∈ moment.controller.backoff.get? update.light,
          moment.now < backoff.expiry)) ∧
      (∀ update, moment.deed = .sent update → ∀ reply rest, later = reply :: rest →
        (∃ answer, reply.deed = .answered update.light answer) ∧
        moment.now ≤ reply.now ∧ ∀ next ∈ rest, reply.now ≤ next.now) := by
  intro start
  refine ⟨requests_run start events, (pairwise_requests start events).2, ?_⟩
  intro earlier moment later hhistory
  have hruns := runs_agenda start huncut
  have hordered := pairwise_now_history start hclock
  rw [hhistory] at hruns hordered
  obtain ⟨agenda, next, hmove, hrest⟩ := hruns.exists_move
  refine ⟨nextSlot_of_history hhistory, ?_, fun update ↦ dropped_iff hhistory, ?_⟩
  · intro owner batch hturn flush requests
    rw [hturn] at hmove
    obtain rfl : next = { batch } := hmove.eq_of_turn
    obtain ⟨hdrained, hnodup⟩ := batch_of_turn hhistory hturn
    have hrequests := hrest.requests_sublist
    refine ⟨hdrained, hrequests, ?_, ?_⟩
    · have hlights := hrequests.map Prod.fst
      rw [List.map_map, List.map_map] at hlights
      exact hlights.nodup hnodup
    · intro hover
      obtain ⟨left, hbatch, hleft⟩ := hrest.exists_batch_eq
      rw [hleft (hover.imp_right agenda_of_free), List.append_nil] at hbatch
      exact hbatch.symm
  · rintro update hsent reply rest rfl
    rw [hsent] at hmove
    obtain ⟨hnow, hlater⟩ := List.pairwise_cons.mp (List.pairwise_append.mp hordered).2.1
    exact ⟨hrest.answered_of_cons hmove.awaited_of_sent, hnow reply List.mem_cons_self,
      (List.pairwise_cons.mp hlater).1⟩

theorem deeds_limitedRun :
    (({ interval := 100 } : Controller Rat).history limitedRun).map (·.deed) =
      [.turn .caller [{ light := "a" }, { light := "b" }], .sent { light := "a" },
        .answered "a" (.response { status := 429 }), .sent { light := "b" },
        .answered "b" (.response { status := 200 }), .turn .task [{ light := "a" }],
        .dropped { light := "a" }, .turn .task [{ light := "a" }], .sent { light := "a" }] := by
  decide +kernel

theorem flush_discipline_limitedRun :
    let start : Controller Rat := { interval := 100 }
    let history := start.history limitedRun
    ((start.run limitedRun).2.Pairwise fun earlier later ↦
      earlier.start + millis 100 ≤ later.start) ∧
    (∃ turn sent reply rest, history = turn :: sent :: reply :: rest ∧
      turn.deed = .turn .caller [{ light := "a" }, { light := "b" }] ∧
      (Agenda.ofFlush (sent :: reply :: rest)).filterMap Moment.update? =
        [{ light := "a" }, { light := "b" }] ∧
      sent.deed = .sent { light := "a" } ∧ ∃ answer, reply.deed = .answered "a" answer) ∧
    ∃ earlier moment later, history = earlier ++ moment :: later ∧
      moment.deed = .dropped { light := "a" } ∧
      ∃ backoff ∈ moment.controller.backoff.get? "a", moment.now < backoff.expiry := by
  intro start history
  obtain ⟨-, hspaced, hmoments⟩ := flush_discipline (κ := Rat) 100 limitedRun
    chronological_limitedRun (by simp [limitedRun])
  refine ⟨hspaced, ?_, ?_⟩
  · obtain ⟨turn, later, hhistory, hturn, hlater⟩ := List.map_eq_cons_iff.mp deeds_limitedRun
    obtain ⟨next, hnext, hdeed⟩ : ∃ next ∈ later, next.deed = .turn .task [{ light := "a" }] :=
      List.mem_map.mp (by simp [hlater])
    obtain ⟨sent, replies, rfl, hsent, hreplies⟩ := List.map_eq_cons_iff.mp hlater
    obtain ⟨reply, rest, rfl, -, -⟩ := List.map_eq_cons_iff.mp hreplies
    have hflush := (hmoments [] turn _ hhistory).2.1 _ _ hturn
    have hanswered := (hmoments [turn] sent _ hhistory).2.2.2 _ hsent reply rest rfl
    refine ⟨turn, sent, reply, rest, hhistory, hturn, ?_, hsent, hanswered.1⟩
    exact hflush.2.2.2 (.inl ⟨next, hnext, by rw [Moment.isTurn, hdeed]⟩)
  · obtain ⟨moment, hmoment, hdropped⟩ : ∃ moment ∈ history,
        moment.deed = .dropped { light := "a" } :=
      List.mem_map.mp (by simp [history, start, deeds_limitedRun])
    obtain ⟨earlier, later, hhistory⟩ := List.append_of_mem hmoment
    have hclosed := (hmoments earlier moment later hhistory).2.2.1 { light := "a" }
      (by rw [Moment.update?, hdropped])
    exact ⟨earlier, moment, later, hhistory, hdropped, hclosed.2.mp hdropped⟩

end Controller

end LightShow
