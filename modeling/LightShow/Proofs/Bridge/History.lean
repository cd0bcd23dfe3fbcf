import LightShow.Bridge.Controller
import Mathlib.Data.List.Basic
import Mathlib.Order.Nat

/-!
# What a bridge controller does, moment by moment

A run of the controller is told as a history: the flushes that take their turn, the updates that are
sent or dropped when their slot opens, and the answers that are taken in, each with its instant and
the controller as it was just before. The requests of a run are those of its history
(`requests_run`), and a moment of a history cuts the run in two (`history_split`).

What an event can do is said once (`outcome`), by cases on what happens at it. What a flush has
before it is its agenda, which moves only at the moments of a history (`Agenda`).
-/

set_option autoImplicit false

namespace LightShow

/-- What happens at an event. -/
inductive Deed (κ : Type) where
  /-- A flush takes its turn, with the queue as its batch. -/
  | turn (owner : FlushOwner) (batch : List (Update κ))
  /-- An update whose slot has opened is sent. -/
  | sent (update : Update κ)
  /-- An update whose slot has opened is dropped. -/
  | dropped (update : Update κ)
  /-- The request for a light is answered. -/
  | answered (light : String) (answer : Answer)
  deriving DecidableEq

/-- A deed, its instant, and the controller just before. -/
structure Moment (κ : Type) where
  now : ℕ
  controller : Controller κ
  deed : Deed κ

namespace Moment

variable {κ : Type}

/-- Whether a flush takes its turn. -/
def isTurn (moment : Moment κ) : Bool :=
  match moment.deed with
  | .turn _ _ => true
  | _ => false

/-- The update whose slot opens. -/
def update? (moment : Moment κ) : Option (Update κ) :=
  match moment.deed with
  | .sent update => some update
  | .dropped update => some update
  | _ => none

/-- The update that is sent. -/
def sent? (moment : Moment κ) : Option (Update κ) :=
  match moment.deed with
  | .sent update => some update
  | _ => none

/-- The request that is started. -/
def request? [Scalar κ] (moment : Moment κ) : Option Request :=
  moment.sent?.map fun update ↦ ⟨update.light, moment.now, Body.ofUpdate update⟩

theorem request?_eq_some_iff [Scalar κ] {moment : Moment κ} {request : Request} :
    moment.request? = some request ↔ ∃ update, moment.deed = .sent update ∧
      request = ⟨update.light, moment.now, Body.ofUpdate update⟩ := by
  obtain ⟨now, controller, deed⟩ := moment
  cases deed <;> simp [request?, sent?, eq_comm]

/-- The answer that is taken in for a light. -/
def answerOf? (light : String) (moment : Moment κ) : Option (ℕ × Answer) :=
  match moment.deed with
  | .answered other answer => if other = light then some (moment.now, answer) else none
  | _ => none

end Moment

/-- The instants of events never go back. -/
def Chronological {κ : Type} (events : List (ℕ × ControllerEvent κ)) : Prop :=
  events.Pairwise fun earlier later ↦ earlier.1 ≤ later.1

/-- What lies before the flush that has the turn: the rest of its batch, and the light whose request
it waits for. -/
structure Agenda (κ : Type) where
  batch : List (Update κ) := []
  awaited : Option String := none

namespace Controller

variable {κ : Type}

/-- The agenda of the flush that has the turn, which is empty when none has. -/
def agenda (controller : Controller κ) : Agenda κ :=
  controller.flushing.elim {} fun flush ↦ ⟨flush.batch, flush.awaiting⟩

theorem agenda_of_flushing {controller : Controller κ} {flush : Flush κ}
    (hflushing : controller.flushing = some flush) :
    controller.agenda = ⟨flush.batch, flush.awaiting⟩ := by
  rw [agenda, hflushing]
  rfl

theorem agenda_of_free {controller : Controller κ} (hfree : controller.flushing = none) :
    controller.agenda = {} := by
  rw [agenda, hfree]
  rfl

@[simp]
theorem agenda_settle (controller : Controller κ) :
    controller.settle.agenda = controller.agenda := by
  unfold settle
  split
  next hflushing => simp [agenda, hflushing]
  next => rfl

@[simp]
theorem interval_settle (controller : Controller κ) :
    controller.settle.interval = controller.interval := by
  unfold settle
  split <;> rfl

@[simp]
theorem backoff_settle (controller : Controller κ) :
    controller.settle.backoff = controller.backoff := by
  unfold settle
  split <;> rfl

@[simp]
theorem lastRequest_settle (controller : Controller κ) :
    controller.settle.lastRequest = controller.lastRequest := by
  unfold settle
  split <;> rfl

/-- What happens at an event, if anything does. -/
def deed? (controller : Controller κ) (now : ℕ) : ControllerEvent κ → Option (Deed κ)
  | .drain =>
    match controller.flushing, controller.waiting with
    | none, owner :: _ => some (.turn owner controller.pending)
    | _, _ => none
  | .slot =>
    match controller.flushing with
    | some ⟨_, update :: _, none⟩ =>
      if now < controller.nextSlot then none
      else if controller.backoff.allows update.light now then some (.sent update)
      else some (.dropped update)
    | _ => none
  | .answer answer =>
    match controller.flushing with
    | some ⟨_, _, some light⟩ => some (.answered light answer)
    | _ => none
  | _ => none

variable [Scalar κ]

/-- What happens in a run, in order. -/
def history (controller : Controller κ) : List (ℕ × ControllerEvent κ) → List (Moment κ)
  | [] => []
  | (now, event) :: rest =>
    ((controller.deed? now event).map (Moment.mk now controller)).toList
      ++ (controller.step now event).1.history rest

/-! ### What an event can do -/

/-- All that an event can do, by what happens at it: the guards under which it does, and what
becomes of the controller. -/
inductive Outcome (controller : Controller κ) (now : ℕ) (event : ControllerEvent κ) :
    Option (Deed κ) → Prop where
  /-- Nothing happens; a flush may be cut off. -/
  | idle (pending : Pending κ) (waiting : List FlushOwner) (flushing : Option (Flush κ))
    (hflushing : flushing = controller.flushing ∨
      flushing = none ∧ ∃ owner, event = .cutOff owner)
    (hstep : controller.step now event = ({ controller with pending, waiting, flushing }, none)) :
    Outcome controller now event none
  | turn (owner : FlushOwner) (waiting : List FlushOwner) (hfree : controller.flushing = none)
    (hstep : controller.step now event =
      (settle { controller with
        pending := [], waiting, flushing := some ⟨owner, controller.pending, none⟩ }, none)) :
    Outcome controller now event (some (.turn owner controller.pending))
  | sent (owner : FlushOwner) (update : Update κ) (rest : List (Update κ))
    (hflushing : controller.flushing = some ⟨owner, update :: rest, none⟩)
    (hslot : controller.nextSlot ≤ now)
    (hopen : controller.backoff.allows update.light now = true)
    (hstep : controller.step now event =
      ({ controller with
        lastRequest := some now, flushing := some ⟨owner, rest, some update.light⟩ },
        some ⟨update.light, now, Body.ofUpdate update⟩)) :
    Outcome controller now event (some (.sent update))
  | dropped (owner : FlushOwner) (update : Update κ) (rest : List (Update κ))
    (hflushing : controller.flushing = some ⟨owner, update :: rest, none⟩)
    (hslot : controller.nextSlot ≤ now)
    (hclosed : controller.backoff.allows update.light now = false)
    (hstep : controller.step now event =
      (settle { controller with flushing := some ⟨owner, rest, none⟩ }, none)) :
    Outcome controller now event (some (.dropped update))
  | answered (owner : FlushOwner) (light : String) (batch : List (Update κ)) (answer : Answer)
    (hflushing : controller.flushing = some ⟨owner, batch, some light⟩)
    (hstep : controller.step now event =
      (settle { controller with
        backoff := controller.backoff.record light answer now
        flushing := some ⟨owner, batch, none⟩ }, none)) :
    Outcome controller now event (some (.answered light answer))

theorem outcome {controller : Controller κ} {now : ℕ} {event : ControllerEvent κ}
    {deed : Option (Deed κ)} (hdeed : controller.deed? now event = deed) :
    Outcome controller now event deed := by
  subst hdeed
  have hunchanged (hidle : controller.deed? now event = none)
      (hstep : controller.step now event = (controller, none)) :
      Outcome controller now event (controller.deed? now event) := by
    rw [hidle]
    exact .idle controller.pending controller.waiting controller.flushing (.inl rfl) hstep
  cases event with
  | queue updates => exact .idle _ _ _ (.inl rfl) rfl
  | ask owner => exact .idle _ _ _ (.inl rfl) rfl
  | discard => exact .idle _ _ _ (.inl rfl) rfl
  | cutOff owner =>
    refine .idle _ _ _ ?_ rfl
    cases hflushing : controller.flushing with
    | none => exact .inl rfl
    | some flush =>
      by_cases howner : flush.owner = owner
      · exact .inr ⟨by simp [Option.filter, howner], owner, rfl⟩
      · exact .inl (by simp [Option.filter, howner])
  | drain =>
    cases hflushing : controller.flushing with
    | some flush =>
      exact hunchanged (by simp [deed?, hflushing]) (by simp [step, drain, hflushing])
    | none =>
      cases hwaiting : controller.waiting with
      | nil =>
        exact hunchanged (by simp [deed?, hflushing, hwaiting])
          (by simp [step, drain, hflushing, hwaiting])
      | cons owner waiting =>
        have hturn : controller.deed? now .drain = some (.turn owner controller.pending) := by
          simp [deed?, hflushing, hwaiting]
        rw [hturn]
        exact .turn owner waiting hflushing (by simp [step, drain, hflushing, hwaiting])
  | slot =>
    rcases hflushing : controller.flushing with _ | ⟨owner, _ | ⟨update, rest⟩, _ | light⟩
    · exact hunchanged (by simp [deed?, hflushing]) (by simp [step, slot, hflushing])
    · exact hunchanged (by simp [deed?, hflushing]) (by simp [step, slot, hflushing])
    · exact hunchanged (by simp [deed?, hflushing]) (by simp [step, slot, hflushing])
    · by_cases hearly : now < controller.nextSlot
      · exact hunchanged (by simp [deed?, hflushing, hearly])
          (by simp [step, slot, hflushing, hearly])
      · have hslot : controller.nextSlot ≤ now := Nat.le_of_not_lt hearly
        cases hgate : controller.backoff.allows update.light now with
        | true =>
          have hsent : controller.deed? now .slot = some (.sent update) := by
            simp [deed?, hflushing, hearly, hgate]
          rw [hsent]
          exact .sent owner update rest hflushing hslot hgate
            (by simp [step, slot, hflushing, hearly, hgate])
        | false =>
          have hdropped : controller.deed? now .slot = some (.dropped update) := by
            simp [deed?, hflushing, hearly, hgate]
          rw [hdropped]
          exact .dropped owner update rest hflushing hslot hgate
            (by simp [step, slot, hflushing, hearly, hgate])
    · exact hunchanged (by simp [deed?, hflushing]) (by simp [step, slot, hflushing])
  | answer answer =>
    rcases hflushing : controller.flushing with _ | ⟨owner, batch, _ | light⟩
    · exact hunchanged (by simp [deed?, hflushing]) (by simp [step, Controller.answer, hflushing])
    · exact hunchanged (by simp [deed?, hflushing]) (by simp [step, Controller.answer, hflushing])
    · have hanswered : controller.deed? now (.answer answer) = some (.answered light answer) := by
        simp [deed?, hflushing]
      rw [hanswered]
      exact .answered owner light batch answer hflushing
        (by simp [step, Controller.answer, hflushing])

/-- When the slot of an update opens, it is sent if its light is open and dropped if not. -/
theorem slot_of_update? (moment : Moment κ) {event : ControllerEvent κ}
    (hdeed : moment.controller.deed? moment.now event = some moment.deed) {update : Update κ}
    (hupdate : moment.update? = some update) :
    moment.controller.nextSlot ≤ moment.now ∧
      moment.deed = if moment.controller.backoff.allows update.light moment.now then .sent update
        else .dropped update := by
  obtain ⟨now, controller, deed⟩ := moment
  have houtcome : Outcome controller now event (some deed) := outcome hdeed
  cases houtcome with
  | turn owner waiting hfree hstep => simp [Moment.update?] at hupdate
  | sent owner first rest hflushing hslot hopen hstep =>
    obtain rfl : first = update := by simpa [Moment.update?] using hupdate
    exact ⟨hslot, by simp [hopen]⟩
  | dropped owner first rest hflushing hslot hclosed hstep =>
    obtain rfl : first = update := by simpa [Moment.update?] using hupdate
    exact ⟨hslot, by simp [hclosed]⟩
  | answered owner light batch answer hflushing hstep => simp [Moment.update?] at hupdate

/-! ### Runs and their histories -/

theorem run_cons (controller : Controller κ) (now : ℕ) (event : ControllerEvent κ)
    (rest : List (ℕ × ControllerEvent κ)) :
    controller.run ((now, event) :: rest) =
      (((controller.step now event).1.run rest).1,
        (controller.step now event).2.toList ++ ((controller.step now event).1.run rest).2) := rfl

theorem run_append (controller : Controller κ) (before after : List (ℕ × ControllerEvent κ)) :
    controller.run (before ++ after) =
      (((controller.run before).1.run after).1,
        (controller.run before).2 ++ ((controller.run before).1.run after).2) := by
  induction before generalizing controller with
  | nil => rfl
  | cons timed rest ih =>
    obtain ⟨now, event⟩ := timed
    rw [List.cons_append, run_cons, run_cons, ih, List.append_assoc]

theorem history_cons (controller : Controller κ) (now : ℕ) (event : ControllerEvent κ)
    (rest : List (ℕ × ControllerEvent κ)) :
    controller.history ((now, event) :: rest) =
      ((controller.deed? now event).map (Moment.mk now controller)).toList
        ++ (controller.step now event).1.history rest := rfl

theorem history_cons_of_idle {controller : Controller κ} {now : ℕ} {event : ControllerEvent κ}
    (hdeed : controller.deed? now event = none) (rest : List (ℕ × ControllerEvent κ)) :
    controller.history ((now, event) :: rest) = (controller.step now event).1.history rest := by
  rw [history_cons, hdeed]
  rfl

theorem history_cons_of_deed {controller : Controller κ} {now : ℕ} {event : ControllerEvent κ}
    {deed : Deed κ} (hdeed : controller.deed? now event = some deed)
    (rest : List (ℕ × ControllerEvent κ)) :
    controller.history ((now, event) :: rest) =
      ⟨now, controller, deed⟩ :: (controller.step now event).1.history rest := by
  rw [history_cons, hdeed]
  rfl

/-- The request that an event starts is the one of the moment it makes. -/
theorem step_request (controller : Controller κ) (now : ℕ) (event : ControllerEvent κ) :
    (controller.step now event).2 =
      ((controller.deed? now event).map (Moment.mk now controller)).bind Moment.request? := by
  generalize hdeed : controller.deed? now event = deed
  cases outcome hdeed with
  | idle pending waiting flushing hflushing hstep => rw [hstep]; rfl
  | turn owner waiting hfree hstep => rw [hstep]; rfl
  | sent owner update rest hflushing hslot hopen hstep => rw [hstep]; rfl
  | dropped owner update rest hflushing hslot hclosed hstep => rw [hstep]; rfl
  | answered owner light batch answer hflushing hstep => rw [hstep]; rfl

/-- The requests of a run are those of its history. -/
theorem requests_run (controller : Controller κ) (events : List (ℕ × ControllerEvent κ)) :
    (controller.run events).2 = (controller.history events).filterMap Moment.request? := by
  induction events generalizing controller with
  | nil => rfl
  | cons timed rest ih =>
    obtain ⟨now, event⟩ := timed
    rw [run_cons, history_cons, List.filterMap_append, ih, step_request]
    cases controller.deed? now event with
    | none => rfl
    | some deed => cases hrequest : (Moment.mk now controller deed).request? <;> simp [hrequest]

/-- A moment of a history cuts the run in two: the moments before it are the history of what comes
before, and the moments after it that of what comes after. -/
theorem history_split {controller : Controller κ} {events : List (ℕ × ControllerEvent κ)}
    {earlier later : List (Moment κ)} {moment : Moment κ}
    (hhistory : controller.history events = earlier ++ moment :: later) :
    ∃ before event after, events = before ++ (moment.now, event) :: after ∧
      controller.history before = earlier ∧ moment.controller = (controller.run before).1 ∧
      moment.controller.deed? moment.now event = some moment.deed ∧
      later = (moment.controller.step moment.now event).1.history after := by
  induction events generalizing controller earlier with
  | nil => simp [history] at hhistory
  | cons timed rest ih =>
    obtain ⟨now, event⟩ := timed
    cases hdeed : controller.deed? now event with
    | none =>
      rw [history_cons_of_idle hdeed] at hhistory
      obtain ⟨before, next, after, rfl, hearlier, hcontroller, hnext, hlater⟩ := ih hhistory
      refine ⟨(now, event) :: before, next, after, rfl, ?_, hcontroller, hnext, hlater⟩
      rw [history_cons_of_idle hdeed, hearlier]
    | some deed =>
      rw [history_cons_of_deed hdeed] at hhistory
      cases earlier with
      | nil =>
        obtain ⟨rfl, rfl⟩ := List.cons.inj hhistory
        exact ⟨[], event, rest, rfl, rfl, rfl, hdeed, rfl⟩
      | cons first others =>
        obtain ⟨rfl, hothers⟩ := List.cons.inj hhistory
        obtain ⟨before, next, after, rfl, hearlier, hcontroller, hnext, hlater⟩ := ih hothers
        refine ⟨(now, event) :: before, next, after, rfl, ?_, hcontroller, hnext, hlater⟩
        rw [history_cons_of_deed hdeed, hearlier]

/-- A bound on the instants of the events is a bound on those of the moments. -/
theorem le_now_of_mem_history {controller : Controller κ} {events : List (ℕ × ControllerEvent κ)}
    {bound : ℕ} (hbound : ∀ timed ∈ events, bound ≤ timed.1) {moment : Moment κ}
    (hmoment : moment ∈ controller.history events) : bound ≤ moment.now := by
  obtain ⟨earlier, later, hhistory⟩ := List.append_of_mem hmoment
  obtain ⟨before, event, after, hevents, -⟩ := history_split hhistory
  exact hbound (moment.now, event) (by simp [hevents])

end Controller

end LightShow
