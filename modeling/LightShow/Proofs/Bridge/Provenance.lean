import LightShow.Proofs.Bridge.History
import LightShow.Proofs.Bridge.PendingQueue
import Mathlib.Data.List.Infix

/-!
# Where the requests of a bridge controller come from

What a controller holds, in its queue and in the batch of the flush that has the turn, is merged
from updates that arrived one right after another (`FedBy`). An event keeps that (`FedBy.step`) and
starts a request only for an update of the batch (`exists_mem_batch_of_request`), so every request
of a run carries an update merged from the arrivals (`FedBy.exists_mergedFrom`). A controller that
holds nothing at first has no other source.
-/

set_option autoImplicit false

namespace LightShow

variable {κ : Type}

/-- An update that a queue holds after some of the arrivals, taken one right after another. -/
def Update.MergedFrom (arrived : List (Update κ)) (update : Update κ) : Prop :=
  ∃ segment, segment <:+: arrived ∧ update ∈ Pending.addAll [] segment

theorem Update.MergedFrom.append {arrived : List (Update κ)} {update : Update κ}
    (hmerged : update.MergedFrom arrived) (more : List (Update κ)) :
    update.MergedFrom (arrived ++ more) := by
  obtain ⟨segment, hsegment, hmem⟩ := hmerged
  exact ⟨segment, hsegment.trans (List.prefix_append arrived more).isInfix, hmem⟩

namespace Controller

/-- All that the controller holds was merged from what arrived. -/
structure FedBy (controller : Controller κ) (arrived : List (Update κ)) : Prop where
  pending : ∃ segment, segment <:+ arrived ∧ controller.pending = Pending.addAll [] segment
  batch : ∀ update ∈ controller.agenda.batch, update.MergedFrom arrived

theorem fedBy_nil {controller : Controller κ} (hpending : controller.pending = [])
    (hfree : controller.flushing = none) : controller.FedBy [] where
  pending := ⟨[], List.suffix_rfl, hpending⟩
  batch := by
    intro update hupdate
    rw [agenda_of_free hfree] at hupdate
    exact absurd hupdate List.not_mem_nil

theorem FedBy.mergedFrom_of_mem_pending {controller : Controller κ} {arrived : List (Update κ)}
    (hfed : controller.FedBy arrived) {update : Update κ} (hupdate : update ∈ controller.pending) :
    update.MergedFrom arrived := by
  obtain ⟨segment, hsegment, hpending⟩ := hfed.pending
  rw [hpending] at hupdate
  exact ⟨segment, hsegment.isInfix, hupdate⟩

variable [Scalar κ]

/-- The batch after an event comes from the batch before it or from the queue. -/
theorem mem_batch_step {controller : Controller κ} {now : ℕ} {event : ControllerEvent κ}
    {update : Update κ} (hupdate : update ∈ (controller.step now event).1.agenda.batch) :
    update ∈ controller.agenda.batch ∨ update ∈ controller.pending := by
  generalize hdeed : controller.deed? now event = deed
  cases outcome hdeed with
  | idle pending waiting flushing hflushing hstep =>
    rw [hstep] at hupdate
    rcases hflushing with rfl | ⟨rfl, -⟩
    · exact Or.inl hupdate
    · exact absurd hupdate List.not_mem_nil
  | turn owner waiting hfree hstep =>
    rw [hstep, agenda_settle, agenda_of_flushing rfl] at hupdate
    exact Or.inr hupdate
  | sent owner first rest hflushing hslot hopen hstep =>
    rw [hstep, agenda_of_flushing rfl] at hupdate
    rw [agenda_of_flushing hflushing]
    exact Or.inl (List.mem_cons_of_mem first hupdate)
  | dropped owner first rest hflushing hslot hclosed hstep =>
    rw [hstep, agenda_settle, agenda_of_flushing rfl] at hupdate
    rw [agenda_of_flushing hflushing]
    exact Or.inl (List.mem_cons_of_mem first hupdate)
  | answered owner light batch answer hflushing hstep =>
    rw [hstep, agenda_settle, agenda_of_flushing rfl] at hupdate
    rw [agenda_of_flushing hflushing]
    exact Or.inl hupdate

theorem FedBy.step {controller : Controller κ} {arrived : List (Update κ)}
    (hfed : controller.FedBy arrived) (now : ℕ) (event : ControllerEvent κ) :
    (controller.step now event).1.FedBy (arrived ++ event.updates) where
  pending := by
    rw [step_pending]
    split_ifs with hempties
    · exact ⟨[], List.nil_suffix, rfl⟩
    · obtain ⟨segment, ⟨earlier, hearlier⟩, hpending⟩ := hfed.pending
      refine ⟨segment ++ event.updates, ⟨earlier, by rw [← hearlier, List.append_assoc]⟩, ?_⟩
      rw [hpending]
      exact (List.foldl_append ..).symm
  batch := by
    intro update hupdate
    apply Update.MergedFrom.append
    rcases mem_batch_step hupdate with hbatch | hpending
    · exact hfed.batch update hbatch
    · exact hfed.mergedFrom_of_mem_pending hpending

/-- A request is started for the first update of the batch. -/
theorem exists_mem_batch_of_request {controller : Controller κ} {now : ℕ}
    {event : ControllerEvent κ} {request : Request}
    (hrequest : request ∈ (controller.step now event).2) :
    request.start = now ∧ ∃ update ∈ controller.agenda.batch,
      request.light = update.light ∧ request.body = Body.ofUpdate update := by
  generalize hdeed : controller.deed? now event = deed
  cases outcome hdeed with
  | idle pending waiting flushing hflushing hstep => simp [hstep] at hrequest
  | turn owner waiting hfree hstep => simp [hstep] at hrequest
  | sent owner update rest hflushing hslot hopen hstep =>
    obtain rfl : request = ⟨update.light, now, Body.ofUpdate update⟩ := by
      simpa [hstep, eq_comm] using hrequest
    rw [agenda_of_flushing hflushing]
    exact ⟨rfl, update, List.mem_cons_self, rfl, rfl⟩
  | dropped owner update rest hflushing hslot hclosed hstep => simp [hstep] at hrequest
  | answered owner light batch answer hflushing hstep => simp [hstep] at hrequest

/-- Every request of a run carries an update merged from the arrivals. -/
theorem FedBy.exists_mergedFrom {controller : Controller κ} {arrived : List (Update κ)}
    (hfed : controller.FedBy arrived) {events : List (ℕ × ControllerEvent κ)} {request : Request}
    (hrequest : request ∈ (controller.run events).2) :
    ∃ update : Update κ, update.MergedFrom (arrived ++ events.flatMap (·.2.updates)) ∧
      request.light = update.light ∧ request.body = Body.ofUpdate update := by
  induction events generalizing controller arrived with
  | nil => exact absurd hrequest List.not_mem_nil
  | cons timed rest ih =>
    obtain ⟨now, event⟩ := timed
    rw [run_cons, List.mem_append, Option.mem_toList] at hrequest
    rcases hrequest with hnow | hlater
    · obtain ⟨-, update, hupdate, hlight, hbody⟩ := exists_mem_batch_of_request hnow
      exact ⟨update, (hfed.batch update hupdate).append _, hlight, hbody⟩
    · rw [List.flatMap_cons, ← List.append_assoc]
      exact ih (hfed.step now event) hlater

theorem pending_step_eq_nil {controller : Controller κ} (hpending : controller.pending = [])
    (now : ℕ) {event : ControllerEvent κ} (hqueued : event.updates = []) :
    (controller.step now event).1.pending = [] := by
  rw [step_pending, hpending, hqueued]
  exact ite_self []

theorem pending_run_eq_nil {controller : Controller κ} (hpending : controller.pending = [])
    {events : List (ℕ × ControllerEvent κ)} (hqueued : events.flatMap (·.2.updates) = []) :
    (controller.run events).1.pending = [] := by
  induction events generalizing controller with
  | nil => exact hpending
  | cons timed rest ih =>
    obtain ⟨hevent, hrest⟩ := List.append_eq_nil_iff.mp hqueued
    exact ih (pending_step_eq_nil hpending timed.1 hevent) hrest

/-- Where nothing is queued, every request of a run is for an update of the batch at its
beginning. -/
theorem exists_mem_batch_of_mem_run {controller : Controller κ}
    (hpending : controller.pending = []) {events : List (ℕ × ControllerEvent κ)}
    (hqueued : events.flatMap (·.2.updates) = []) {request : Request}
    (hrequest : request ∈ (controller.run events).2) :
    (∃ timed ∈ events, request.start = timed.1) ∧ ∃ update ∈ controller.agenda.batch,
      request.light = update.light ∧ request.body = Body.ofUpdate update := by
  induction events generalizing controller with
  | nil => exact absurd hrequest List.not_mem_nil
  | cons timed rest ih =>
    obtain ⟨now, event⟩ := timed
    obtain ⟨hevent, hrest⟩ := List.append_eq_nil_iff.mp hqueued
    rw [run_cons, List.mem_append, Option.mem_toList] at hrequest
    rcases hrequest with hnow | hlater
    · obtain ⟨hstart, hbatch⟩ := exists_mem_batch_of_request hnow
      exact ⟨⟨_, List.mem_cons_self, hstart⟩, hbatch⟩
    · have hempty := pending_step_eq_nil hpending now hevent
      obtain ⟨⟨timed, htimed, hstart⟩, update, hupdate, hcarried⟩ := ih hempty hrest hlater
      refine ⟨⟨timed, List.mem_cons_of_mem _ htimed, hstart⟩, update, ?_, hcarried⟩
      rcases mem_batch_step hupdate with hbatch | hqueue
      · exact hbatch
      · rw [hpending] at hqueue
        exact absurd hqueue List.not_mem_nil

end Controller

end LightShow
