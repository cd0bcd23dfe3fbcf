import LightShow.Proofs.Bridge.PendingQueue
import Mathlib.Logic.Function.Basic

/-!
# Coalescing keeps the meaning of updates

A bridge holds a state for each light, and a body overwrites the fields it has of one light. Sending
the queue, in which the updates of a light have been merged, leaves a bridge in the state that
sending every update as it arrived would have left it in (`takeAll_addAll`).

The comparison is made light by light. Updates of other lights do not touch a light, so what a
bridge holds of it is a fold over its own updates (`takeAll_apply`). Turning an update into a body
goes through merging (`applyTo_ofUpdate_merge`), so that fold is the one merged body applied once
(`foldl_applyTo`).
-/

set_option autoImplicit false

namespace LightShow

/-- What a bridge holds of each light, as far as it has been set. -/
abbrev BridgeState := String → Body

/-- The body of a merged update does what the two bodies do one after the other. -/
theorem Body.applyTo_ofUpdate_merge {κ : Type} [Scalar κ] (older newer : Update κ) (state : Body) :
    (Body.ofUpdate (older.merge newer)).applyTo state =
      (Body.ofUpdate newer).applyTo ((Body.ofUpdate older).applyTo state) := by
  simp only [Body.applyTo, Body.ofUpdate, Update.merge, Option.map_or, Option.or_assoc]

namespace BridgeState

variable {κ : Type} [Scalar κ]

/-- A bridge takes a body for a light. -/
def take (bridge : BridgeState) (light : String) (body : Body) : BridgeState :=
  Function.update bridge light (body.applyTo (bridge light))

/-- A bridge takes the bodies of updates one after another. -/
def takeAll (bridge : BridgeState) (updates : List (Update κ)) : BridgeState :=
  updates.foldl (fun state update ↦ state.take update.light (Body.ofUpdate update)) bridge

/-- Only the updates of a light change what a bridge holds of it. -/
theorem takeAll_apply (bridge : BridgeState) (updates : List (Update κ)) (light : String) :
    bridge.takeAll updates light =
      (Update.ofLight light updates).foldl
        (fun state update ↦ (Body.ofUpdate update).applyTo state) (bridge light) := by
  induction updates generalizing bridge with
  | nil => rfl
  | cons update rest ih =>
    have hstep : bridge.takeAll (update :: rest) =
        (bridge.take update.light (Body.ofUpdate update)).takeAll rest := rfl
    rw [hstep, ih]
    by_cases hlight : update.light = light
    · simp [Update.ofLight, take, hlight]
    · simp [Update.ofLight, take, hlight, Function.update_of_ne (Ne.symm hlight)]

/-- Bodies of one light applied one after another do what the body of the merged update does. -/
theorem foldl_applyTo (updates : List (Update κ)) (state : Body) :
    updates.foldl (fun state update ↦ (Body.ofUpdate update).applyTo state) state =
      (updates.foldl Pending.absorb none).elim state
        fun merged ↦ (Body.ofUpdate merged).applyTo state := by
  induction updates using List.reverseRecOn with
  | nil => rfl
  | append_singleton earlier update ih =>
    rw [List.foldl_append, List.foldl_append, ih]
    cases earlier.foldl Pending.absorb none with
    | none => rfl
    | some merged => exact (Body.applyTo_ofUpdate_merge merged update state).symm

/-- The queue built from updates brings a bridge to the state that the updates themselves do. -/
theorem takeAll_addAll (bridge : BridgeState) (updates : List (Update κ)) :
    bridge.takeAll (Pending.addAll [] updates) = bridge.takeAll updates := by
  funext light
  have hnodup : (Pending.addAll [] updates).lights.Nodup :=
    Pending.nodup_lights_addAll [] List.nodup_nil updates
  have hqueued : (Pending.addAll [] updates).queued? light =
      (Update.ofLight light updates).foldl Pending.absorb none :=
    Pending.queued?_addAll [] updates light
  rw [takeAll_apply, takeAll_apply, Pending.ofLight_eq_toList hnodup, hqueued,
    foldl_applyTo (Update.ofLight light updates)]
  cases (Update.ofLight light updates).foldl Pending.absorb none <;> rfl

end BridgeState

namespace Controller

variable {κ : Type} [Scalar κ]

/-- At every point of a run, the queue brings any bridge to the state that the updates which arrived
since it was last emptied would have brought it to one by one, and a flush that takes its turn there
takes that queue as its batch. -/
theorem takeAll_pending_eq_takeAll_arrivals (interval : ℕ) (events : List (ℕ × ControllerEvent κ))
    (bridge : BridgeState) :
    let start : Controller κ := { interval }
    let reached := (start.run events).1
    bridge.takeAll reached.pending = bridge.takeAll (start.arrivals [] events) ∧
    ∀ now flush, reached.flushing = none → (reached.step now .drain).1.flushing = some flush →
      flush.batch = reached.pending := by
  intro start reached
  refine ⟨?_, ?_⟩
  · have hpending : reached.pending = Pending.addAll [] (start.arrivals [] events) :=
      run_pending start [] rfl events
    rw [hpending]
    exact bridge.takeAll_addAll (start.arrivals [] events)
  · intro now flush hfree hflush
    cases hwaiting : reached.waiting with
    | nil => simp [step, drain, hfree, hwaiting] at hflush
    | cons owner waiting =>
      simp only [step, drain, hfree, hwaiting, settle] at hflush
      split at hflush
      · simp at hflush
      · simp only [Option.some.injEq] at hflush
        rw [← hflush]

/-- Three updates arrive, two of which are merged, and a flush takes its turn. -/
theorem takeAll_pending_eq_takeAll_arrivals_merged :
    let dim : Update Rat := { light := "a", brightness := some 1, transition := some 4 }
    let dark : Update Rat := { light := "a", brightness := some 0 }
    let start : Controller Rat := { interval := 100 }
    let reached := (start.run [(0, .queue [dim, { light := "b" }, dark]), (3, .ask .caller)]).1
    let bridge : BridgeState := fun _ ↦ {}
    reached.pending.length = 2 ∧
    bridge.takeAll reached.pending = bridge.takeAll [dim, { light := "b" }, dark] ∧
    ∃ flush, (reached.step 5 .drain).1.flushing = some flush ∧ flush.batch = reached.pending := by
  intro dim dark start reached bridge
  obtain ⟨hbridge, hbatch⟩ := takeAll_pending_eq_takeAll_arrivals 100
    [(0, .queue [dim, { light := "b" }, dark]), (3, .ask .caller)] bridge
  exact ⟨rfl, hbridge, _, rfl, hbatch 5 _ rfl rfl⟩

end Controller

end LightShow
