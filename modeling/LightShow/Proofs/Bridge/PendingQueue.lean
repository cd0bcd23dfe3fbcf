import LightShow.Bridge.Controller
import Mathlib.Data.List.Induction
import Mathlib.Data.List.Nodup

/-!
# The queue of the bridge controller over whole runs

The queue is built update by update: an update of a light that is queued is merged in place, any
other goes to the end. What the queue holds after a run is said without merging anything, from the
updates that have arrived since it was last emptied (`arrivals`). Its lights are those of the
arrivals in the order of their first arrival (`lights_addAll`), and a field of a queued update is
the latest one that arrived for its light (`field_of_mem_addAll`).

Both are read off one look-up: what is queued for a light is a fold over the updates of that light
alone (`queued?_addAll`), so neither the cut into calls nor the updates of other lights play a part.
One event of the controller empties the queue or adds to it (`step_pending`), and the queue after a
run is the one built from the arrivals (`run_pending`).
-/

set_option autoImplicit false

namespace LightShow

namespace Update

variable {κ : Type}

@[simp]
theorem light_merge (older newer : Update κ) : (older.merge newer).light = older.light := rfl

/-- The updates of one light, in order. -/
def ofLight (light : String) (updates : List (Update κ)) : List (Update κ) :=
  updates.filter fun update ↦ update.light = light

/-- The field of the latest update of a light in which it is present. -/
def latest {β : Type} (field : Update κ → Option β) (light : String)
    (updates : List (Update κ)) : Option β :=
  (ofLight light updates).reverse.findSome? field

end Update

namespace Pending

variable {κ : Type}

/-- The lights of the queue, in order. -/
def lights (pending : Pending κ) : List String :=
  pending.map (·.light)

/-- What is queued for a light. -/
def queued? (pending : Pending κ) (light : String) : Option (Update κ) :=
  pending.find? fun update ↦ update.light = light

/-- What is queued for a light after one more update of that light. -/
def absorb (queued : Option (Update κ)) (update : Update κ) : Option (Update κ) :=
  some (queued.elim update (·.merge update))

/-! ### What is queued for one light -/

theorem queued?_add (pending : Pending κ) (update : Update κ) (light : String) :
    (pending.add update).queued? light =
      if update.light = light then absorb (pending.queued? light) update
      else pending.queued? light := by
  induction pending with
  | nil => by_cases hlight : update.light = light <;> simp [add, queued?, absorb, hlight]
  | cons queued rest ih =>
    unfold queued? at ih ⊢
    by_cases hsame : queued.light = update.light
    · by_cases hlight : update.light = light <;> simp [add, absorb, hsame, hlight]
    · by_cases hlight : queued.light = light
      · have hother : update.light ≠ light := fun h ↦ hsame (hlight.trans h.symm)
        simp [add, hlight, hother, Ne.symm hother]
      · simp [add, hsame, hlight, ih]

/-- What is queued for a light is a fold over the updates of that light alone. -/
theorem queued?_addAll (pending : Pending κ) (updates : List (Update κ)) (light : String) :
    (pending.addAll updates).queued? light =
      (Update.ofLight light updates).foldl absorb (pending.queued? light) := by
  induction updates generalizing pending with
  | nil => rfl
  | cons update rest ih =>
    have hstep : (pending.addAll (update :: rest)) = (pending.add update).addAll rest := rfl
    rw [hstep, ih, queued?_add]
    by_cases hlight : update.light = light <;> simp [Update.ofLight, hlight]

/-- Merging one after another keeps the latest present value of a field. -/
theorem bind_foldl_absorb {β : Type} (field : Update κ → Option β)
    (hmerge : ∀ older newer, field (older.merge newer) = (field newer).or (field older))
    (updates : List (Update κ)) :
    (updates.foldl absorb none).bind field = updates.reverse.findSome? field := by
  induction updates using List.reverseRecOn with
  | nil => rfl
  | append_singleton earlier update ih =>
    rw [List.foldl_append, List.reverse_append, List.findSome?_append, ← ih]
    cases hqueued : earlier.foldl absorb none with
    | none => simp [absorb]
    | some queued => simp [absorb, hmerge]

/-! ### The lights of the queue -/

theorem lights_add (pending : Pending κ) (update : Update κ) :
    (pending.add update).lights =
      if update.light ∈ pending.lights then pending.lights
      else pending.lights ++ [update.light] := by
  induction pending with
  | nil => simp [add, lights]
  | cons queued rest ih =>
    unfold lights at ih ⊢
    by_cases hsame : queued.light = update.light
    · simp [add, hsame]
    · have hother : update.light ≠ queued.light := Ne.symm hsame
      simp only [add, hsame, if_false, List.map_cons, ih, List.mem_cons, hother, false_or]
      split_ifs <;> simp

theorem nodup_lights_add {pending : Pending κ} (hpending : pending.lights.Nodup)
    (update : Update κ) : (pending.add update).lights.Nodup := by
  rw [lights_add]
  split_ifs with hmem
  · exact hpending
  · exact List.concat_eq_append ▸ hpending.concat hmem

theorem nodup_lights_addAll (pending : Pending κ) (hpending : pending.lights.Nodup)
    (updates : List (Update κ)) : (pending.addAll updates).lights.Nodup := by
  induction updates generalizing pending with
  | nil => exact hpending
  | cons update rest ih => exact ih (pending.add update) (nodup_lights_add hpending update)

/-- The lights of a queue stand in the order of their first arrival. -/
theorem lights_addAll (updates : List (Update κ)) :
    (addAll [] updates).lights = (updates.map (·.light)).eraseDups := by
  induction updates using List.reverseRecOn with
  | nil => rfl
  | append_singleton earlier update ih =>
    have hstep : addAll [] (earlier ++ [update]) = (addAll [] earlier).add update := by
      simp [addAll]
    rw [hstep, lights_add, ih, List.map_append, List.eraseDups_append]
    simp only [List.mem_eraseDups, List.map_cons, List.map_nil, List.cons_removeAll,
      List.nil_removeAll]
    by_cases hmem : update.light ∈ earlier.map (·.light)
    · simp [hmem]
    · simp [hmem, List.eraseDups_cons]

/-- In a queue without repeated lights, what is queued for a light are all its updates. -/
theorem ofLight_eq_toList {pending : Pending κ} (hpending : pending.lights.Nodup)
    (light : String) : Update.ofLight light pending = (pending.queued? light).toList := by
  induction pending with
  | nil => rfl
  | cons queued rest ih =>
    obtain ⟨hfresh, hrest⟩ := List.nodup_cons.mp hpending
    have htail := ih hrest
    unfold Update.ofLight queued? at htail ⊢
    by_cases hlight : queued.light = light
    · have hnone : rest.filter (fun update ↦ update.light = light) = [] := by
        refine List.filter_eq_nil_iff.mpr fun update hmem hsame ↦ hfresh ?_
        rw [decide_eq_true_eq] at hsame
        exact List.mem_map.mpr ⟨update, hmem, hsame.trans hlight.symm⟩
      simp [hlight, hnone]
    · simp [hlight, htail]

theorem queued?_of_mem {pending : Pending κ} (hpending : pending.lights.Nodup)
    {update : Update κ} (hmem : update ∈ pending) :
    pending.queued? update.light = some update := by
  have hown : update ∈ Update.ofLight update.light pending := by simp [Update.ofLight, hmem]
  rw [ofLight_eq_toList hpending] at hown
  exact Option.mem_toList.mp hown

theorem field_of_mem_addAll {β : Type} (field : Update κ → Option β)
    (hmerge : ∀ older newer, field (older.merge newer) = (field newer).or (field older))
    (updates : List (Update κ)) {queued : Update κ} (hmem : queued ∈ addAll [] updates) :
    field queued = Update.latest field queued.light updates := by
  have hnodup : (addAll [] updates).lights.Nodup := nodup_lights_addAll [] List.nodup_nil updates
  have hfound := queued?_of_mem hnodup hmem
  rw [queued?_addAll] at hfound
  have hfold : (Update.ofLight queued.light updates).foldl absorb none = some queued := hfound
  rw [Update.latest, ← bind_foldl_absorb field hmerge, hfold, Option.bind_some]

end Pending

/-! ### Runs of the controller -/

/-- The updates that come with an event. -/
def ControllerEvent.updates {κ : Type} : ControllerEvent κ → List (Update κ)
  | .queue updates => updates
  | _ => []

namespace Controller

variable {κ : Type}

/-- Whether an event empties the queue: a flush does when it takes its turn, and a stop does. -/
def empties (controller : Controller κ) : ControllerEvent κ → Bool
  | .drain => controller.flushing.isNone && !controller.waiting.isEmpty
  | .discard => true
  | _ => false

@[simp]
theorem pending_settle (controller : Controller κ) :
    controller.settle.pending = controller.pending := by
  unfold settle
  split <;> rfl

variable [Scalar κ]

/-- The updates that have arrived since the queue was last emptied, in order of arrival, when
`arrived` had before the run. -/
def arrivals (controller : Controller κ) (arrived : List (Update κ)) :
    List (ℕ × ControllerEvent κ) → List (Update κ)
  | [] => arrived
  | (now, event) :: rest =>
    (controller.step now event).1.arrivals
      (if controller.empties event then [] else arrived ++ event.updates) rest

/-- An event empties the queue or adds its updates to it. -/
theorem step_pending (controller : Controller κ) (now : ℕ) (event : ControllerEvent κ) :
    (controller.step now event).1.pending =
      if controller.empties event then [] else controller.pending.addAll event.updates := by
  cases event with
  | queue updates => rfl
  | ask owner => rfl
  | drain =>
    cases hflushing : controller.flushing with
    | none => cases hwaiting : controller.waiting <;> simp [step, drain, empties,
        ControllerEvent.updates, Pending.addAll, hflushing, hwaiting]
    | some flush => simp [step, drain, empties, ControllerEvent.updates, Pending.addAll, hflushing]
  | slot =>
    have hslot : (controller.slot now).1.pending = controller.pending := by
      unfold slot
      split
      · split_ifs <;> simp
      · rfl
    exact hslot
  | answer answer =>
    have hanswer : (controller.answer now answer).pending = controller.pending := by
      unfold Controller.answer
      split <;> simp
    exact hanswer
  | cutOff owner => rfl
  | discard => rfl

/-- The queue after a run is the one built from the arrivals. -/
theorem run_pending (controller : Controller κ) (arrived : List (Update κ))
    (hpending : controller.pending = Pending.addAll [] arrived)
    (events : List (ℕ × ControllerEvent κ)) :
    (controller.run events).1.pending =
      Pending.addAll [] (controller.arrivals arrived events) := by
  induction events generalizing controller arrived with
  | nil => exact hpending
  | cons timed rest ih =>
    obtain ⟨now, event⟩ := timed
    refine ih (controller.step now event).1 _ ?_
    rw [step_pending, hpending]
    split_ifs
    · rfl
    · exact (List.foldl_append ..).symm

/-- At every point of a run, the queue has at most one update of a light, its lights stand in the
order in which they first arrived since it was last emptied, and every field of a queued update is
the latest one that arrived for its light. What is queued for a light is the same after any other
run in which the same updates of that light have arrived. -/
theorem pending_of_arrivals (interval : ℕ) (events : List (ℕ × ControllerEvent κ)) :
    let start : Controller κ := { interval }
    let pending := (start.run events).1.pending
    let arrived := start.arrivals [] events
    pending.lights.Nodup ∧
    pending.lights = (arrived.map (·.light)).eraseDups ∧
    (∀ queued ∈ pending,
      queued.brightness = Update.latest (·.brightness) queued.light arrived ∧
      queued.hue = Update.latest (·.hue) queued.light arrived ∧
      queued.saturation = Update.latest (·.saturation) queued.light arrived ∧
      queued.transition = Update.latest (·.transition) queued.light arrived) ∧
    ∀ (otherInterval : ℕ) (otherEvents : List (ℕ × ControllerEvent κ)) (light : String),
      let other : Controller κ := { interval := otherInterval }
      Update.ofLight light (other.arrivals [] otherEvents) = Update.ofLight light arrived →
        (other.run otherEvents).1.pending.queued? light = pending.queued? light := by
  intro start pending arrived
  have hpending : pending = Pending.addAll [] arrived := run_pending start [] rfl events
  refine ⟨?_, ?_, ?_, ?_⟩
  · rw [hpending]
    exact Pending.nodup_lights_addAll [] List.nodup_nil arrived
  · rw [hpending]
    exact Pending.lights_addAll arrived
  · intro queued hqueued
    rw [hpending] at hqueued
    exact ⟨Pending.field_of_mem_addAll _ (fun _ _ ↦ rfl) arrived hqueued,
      Pending.field_of_mem_addAll _ (fun _ _ ↦ rfl) arrived hqueued,
      Pending.field_of_mem_addAll _ (fun _ _ ↦ rfl) arrived hqueued,
      Pending.field_of_mem_addAll _ (fun _ _ ↦ rfl) arrived hqueued⟩
  · intro otherInterval otherEvents light other hsame
    rw [hpending, run_pending other [] rfl otherEvents, Pending.queued?_addAll,
      Pending.queued?_addAll, hsame]

/-- The updates of light `a` are split into calls in two ways, with another light between them in
one of them. -/
theorem pending_of_arrivals_split :
    let dim : Update Rat := { light := "a", brightness := some 1 }
    let slow : Update Rat := { light := "a", brightness := some 2, transition := some 4 }
    let dark : Update Rat := { light := "a", brightness := some 0 }
    let start : Controller Rat := { interval := 100 }
    let calls := [(0, .queue [{ light := "b" }, dim, slow]), (3, .queue [dark])]
    let otherCalls := [(7, .queue [dim]), (7, .queue [slow, dark])]
    let pending := (start.run calls).1.pending
    pending.lights = ["b", "a"] ∧
    (∃ queued ∈ pending, queued.light = "a" ∧
      queued.brightness = Update.latest (·.brightness) "a" [{ light := "b" }, dim, slow, dark] ∧
      queued.transition = Update.latest (·.transition) "a" [{ light := "b" }, dim, slow, dark]) ∧
    (start.run otherCalls).1.pending.queued? "a" = pending.queued? "a" := by
  intro dim slow dark start calls otherCalls pending
  obtain ⟨-, -, hfields, hother⟩ := pending_of_arrivals 100 calls
  have hqueued := hfields { light := "a", brightness := some 0, transition := some 4 } (by decide)
  exact ⟨by decide, ⟨_, by decide, rfl, hqueued.1, hqueued.2.2.2⟩,
    hother 100 otherCalls "a" (by decide)⟩

end Controller

end LightShow
