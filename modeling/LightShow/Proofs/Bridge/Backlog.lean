import LightShow.Proofs.Bridge.History
import LightShow.Proofs.Bridge.PendingQueue
import LightShow.Proofs.Light.RouterLights
import Mathlib.Data.Finset.Card

/-!
# The backlog of a bridge behind a router

A router hands on any number of updates, and the queue of a bridge controller knows no table. Behind
a router the queue is bounded nevertheless: what is queued has arrived (`mem_arrivals`), what a
router hands on is for lights that its table drives through the bridge (`get?_of_mem_forwarded`),
and the queue holds every light once. So the queue never outgrows those lights.
-/

set_option autoImplicit false

namespace LightShow

/-- What can happen to a bridge controller behind a router. -/
inductive FeedEvent (κ : Type) where
  /-- A frame is routed. -/
  | frame (frame : Frame κ)
  /-- Anything happens that brings no updates: flushes, answers, stops. -/
  | other (event : ControllerEvent κ) (hquiet : event.updates = [])

variable {κ : Type}

namespace Router

/-- What the bridge controller behind a router gets of an event. -/
def forwarded (router : Router) : FeedEvent κ → List (ControllerEvent κ)
  | .frame frame => (router.route frame).bridge.toList.map .queue
  | .other event _ => [event]

/-- What the bridge controller behind a router gets of a run. -/
def forwardedAll (router : Router) (events : List (ℕ × FeedEvent κ)) :
    List (ℕ × ControllerEvent κ) :=
  events.flatMap fun timed ↦ (router.forwarded timed.2).map fun event ↦ (timed.1, event)

/-- The updates that are handed on are for lights driven through the bridge. -/
theorem get?_of_mem_forwarded {router : Router} {event : FeedEvent κ} {sent : ControllerEvent κ}
    (hsent : sent ∈ router.forwarded event) {update : Update κ} (hupdate : update ∈ sent.updates) :
    router.routes.get? update.light = some .bridge := by
  cases event with
  | frame frame =>
    simp only [forwarded, route, List.mem_map, Option.mem_toList] at hsent
    obtain ⟨requested, hrequested, rfl⟩ := hsent
    have hshare : router.share .bridge frame.updates = requested := by
      split_ifs at hrequested
      exact Option.some.inj hrequested
    have hmem : update ∈ router.share .bridge frame.updates := hshare ▸ hupdate
    simpa using (List.mem_filter.mp hmem).2
  | other event hquiet =>
    obtain rfl : sent = event := List.mem_singleton.mp hsent
    rw [hquiet] at hupdate
    exact absurd hupdate (List.not_mem_nil)

end Router

theorem Pending.mem_lights_addAll (pending : Pending κ) (updates : List (Update κ))
    (light : String) :
    light ∈ (pending.addAll updates).lights ↔
      light ∈ pending.lights ∨ light ∈ updates.map (·.light) := by
  induction updates generalizing pending with
  | nil => simp [addAll]
  | cons update rest ih =>
    have hstep : pending.addAll (update :: rest) = (pending.add update).addAll rest := rfl
    rw [hstep, ih, lights_add, List.map_cons, List.mem_cons, ← or_assoc]
    split_ifs with hqueued
    · constructor
      · exact Or.imp_left .inl
      · rintro ((hmem | rfl) | hmem)
        · exact .inl hmem
        · exact .inl hqueued
        · exact .inr hmem
    · simp

namespace Controller

variable [Scalar κ]

/-- What has arrived came with an event. -/
theorem mem_arrivals {controller : Controller κ} {arrived : List (Update κ)}
    {events : List (ℕ × ControllerEvent κ)} {update : Update κ}
    (hupdate : update ∈ controller.arrivals arrived events) :
    update ∈ arrived ∨ ∃ timed ∈ events, update ∈ timed.2.updates := by
  induction events generalizing controller arrived with
  | nil => exact .inl hupdate
  | cons timed rest ih =>
    obtain ⟨now, event⟩ := timed
    rcases ih hupdate with hkept | ⟨later, hlater, hmem⟩
    · split_ifs at hkept
      · simp at hkept
      · rcases List.mem_append.mp hkept with hold | hnew
        · exact .inl hold
        · exact .inr ⟨(now, event), List.mem_cons_self, hnew⟩
    · exact .inr ⟨later, List.mem_cons_of_mem _ hlater, hmem⟩

/-- A frame is queued by a controller behind a router as far as its lights are driven through the
bridge. -/
theorem pending_forwardedAll_frame {router : Router} (hsink : router.bridges = true)
    (controller : Controller κ) (events : List (ℕ × FeedEvent κ)) (now : ℕ) (frame : Frame κ) :
    (controller.run (router.forwardedAll (events ++ [(now, .frame frame)]))).1.pending =
      (controller.run (router.forwardedAll events)).1.pending.addAll
        (router.share .bridge frame.updates) := by
  have hlast : router.forwardedAll (events ++ [(now, .frame frame)]) =
      router.forwardedAll events ++ (router.route frame).bridge.toList.map
        fun requested ↦ (now, .queue requested) := by
    simp [Router.forwardedAll, Router.forwarded]
  rw [hlast, run_append]
  by_cases hshare : router.share .bridge frame.updates = []
  · have hnone : (router.route frame).bridge = none := by simp [Router.route, hshare]
    rw [hnone, hshare]
    rfl
  · have hsome : (router.route frame).bridge = some (router.share .bridge frame.updates) := by
      simp [Router.route, hsink, hshare]
    rw [hsome]
    rfl

/-- At every point of a run behind a router, the queue holds no more updates than the table has
lights driven through the bridge, and only updates of such lights. After a frame it holds all such
lights that the frame names, so a frame that names all of them fills it. -/
theorem backlog_le_count (router : Router) (interval : ℕ) (events : List (ℕ × FeedEvent κ)) :
    let start : Controller κ := { interval }
    let pending := (start.run (router.forwardedAll events)).1.pending
    pending.length ≤ (router.routes.lights.toFinset.filter fun light ↦
      router.routes.get? light = some .bridge).card ∧
    (∀ queued ∈ pending, router.routes.get? queued.light = some .bridge) ∧
    ∀ now frame, router.bridges = true →
      let after := (start.run (router.forwardedAll (events ++ [(now, .frame frame)]))).1.pending
      ∀ update ∈ frame.updates, router.routes.get? update.light = some .bridge →
        update.light ∈ after.lights := by
  intro start pending
  have hpending : pending = Pending.addAll [] (start.arrivals [] (router.forwardedAll events)) :=
    run_pending start [] rfl _
  have hbridge : ∀ queued ∈ pending, router.routes.get? queued.light = some .bridge := by
    intro queued hqueued
    have hlight : queued.light ∈ pending.lights := List.mem_map_of_mem hqueued
    rw [hpending, Pending.lights_addAll, List.mem_eraseDups, List.mem_map] at hlight
    obtain ⟨update, hupdate, hsame⟩ := hlight
    obtain hnone | ⟨timed, htimed, hmem⟩ := mem_arrivals hupdate
    · simp at hnone
    · obtain ⟨fed, -, hforwarded⟩ := List.mem_flatMap.mp htimed
      obtain ⟨sent, hsent, rfl⟩ := List.mem_map.mp hforwarded
      rw [← hsame]
      exact Router.get?_of_mem_forwarded hsent hmem
  refine ⟨?_, hbridge, ?_⟩
  · have hnodup : pending.lights.Nodup := by
      rw [hpending]
      exact Pending.nodup_lights_addAll [] List.nodup_nil _
    have hcounted : pending.lights.toFinset ⊆ router.routes.lights.toFinset.filter fun light ↦
        router.routes.get? light = some .bridge := by
      intro light hlight
      obtain ⟨queued, hqueued, rfl⟩ := List.mem_map.mp (List.mem_toFinset.mp hlight)
      have hroute := hbridge queued hqueued
      have hknown := (router.routes.mem_lights_iff queued.light).mpr ⟨_, hroute⟩
      exact Finset.mem_filter.mpr ⟨List.mem_toFinset.mpr hknown, hroute⟩
    calc pending.length = pending.lights.length := (List.length_map _).symm
      _ = pending.lights.toFinset.card := (List.toFinset_card_of_nodup hnodup).symm
      _ ≤ _ := Finset.card_le_card hcounted
  · intro now frame hsink after update hupdate hdriven
    have hshare : update ∈ router.share .bridge frame.updates :=
      List.mem_filter.mpr ⟨hupdate, by simpa using hdriven⟩
    have hafter : after = pending.addAll (router.share .bridge frame.updates) :=
      pending_forwardedAll_frame hsink start events now frame
    rw [hafter, Pending.mem_lights_addAll]
    exact .inr (List.mem_map_of_mem hshare)

/-- Two of three lights are driven through the bridge. Frames that name a light twice, a streamed
one and an unknown one are routed before and after a flush takes its turn. -/
theorem backlog_le_count_crowded :
    let router : Router :=
      { routes := .ofList [("a", .bridge), ("b", .stream), ("c", .bridge)], bridges := true }
    let frame : Frame Rat :=
      ⟨[{ light := "c" }, { light := "x" }, { light := "a" }, { light := "b" }, { light := "c" }],
        0, none⟩
    let start : Controller Rat := { interval := 100 }
    let events : List (ℕ × FeedEvent Rat) := [(0, .frame frame), (5, .other (.ask .task) rfl),
      (5, .other .drain rfl), (9, .frame frame), (20, .frame frame)]
    let pending := (start.run (router.forwardedAll events)).1.pending
    pending.length ≤ 2 ∧ pending.length = 2 ∧
    ∀ light ∈ ["a", "c"], router.routes.get? light = some .bridge ∧
      light ∈
        (start.run (router.forwardedAll (events ++ [(30, .frame frame)]))).1.pending.lights := by
  intro router frame start events pending
  obtain ⟨hle, -, hnamed⟩ := backlog_le_count router 100 events
  have hqueued := hnamed 30 frame rfl
  refine ⟨hle, by decide +kernel, ?_⟩
  intro light hlight
  have hbridge : router.routes.get? light = some .bridge := by
    revert light
    decide
  refine ⟨hbridge, ?_⟩
  rcases List.mem_pair.mp hlight with rfl | rfl
  · exact hqueued { light := "a" } (by decide) hbridge
  · exact hqueued { light := "c" } (by decide) hbridge

end Controller

end LightShow
