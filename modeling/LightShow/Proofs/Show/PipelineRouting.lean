import LightShow.Proofs.Effect.EffectLights
import LightShow.Proofs.Light.RouterLights
import LightShow.Show.Pipeline
import Mathlib.Algebra.GroupWithZero.Nat

/-!
# The pipeline serves all lights or none

An effect decides block by block whether it makes updates, but if it makes any, it makes one for
each light it is given, in order (`Effect.lights_step`). A pipeline gives it the lights of its own
router, so the router knows all of them and deals out every update (`Router.length_share_add`), to
each sink in the order of the lights (`Router.lights_share`).

One block leaves router and lights as they are and adds what it reports to the totals
(`stats_process`); over a run the totals are those of the reports (`stats_processAll`).
-/

set_option autoImplicit false

namespace LightShow

/-! ### Routing the updates of all lights -/

/-- How many updates the sinks get. -/
def Routed.received {κ : Type} (routed : Routed κ) : ℕ :=
  routed.stream.elim 0 (·.updates.length) + routed.bridge.elim 0 List.length

namespace Router

variable {κ : Type}

/-- If the updates of a frame are for all lights in order, each share is for all lights of its
transport in order. -/
theorem lights_share {router : Router} {updates : List (Update κ)}
    (hlights : updates.map (·.light) = router.lights) (transport : Transport) :
    (router.share transport updates).map (·.light) = router.driven transport := by
  rw [driven, ← hlights, List.filter_map]
  rfl

/-- If the updates of a frame are for known lights, none of them is dropped. -/
theorem length_share_add {router : Router} {updates : List (Update κ)}
    (hknown : ∀ update ∈ updates, update.light ∈ router.lights) :
    (router.share .stream updates).length + (router.share .bridge updates).length =
      updates.length := by
  have hrest : router.share .bridge updates =
      updates.filter fun update ↦ !decide (router.routes.get? update.light = some .stream) := by
    refine List.filter_congr ?_
    intro update hupdate
    obtain ⟨transport, htransport⟩ := (router.mem_lights update.light).mp (hknown update hupdate)
    cases transport <;> simp [htransport]
  rw [hrest, share]
  exact (List.length_eq_length_filter_add _).symm

end Router

/-- What becomes of a block. -/
inductive Served (router : Router) (timestamp : UInt64) (report : FrameReport) : Prop where
  /-- No sink is called. -/
  | silent (hupdates : report.updates = 0) (hstream : report.routed.stream = none)
    (hbridge : report.routed.bridge = none)
  /-- Every light gets one update, the streamed ones in one frame and the others in one call, in the
  order of the lights. As many updates reach the sinks as the effect made. -/
  | all (streamed requested : List (Update Float))
    (hstreamed : streamed.map (·.light) = router.driven .stream)
    (hrequested : requested.map (·.light) = router.driven .bridge)
    (hstream : report.routed.stream =
      if streamed = [] then none else some ⟨streamed, timestamp, none⟩)
    (hbridge : report.routed.bridge = if requested = [] then none else some requested)
    (hupdates : report.updates = streamed.length + requested.length)

namespace Pipeline

theorem processAll_cons (pipeline : Pipeline) (frame : AudioFrame) (now : Int)
    (rest : List (AudioFrame × Int)) :
    pipeline.processAll ((frame, now) :: rest) =
      (((pipeline.process frame now).1.processAll rest).1,
        (pipeline.process frame now).2 :: ((pipeline.process frame now).1.processAll rest).2) := rfl

theorem stats_process (pipeline : Pipeline) (frame : AudioFrame) (now : Int) :
    let report := (pipeline.process frame now).2
    (pipeline.process frame now).1.stats =
      { frames := pipeline.stats.frames + 1
        beats := pipeline.stats.beats + if report.beat then 1 else 0
        updates := pipeline.stats.updates + UInt64.ofNat report.updates } := rfl

/-- The updates that the effect makes of a block. -/
def made (pipeline : Pipeline) (frame : AudioFrame) (now : Int) : List (Update Float) :=
  (pipeline.effect.step (pipeline.analyzer.analyze frame).2 (pipeline.process frame now).2.beat
    pipeline.lights).2

theorem updates_process (pipeline : Pipeline) (frame : AudioFrame) (now : Int) :
    (pipeline.process frame now).2.updates = (pipeline.made frame now).length := rfl

theorem routed_process (pipeline : Pipeline) (frame : AudioFrame) (now : Int) :
    (pipeline.process frame now).2.routed =
      if (pipeline.made frame now).isEmpty then {}
      else pipeline.router.route ⟨pipeline.made frame now, frame.timestamp, none⟩ := rfl

/-- A pipeline has both sinks and the lights of its router. -/
structure Attached (pipeline : Pipeline) : Prop where
  lights_eq : pipeline.lights = pipeline.router.lights
  streams : pipeline.router.streams = true
  bridges : pipeline.router.bridges = true

theorem attached_of_create {routes : LightTable Transport} {settings : AudioSettings}
    {effect : Effect} {pipeline : Pipeline}
    (hcreate : create settings effect { routes, streams := true, bridges := true } = .ok pipeline) :
    pipeline.Attached ∧ pipeline.router = { routes, streams := true, bridges := true } ∧
      pipeline.effect = effect ∧ pipeline.stats = {} := by
  unfold create at hcreate
  cases hanalyzer : Analyzer.create settings with
  | error error => simp [hanalyzer, bind, Except.bind] at hcreate
  | ok analyzer =>
    simp only [hanalyzer, bind, Except.bind, pure, Except.pure, Except.ok.injEq] at hcreate
    subst hcreate
    exact ⟨⟨rfl, rfl, rfl⟩, rfl, rfl, rfl⟩

theorem Attached.process {pipeline : Pipeline} (hattached : pipeline.Attached) (frame : AudioFrame)
    (now : Int) : (pipeline.process frame now).1.Attached :=
  ⟨hattached.lights_eq, hattached.streams, hattached.bridges⟩

/-- One block is for no light or for every light, and for every light on a beat. -/
theorem Attached.served {pipeline : Pipeline} (hattached : pipeline.Attached) (frame : AudioFrame)
    (now : Int) :
    let report := (pipeline.process frame now).2
    Served pipeline.router frame.timestamp report ∧
      (report.beat = true → report.updates = pipeline.lights.length) := by
  intro report
  have hcount : report.updates = (pipeline.made frame now).length := updates_process _ _ _
  have hrouted := pipeline.routed_process frame now
  have hsilent (hmade : pipeline.made frame now = []) :
      Served pipeline.router frame.timestamp report := by
    rw [hmade] at hcount hrouted
    exact .silent hcount (congrArg Routed.stream hrouted) (congrArg Routed.bridge hrouted)
  constructor
  · rcases pipeline.effect.lights_step (pipeline.analyzer.analyze frame).2 report.beat
        pipeline.lights with hmade | hmade
    · exact hsilent hmade
    · by_cases hnone : pipeline.made frame now = []
      · exact hsilent hnone
      · have hall : (pipeline.made frame now).map (·.light) = pipeline.router.lights :=
          hmade.trans hattached.lights_eq
        have hknown :
            ∀ update ∈ pipeline.made frame now, update.light ∈ pipeline.router.lights := by
          intro update hupdate
          rw [← hall]
          exact List.mem_map_of_mem hupdate
        rw [if_neg (by simpa using hnone)] at hrouted
        refine .all _ _ (Router.lights_share hall .stream) (Router.lights_share hall .bridge) ?_ ?_
          (hcount.trans (Router.length_share_add hknown).symm)
        · simp [report, hrouted, Router.route, hattached.streams, ite_not]
        · simp [report, hrouted, Router.route, hattached.bridges, ite_not]
  · intro hbeat
    have hflash := pipeline.effect.lights_step_of_beat (pipeline.analyzer.analyze frame).2
      pipeline.lights
    rw [← hbeat] at hflash
    rw [hcount, ← congrArg List.length hflash, List.length_map]
    rfl

/-- The totals after a run are those of its reports. -/
theorem stats_processAll (pipeline : Pipeline) (frames : List (AudioFrame × Int)) :
    let reports := (pipeline.processAll frames).2
    (pipeline.processAll frames).1.stats =
      { frames := pipeline.stats.frames + UInt64.ofNat frames.length
        beats := pipeline.stats.beats + UInt64.ofNat (reports.countP (·.beat))
        updates := pipeline.stats.updates + UInt64.ofNat (reports.map (·.updates)).sum } := by
  induction frames generalizing pipeline with
  | nil => simp [processAll]
  | cons block rest ih =>
    obtain ⟨frame, now⟩ := block
    have hbeat (beat : Bool) :
        UInt64.ofNat (if beat then 1 else 0) = if beat then 1 else 0 := by
      cases beat <;> rfl
    simp only [processAll_cons, ih, stats_process, List.length_cons, List.countP_cons,
      List.map_cons, List.sum_cons, RunStats.mk.injEq, UInt64.ofNat_add, hbeat, UInt64.add_assoc,
      and_true]
    refine ⟨?_, ?_⟩
    · rw [UInt64.add_comm (UInt64.ofNat rest.length)]
      rfl
    · rw [UInt64.add_comm (UInt64.ofNat _)]

/-- Every block of a run is served, and the lights stay the same. -/
theorem Attached.processAll {pipeline : Pipeline} (hattached : pipeline.Attached)
    (frames : List (AudioFrame × Int)) :
    (pipeline.processAll frames).1.lights = pipeline.lights ∧
      List.Forall₂ (fun block report ↦ Served pipeline.router block.1.timestamp report ∧
        (report.beat = true → report.updates = pipeline.lights.length))
        frames (pipeline.processAll frames).2 := by
  induction frames generalizing pipeline with
  | nil => exact ⟨rfl, .nil⟩
  | cons block rest ih =>
    obtain ⟨frame, now⟩ := block
    obtain ⟨hlights, hrest⟩ := ih (hattached.process frame now)
    exact ⟨hlights, .cons (hattached.served frame now) hrest⟩

end Pipeline

end LightShow
