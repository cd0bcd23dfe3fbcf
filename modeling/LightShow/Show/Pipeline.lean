import LightShow.Audio.Analyzer
import LightShow.Audio.Beat
import LightShow.Effect.Basic
import LightShow.Light.Router
import LightShow.Number.Format

/-!
The pipeline from sound to light: each block of sound is analysed, checked for a beat, turned into
updates by the effect, and routed.
-/

set_option autoImplicit false

namespace LightShow

/-- Totals of a run. -/
structure RunStats where
  frames : UInt64 := 0
  beats : UInt64 := 0
  updates : UInt64 := 0
  deriving DecidableEq, Repr

structure Pipeline where
  analyzer : Analyzer
  detector : BeatDetector Float := BeatDetector.create
  effect : Effect
  router : Router
  /-- The lights of the router, in order. -/
  lights : List String
  stats : RunStats := {}
  /-- Whether somebody is told about the run. -/
  reported : Bool := true
  deriving Repr

/-- What is told about a run from time to time. -/
structure Progress where
  timestamp : UInt64
  tempo : Float
  frequency : Float
  energy : Float
  deriving Repr

/-- What came of one block. -/
structure FrameReport where
  beat : Bool
  /-- How many updates the effect made. -/
  updates : Nat
  routed : Routed Float
  progress : Option Progress
  deriving Repr

def Progress.message (progress : Progress) : String :=
  "t=" ++ formatFixed 1 (progress.timestamp.toFloat / 1000) ++ "s bpm="
    ++ formatFixed 1 progress.tempo ++ " freq=" ++ formatFixed 0 progress.frequency
    ++ "Hz energy=" ++ formatFixed 3 progress.energy

namespace Pipeline

/-- After how many blocks progress is told. -/
def progressPeriod : UInt64 := UInt64.ofNat BeatDetector.energyCount

def create (settings : AudioSettings) (effect : Effect) (router : Router) :
    Except SpectrumError Pipeline := do
  let analyzer ← Analyzer.create settings
  return { analyzer, effect, router, lights := router.lights }

/-- The part of a step that follows the analysis. The tempo is read only to be told. -/
def react (pipeline : Pipeline) (features : Features Float) (timestamp : UInt64) (now : Int) :
    Pipeline × FrameReport :=
  let (heard, beat) := pipeline.detector.hear features.energy now
  let (effect, updates) := pipeline.effect.step features beat pipeline.lights
  let routed := if updates.isEmpty then {} else pipeline.router.route ⟨updates, timestamp, none⟩
  let stats : RunStats :=
    { frames := pipeline.stats.frames + 1
      beats := pipeline.stats.beats + if beat then 1 else 0
      updates := pipeline.stats.updates + UInt64.ofNat updates.length }
  let (detector, progress) :=
    if pipeline.reported && stats.frames % progressPeriod == 0 then
      let (read, tempo) := heard.readTempo now
      (read, some ⟨timestamp, tempo, features.frequency, features.energy⟩)
    else (heard, none)
  ({ pipeline with detector, effect, stats }, ⟨beat, updates.length, routed, progress⟩)

/-- One block heard at an instant. -/
def process (pipeline : Pipeline) (frame : AudioFrame) (now : Int) : Pipeline × FrameReport :=
  let (analyzer, features) := pipeline.analyzer.analyze frame
  { pipeline with analyzer }.react features frame.timestamp now

/-- Block after block. -/
def processAll (pipeline : Pipeline) :
    List (AudioFrame × Int) → Pipeline × List FrameReport
  | [] => (pipeline, [])
  | (frame, now) :: rest =>
    let (next, report) := pipeline.process frame now
    let (last, reports) := next.processAll rest
    (last, report :: reports)

end Pipeline

/-- What sinks that only count have seen. -/
structure SinkCounts where
  /-- Frames that would have been streamed. -/
  streamed : UInt64 := 0
  /-- Updates that a bridge would have been asked for. -/
  requested : UInt64 := 0
  deriving DecidableEq, Repr

def SinkCounts.add (counts : SinkCounts) (routed : Routed Float) : SinkCounts where
  streamed := counts.streamed + UInt64.ofNat routed.stream.toList.length
  requested := counts.requested + UInt64.ofNat ((routed.bridge.map List.length).getD 0)

end LightShow
