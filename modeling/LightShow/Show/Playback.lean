import LightShow.Audio.WaveBlocks
import LightShow.Show.Failure
import LightShow.Show.Pipeline
import LightShow.Show.Relay

/-!
Playing a clip: its blocks go through the relay to a pipeline, which hears each one at an instant
that a clock gives for it.
-/

set_option autoImplicit false

namespace LightShow

/-- What came of a clip. -/
structure Playback where
  /-- How many blocks the reader polled. -/
  read : Nat
  /-- Why the reader gave up before the end of the clip, if it did. -/
  broken : Option SourceError
  /-- The pipeline after the last block. -/
  pipeline : Pipeline
  /-- One report per processed block. -/
  reports : List FrameReport
  deriving Repr

/-- Opens a clip. -/
def WaveSource.openClip (path : String) (content : FileContent) : Except ShowFailure WaveSource :=
  match WaveSource.start { path } content with
  | (source, .ok ()) => .ok source
  | (_, .error cause) => .error (.audioFile path cause)

namespace Pipeline

/-- The pipeline of a show. -/
def prepare (settings : AudioSettings) (effect : Effect) (router : Router) :
    Except ShowFailure Pipeline :=
  (Pipeline.create settings effect router).mapError .audioSettings

/-- Plays an opened clip to its end, or not at all if the stop flag is up from the beginning. -/
def play (pipeline : Pipeline) (source : WaveSource) (stopped : Bool)
    (clock : AudioFrame → Int) : Playback :=
  let (blocks, broken) := source.allBlocks
  let relay : Relay AudioFrame := Relay.finish { source := blocks, stopped }
  let (pipeline, reports) :=
    pipeline.processAll (relay.processed.map fun block => (block, clock block))
  { read := relay.polled.length
    broken := if stopped then none else broken
    pipeline
    reports }

end Pipeline

end LightShow
