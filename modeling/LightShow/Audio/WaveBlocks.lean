import LightShow.Audio.WaveSource

/-!
All blocks of a source, up to its end or its first error.
-/

set_option autoImplicit false

namespace LightShow.WaveSource

/-- At most so many blocks, and what ended them if it was an error. -/
def blocks : Nat → WaveSource → List AudioFrame × Option SourceError
  | 0, _ => ([], none)
  | count + 1, source =>
    match source.poll with
    | (next, .ok (some frame)) =>
      let (rest, error) := blocks count next
      (frame :: rest, error)
    | (_, .ok none) => ([], none)
    | (_, .error error) => ([], some error)

/-- All blocks. Each takes one declared sample at least. -/
def allBlocks (source : WaveSource) : List AudioFrame × Option SourceError :=
  blocks ((source.reader.map fun reader => reader.declared + 1).getD 1) source

end LightShow.WaveSource
