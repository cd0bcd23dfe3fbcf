import LightShow.Audio.Wave
import LightShow.Files.Content

/-!
A WAVE file as a source of sound: it is opened, gives block after block of 1024 sample frames, and
is closed. The source sees of the file what the reader of its samples gives one after another.
-/

set_option autoImplicit false

namespace LightShow

inductive SourceError where
  | emptyPath
  | notFound (path : String)
  | wave (error : WaveError)
  | unsupported (format : SampleFormat) (bits : UInt16)
  | notStarted
  deriving DecidableEq, Repr

def SourceError.message : SourceError → String
  | .emptyPath => "Invalid parameter: Invalid file path"
  | .notFound path => s!"IO error: Audio file not found: {path}"
  | .wave error => "WAV error: " ++ error.cause
  | .unsupported format bits =>
    s!"Unsupported audio format: {format.name} {bits}-bit (only 16-bit PCM is supported)"
  | .notStarted => "Audio source not started"

/-- What samples are read from, one after another. -/
class SampleReader (ρ : Type) where
  /-- The next sample, if there is one. -/
  next : ρ → ρ × Option (Except WaveError Int16)

instance : SampleReader Wave.Reader where
  next := Wave.Reader.next

/-- At most so many samples. An error loses the samples before it. -/
def SampleReader.read {ρ : Type} [SampleReader ρ] :
    Nat → ρ → ρ × Except WaveError (List Int16)
  | 0, reader => (reader, .ok [])
  | wanted + 1, reader =>
    match next reader with
    | (reader, none) => (reader, .ok [])
    | (reader, some (.error error)) => (reader, .error error)
    | (reader, some (.ok sample)) =>
      match read wanted reader with
      | (reader, .ok samples) => (reader, .ok (sample :: samples))
      | (reader, .error error) => (reader, .error error)

/-- A source of sound that is read by some reader. -/
structure SampleSource (ρ : Type) where
  path : String
  reader : Option ρ := none
  /-- The format found at the latest start. -/
  spec : Option WaveSpec := none
  /-- How many blocks were given since the latest start. -/
  frameCount : Nat := 0
  /-- How many sample frames were given since the latest start. -/
  position : Nat := 0
  deriving Repr

namespace SampleSource

variable {ρ : Type}

/-- How many sample frames a block holds. -/
def blockFrames : Nat := 1024

def isRunning (source : SampleSource ρ) : Bool :=
  source.reader.isSome

/-- The block of some samples, the first of which stands at a position. -/
def blockOf (spec : WaveSpec) (position : Nat) (samples : List Int16) : AudioFrame where
  data := samples.flatMap Pcm.sampleBytes
  sampleRate := spec.sampleRate
  channels := spec.channels
  timestamp := UInt64.ofNat (position * 1000 / max spec.sampleRate.toNat 1)

/-- The next block, or none at the end. -/
def poll [SampleReader ρ] (source : SampleSource ρ) :
    SampleSource ρ × Except SourceError (Option AudioFrame) :=
  match source.spec, source.reader with
  | some spec, some reader =>
    match SampleReader.read (blockFrames * spec.channels.toNat) reader with
    | (reader, .error error) => ({ source with reader := some reader }, .error (.wave error))
    | (reader, .ok samples) =>
      let source := { source with reader := some reader }
      if samples.isEmpty then (source, .ok none)
      else
        let frame := blockOf spec source.position samples
        ({ source with
            frameCount := source.frameCount + 1
            position := source.position + frame.sampleFrames },
          .ok (some frame))
  | _, _ => (source, .error .notStarted)

/-- Closes the source. The format it had is still known. -/
def stop (source : SampleSource ρ) : SampleSource ρ :=
  { source with reader := none }

end SampleSource

/-- A WAVE file as a source of sound. -/
abbrev WaveSource := SampleSource Wave.Reader

namespace WaveSource

/-- Opens what stands at a path. -/
def openFile (path : String) (content : FileContent) : Except SourceError Wave.Reader :=
  if path.isEmpty then .error .emptyPath
  else
    match content with
    | .missing => .error (.notFound path)
    | .directory => .error (.wave .directory)
    | .bytes bytes =>
      match Wave.open? bytes with
      | .error error => .error (.wave error)
      | .ok reader =>
        let spec := reader.layout.spec
        if spec.format = .integer ∧ spec.bitsPerSample = 16 then .ok reader
        else .error (.unsupported spec.format spec.bitsPerSample)

/-- Opens the source. If that fails nothing changes. -/
def start (source : WaveSource) (content : FileContent) : WaveSource × Except SourceError Unit :=
  match openFile source.path content with
  | .error error => (source, .error error)
  | .ok reader =>
    ({ source with
        reader := some reader, spec := some reader.layout.spec, frameCount := 0, position := 0 },
      .ok ())

end WaveSource

end LightShow
