import LightShow.Audio.Pcm

/-!
WAVE files. A file is a sequence of chunks; the format chunk says how samples are stored, and the
data chunk holds them. All numbers are little-endian.
-/

set_option autoImplicit false

namespace LightShow

inductive SampleFormat where
  | integer
  | float
  deriving DecidableEq, Repr

def SampleFormat.name : SampleFormat → String
  | .integer => "Int"
  | .float => "Float"

structure WaveSpec where
  channels : UInt16
  sampleRate : UInt32
  bitsPerSample : UInt16
  format : SampleFormat
  deriving DecidableEq, Repr

/-- What is wrong with a file. -/
inductive WaveError where
  /-- The file ends too early. -/
  | short
  | noRiffTag
  | noWaveTag
  | formatMissing
  | formatTooShort
  | zeroChannels
  | bitsExceedSample
  | inconsistentFormat
  | bitsNotWholeBytes
  | zeroBits
  | unexpectedFormatSize
  | bitsNotPcm
  | unexpectedExtension
  | bitsNotFloat
  | unexpectedExtensible
  | unsupported
  | partialSample
  | partialFrame
  /-- A sample does not fit in 16 bits. -/
  | tooWide
  | directory
  deriving DecidableEq, Repr

/-- The cause in words. -/
def WaveError.cause : WaveError → String
  | .short => "Failed to read enough bytes."
  | .noRiffTag => "Ill-formed WAVE file: no RIFF tag found"
  | .noWaveTag => "Ill-formed WAVE file: no WAVE tag found"
  | .formatMissing => "Ill-formed WAVE file: missing fmt chunk"
  | .formatTooShort => "Ill-formed WAVE file: invalid fmt chunk size"
  | .zeroChannels => "Ill-formed WAVE file: file contains zero channels"
  | .bitsExceedSample => "Ill-formed WAVE file: sample bits exceeds size of sample"
  | .inconsistentFormat => "Ill-formed WAVE file: inconsistent fmt chunk"
  | .bitsNotWholeBytes => "Ill-formed WAVE file: bits per sample is not a multiple of 8"
  | .zeroBits => "Ill-formed WAVE file: bits per sample is 0"
  | .unexpectedFormatSize => "Ill-formed WAVE file: unexpected fmt chunk size"
  | .bitsNotPcm => "Ill-formed WAVE file: bits per sample is not 8 or 16"
  | .unexpectedExtension => "Ill-formed WAVE file: unexpected WAVEFORMATEX size"
  | .bitsNotFloat => "Ill-formed WAVE file: bits per sample is not 32"
  | .unexpectedExtensible => "Ill-formed WAVE file: unexpected WAVEFORMATEXTENSIBLE size"
  | .unsupported => "The wave format of the file is not supported."
  | .partialSample => "Ill-formed WAVE file: data chunk length is not a multiple of sample size"
  | .partialFrame => "Ill-formed WAVE file: invalid data chunk length"
  | .tooWide => "The sample has more bits than the destination type."
  | .directory => "Is a directory (os error 21)"

namespace Wave

/-- The first bytes and what follows them. -/
def take (count : Nat) (bytes : List UInt8) : Except WaveError (List UInt8 × List UInt8) :=
  if bytes.length < count then .error .short else .ok (bytes.take count, bytes.drop count)

/-- A number of so many bytes and what follows it. -/
def number (width : Nat) (bytes : List UInt8) : Except WaveError (Nat × List UInt8) := do
  let (digits, rest) ← take width bytes
  return (ofLittleEndian digits, rest)

/-- The bytes of a text in Latin letters. -/
def tag (text : String) : List UInt8 :=
  text.toList.map fun c => UInt8.ofNat c.toNat

/-- A format with the number of bytes each sample takes. -/
structure Layout where
  spec : WaveSpec
  sampleBytes : Nat
  deriving DecidableEq, Repr

/-- Raises an error under a condition. -/
def refuse (condition : Bool) (error : WaveError) : Except WaveError Unit :=
  if condition then .error error else .ok ()

/-- Identifies integer samples in an extensible format. -/
def integerGuid : List UInt8 :=
  [0x01, 0x00, 0x00, 0x00, 0x00, 0x00, 0x10, 0x00, 0x80, 0x00, 0x00, 0xAA, 0x00, 0x38, 0x9B, 0x71]

/-- Identifies floating-point samples in an extensible format. -/
def floatGuid : List UInt8 :=
  0x03 :: integerGuid.drop 1

/-- The end of a format chunk of plain integer samples. -/
def plainFormat (length : Nat) (layout : Layout) (bytes : List UInt8) :
    Except WaveError (Layout × List UInt8) := do
  if length = 16 then return (layout, bytes)
  refuse (length ≠ 18 && length ≠ 40) .unexpectedFormatSize
  let (_, bytes) ← number 2 bytes
  let bits := layout.spec.bitsPerSample
  refuse (bits ≠ 8 && bits ≠ 16 && bits ≠ 24) .bitsNotPcm
  let (_, bytes) ← take (length - 18) bytes
  return (layout, bytes)

/-- The end of a format chunk of floating-point samples. -/
def floatFormat (length : Nat) (layout : Layout) (bytes : List UInt8) :
    Except WaveError (Layout × List UInt8) := do
  refuse (length ≠ 16 && length ≠ 18) .unexpectedFormatSize
  let (extension, bytes) ← if length = 18 then number 2 bytes else .ok (0, bytes)
  refuse (extension ≠ 0) .unexpectedExtension
  refuse (layout.spec.bitsPerSample ≠ 32) .bitsNotFloat
  return ({ layout with spec := { layout.spec with format := .float } }, bytes)

/-- The end of an extensible format chunk. A number of valid bits takes the place of the bits per
sample. -/
def extensibleFormat (length : Nat) (layout : Layout) (bytes : List UInt8) :
    Except WaveError (Layout × List UInt8) := do
  refuse (length < 40) .unexpectedFormatSize
  let (extension, bytes) ← number 2 bytes
  refuse (extension ≠ 22) .unexpectedExtensible
  let (validBits, bytes) ← number 2 bytes
  let (_, bytes) ← number 4 bytes
  let (guid, bytes) ← take 16 bytes
  refuse (guid ≠ integerGuid && guid ≠ floatGuid) .unsupported
  let format := if guid = integerGuid then SampleFormat.integer else .float
  let bits := if 0 < validBits then UInt16.ofNat validBits else layout.spec.bitsPerSample
  return ({ layout with spec := { layout.spec with format, bitsPerSample := bits } }, bytes)

/-- A format chunk of a length. -/
def formatChunk (length : Nat) (bytes : List UInt8) : Except WaveError (Layout × List UInt8) := do
  refuse (length < 16) .formatTooShort
  let (kind, bytes) ← number 2 bytes
  let (channels, bytes) ← number 2 bytes
  let (rate, bytes) ← number 4 bytes
  let (byteRate, bytes) ← number 4 bytes
  let (align, bytes) ← number 2 bytes
  let (bits, bytes) ← number 2 bytes
  refuse (channels = 0) .zeroChannels
  let sampleBytes := align / channels
  refuse (sampleBytes * 8 < bits || 65535 < sampleBytes * 8) .bitsExceedSample
  refuse (byteRate ≠ align * rate) .inconsistentFormat
  refuse (bits % 8 ≠ 0) .bitsNotWholeBytes
  refuse (bits = 0) .zeroBits
  let spec : WaveSpec := ⟨UInt16.ofNat channels, UInt32.ofNat rate, UInt16.ofNat bits, .integer⟩
  match kind with
  | 0x0001 => plainFormat length ⟨spec, sampleBytes⟩ bytes
  | 0x0003 => floatFormat length ⟨spec, sampleBytes⟩ bytes
  | 0xFFFE => extensibleFormat length ⟨spec, sampleBytes⟩ bytes
  | _ => .error .unsupported

/-- A file opened at its first sample. -/
structure Reader where
  layout : Layout
  /-- How many samples the file declares. -/
  declared : Nat
  /-- How many samples were asked for so far. -/
  count : Nat
  /-- The bytes not yet read. -/
  rest : List UInt8
  deriving Repr

/-- The reader at the start of a data chunk of a length. -/
def openData (layout : Option Layout) (length : Nat) (bytes : List UInt8) :
    Except WaveError Reader := do
  match layout with
  | none => .error .formatMissing
  | some layout =>
    refuse (length % layout.sampleBytes ≠ 0) .partialSample
    let declared := length / layout.sampleBytes
    refuse (declared % layout.spec.channels.toNat ≠ 0) .partialFrame
    return ⟨layout, declared, 0, bytes⟩

/-- Goes through the chunks up to the data. A later format chunk replaces an earlier one. Each chunk
takes eight bytes at least, so that the number of bytes is fuel enough. -/
def chunksFrom : Nat → Option Layout → List UInt8 → Except WaveError Reader
  | 0, _, _ => .error .short
  | fuel + 1, layout, bytes => do
    let (name, bytes) ← take 4 bytes
    let (length, bytes) ← number 4 bytes
    if name = tag "fmt " then
      let (layout, bytes) ← formatChunk length bytes
      chunksFrom fuel (some layout) bytes
    else if name = tag "fact" then
      -- The chunk holds one number, and an end of the file inside it is passed over.
      chunksFrom fuel layout (bytes.drop 4)
    else if name = tag "data" then openData layout length bytes
    else
      let (_, bytes) ← take length bytes
      chunksFrom fuel layout bytes

/-- Opens a file by its bytes. -/
def open? (bytes : List UInt8) : Except WaveError Reader := do
  let (riff, bytes) ← take 4 bytes
  refuse (riff ≠ tag "RIFF") .noRiffTag
  let (_, bytes) ← number 4 bytes
  let (wave, bytes) ← take 4 bytes
  refuse (wave ≠ tag "WAVE") .noWaveTag
  chunksFrom (bytes.length + 1) none bytes

namespace Reader

/-- The next sample, which is counted before it is read. After the declared samples there is
none. -/
def next (reader : Reader) : Reader × Option (Except WaveError Int16) :=
  if reader.declared ≤ reader.count then (reader, none)
  else
    let counted := { reader with count := reader.count + 1 }
    if reader.layout.sampleBytes = 2 ∧ reader.layout.spec.bitsPerSample = 16 then
      match reader.rest with
      | low :: high :: rest =>
        ({ counted with rest }, some (.ok (Pcm.sampleValue low high)))
      | _ => ({ counted with rest := [] }, some (.error .short))
    else if 2 < reader.layout.sampleBytes then (counted, some (.error .tooWide))
    else (counted, some (.error .unsupported))

end Reader

end Wave

end LightShow
