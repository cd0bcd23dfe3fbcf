import LightShow.Bytes.Layout
import LightShow.Number.Scalar

/-!
Blocks of interleaved 16-bit samples, and their reading as one channel: each sample frame gives the
mean of its channels, as a share of full scale.
-/

set_option autoImplicit false

namespace LightShow

structure AudioFrame where
  /-- Samples of two bytes each, the low one first. -/
  data : List UInt8
  /-- In Hz, zero if unknown. -/
  sampleRate : UInt32
  channels : UInt16
  /-- In milliseconds. -/
  timestamp : UInt64
  deriving DecidableEq, Repr

namespace Pcm

/-- The number of channels, an unknown one counting as mono. -/
def channelCount (channels : UInt16) : Nat :=
  max channels.toNat 1

/-- The signed number in two bytes. -/
def sampleValue (low high : UInt8) : Int16 :=
  (UInt16.ofNat (low.toNat + 256 * high.toNat)).toInt16

/-- The bytes of a sample, the low one first. -/
def sampleBytes (sample : Int16) : List UInt8 :=
  [UInt8.ofNat sample.toUInt16.toNat, UInt8.ofNat (sample.toUInt16.toNat / 256)]

/-- The whole samples in a byte string. -/
def samples : List UInt8 → List Int16
  | low :: high :: rest => sampleValue low high :: samples rest
  | _ => []

variable {α : Type} [Scalar α]

/-- Full scale is just out of reach upwards. -/
def fullScale : Nat := 32768

/-- A sample as a share of full scale. -/
def level (sample : Int16) : α :=
  if sample < 0 then (Scalar.zero - Scalar.ofNat sample.toInt.natAbs) / Scalar.ofNat fullScale
  else Scalar.ofNat sample.toInt.natAbs / Scalar.ofNat fullScale

/-- The level of a sample that is held by its two bytes. -/
def levelOf (bytes : List UInt8) : α :=
  level (sampleValue (bytes.getD 0 0) (bytes.getD 1 0))

/-- The mean level of the channels of one sample frame. -/
def mix (channels : Nat) (frame : List UInt8) : α :=
  Scalar.sum ((chunks 2 frame).map levelOf) / Scalar.ofNat channels

/-- One level per whole sample frame, put into a buffer in place of what stands there. -/
def decodeInto (buffer : List α) (data : List UInt8) (channels : UInt16) : List α :=
  let count := channelCount channels
  buffer.take 0 ++ (chunks (2 * count) data).map (mix count)

end Pcm

/-- The number of whole sample frames in a block. -/
def AudioFrame.sampleFrames (frame : AudioFrame) : Nat :=
  frame.data.length / 2 / Pcm.channelCount frame.channels

end LightShow
