import LightShow.Bytes.Layout
import LightShow.Light.Update
import LightShow.Stream.IdHash

/-!
Stream packets: a big-endian sequence number, then one record of 32 bytes per light. Absent fields
are written as -1, and the last four bytes of a record are reserved.
-/

set_option autoImplicit false

namespace LightShow

namespace Packet

def headerSize : Nat := 4

def recordSize : Nat := 32

/-- Packets above this size may be split on the way. -/
def wholeSize : Nat := 1400

/-- The size of a packet for so many lights. -/
def size (lights : Nat) : Nat :=
  headerSize + lights * recordSize

/-- Stands for an absent brightness or transition. -/
def absentWord : Int32 := -1

/-- Stands for an absent hue or saturation: the bit pattern of -1. -/
def absentBits : UInt64 := 0xBFF0000000000000

def wordBytes (word : Int32) : List UInt8 :=
  bigEndian 4 word.toUInt32.toNat

def bitsBytes (bits : UInt64) : List UInt8 :=
  bigEndian 8 bits.toNat

def encodeRecord (update : Update UInt64) : List UInt8 :=
  wordBytes (idHash update.light)
    ++ wordBytes (update.brightness.getD absentWord)
    ++ bitsBytes (update.hue.getD absentBits)
    ++ bitsBytes (update.saturation.getD absentBits)
    ++ wordBytes (update.transition.getD absentWord)
    ++ wordBytes 0

/-- The packet of a frame under a sequence number. -/
def encode (frame : Frame UInt64) (sequence : UInt32) : List UInt8 :=
  bigEndian 4 sequence.toNat ++ frame.updates.flatMap encodeRecord

/-- One light of a packet. -/
structure Record where
  hash : Int32
  brightness : Option Int32
  hue : Option UInt64
  saturation : Option UInt64
  transition : Option Int32
  deriving DecidableEq, Repr

/-- Whether the record may have been made for this light. -/
def Record.isFor (record : Record) (light : String) : Bool :=
  record.hash == idHash light

structure Decoded where
  sequence : UInt32
  records : List Record
  deriving DecidableEq, Repr

inductive DecodeError where
  | shorterThanHeader (size : Nat)
  | partialRecord (bodySize : Nat)
  deriving DecidableEq, Repr

def DecodeError.message : DecodeError → String
  | .shorterThanHeader size => s!"Invalid packet: {size} bytes is shorter than the header"
  | .partialRecord bodySize =>
    s!"Invalid packet: body of {bodySize} bytes is not a multiple of {recordSize}"

/-- The signed word at an offset. -/
def wordAt (bytes : List UInt8) (offset : Nat) : Int32 :=
  (UInt32.ofNat (ofBigEndian ((bytes.drop offset).take 4))).toInt32

/-- The bit pattern at an offset. -/
def bitsAt (bytes : List UInt8) (offset : Nat) : UInt64 :=
  UInt64.ofNat (ofBigEndian ((bytes.drop offset).take 8))

/-- A value, unless it is the one that stands for absence. -/
def present {β : Type} [DecidableEq β] (absent value : β) : Option β :=
  if value = absent then none else some value

def decodeRecord (bytes : List UInt8) : Record where
  hash := wordAt bytes 0
  brightness := present absentWord (wordAt bytes 4)
  hue := present absentBits (bitsAt bytes 8)
  saturation := present absentBits (bitsAt bytes 16)
  transition := present absentWord (wordAt bytes 24)

def decode (packet : List UInt8) : Except DecodeError Decoded :=
  if packet.length < headerSize then .error (.shorterThanHeader packet.length)
  else
    let body := packet.drop headerSize
    if body.length % recordSize ≠ 0 then .error (.partialRecord body.length)
    else
      .ok
        { sequence := UInt32.ofNat (ofBigEndian (packet.take headerSize))
          records := (chunks recordSize body).map decodeRecord }

end Packet

end LightShow
