import LightShow.Proofs.Bytes.Layout
import LightShow.Stream.Packet

/-!
# Packets are read back as they were written

A record is its content, five fields in 28 bytes, and four reserved bytes. Writing and reading of a
content undo each other (`decodeRecord_content`, `content_of_length`), since writing and reading of
a big-endian number do (`ofBigEndian_bigEndian`, `bigEndian_ofBigEndian`). Reading a packet is
reading its records one by one at their places (`decode_of_length`), and at the place of a record
stands what was written for the update (`recordAt_encode`).

A field that is present and has the value which stands for absence comes back as absent, every other
field comes back as it was (`Record.ofUpdate`).
-/

set_option autoImplicit false

namespace LightShow

namespace Packet

/-! ### Fields at their offsets -/

@[simp]
theorem length_wordBytes (word : Int32) : (wordBytes word).length = 4 := length_bigEndian ..

@[simp]
theorem length_bitsBytes (bits : UInt64) : (bitsBytes bits).length = 8 := length_bigEndian ..

theorem wordAt_append (offset : ℕ) (before : List UInt8) (word : Int32) (after : List UInt8)
    (hoffset : before.length = offset) :
    wordAt (before ++ (wordBytes word ++ after)) offset = word := by
  have hlt : word.toUInt32.toNat < 256 ^ 4 := word.toUInt32.toNat_lt
  rw [wordAt, take_drop_append before _ after hoffset (length_wordBytes word), wordBytes,
    ofBigEndian_bigEndian, Nat.mod_eq_of_lt hlt, UInt32.ofNat_toNat, Int32.toInt32_toUInt32]

theorem bitsAt_append (offset : ℕ) (before : List UInt8) (bits : UInt64) (after : List UInt8)
    (hoffset : before.length = offset) :
    bitsAt (before ++ (bitsBytes bits ++ after)) offset = bits := by
  have hlt : bits.toNat < 256 ^ 8 := bits.toNat_lt
  rw [bitsAt, take_drop_append before _ after hoffset (length_bitsBytes bits), bitsBytes,
    ofBigEndian_bigEndian, Nat.mod_eq_of_lt hlt, UInt64.ofNat_toNat]

/-- The number at an offset fits into its width and is spelled by the bytes that stand there. -/
theorem bigEndian_take_drop {bytes : List UInt8} {offset width : ℕ}
    (hfits : offset + width ≤ bytes.length) :
    ofBigEndian ((bytes.drop offset).take width) < 256 ^ width ∧
      bigEndian width (ofBigEndian ((bytes.drop offset).take width)) =
        (bytes.drop offset).take width := by
  have hlt := ofBigEndian_lt ((bytes.drop offset).take width)
  have hbytes := bigEndian_ofBigEndian ((bytes.drop offset).take width)
  rw [length_take_drop hfits] at hlt hbytes
  exact ⟨hlt, hbytes⟩

theorem wordBytes_wordAt {bytes : List UInt8} {offset : ℕ} (hfits : offset + 4 ≤ bytes.length) :
    wordBytes (wordAt bytes offset) = (bytes.drop offset).take 4 := by
  obtain ⟨hlt, hbytes⟩ := bigEndian_take_drop hfits
  rw [wordBytes, wordAt, UInt32.toUInt32_toInt32, UInt32.toNat_ofNat_of_lt' hlt, hbytes]

theorem bitsBytes_bitsAt {bytes : List UInt8} {offset : ℕ} (hfits : offset + 8 ≤ bytes.length) :
    bitsBytes (bitsAt bytes offset) = (bytes.drop offset).take 8 := by
  obtain ⟨hlt, hbytes⟩ := bigEndian_take_drop hfits
  rw [bitsBytes, bitsAt, UInt64.toNat_ofNat_of_lt' hlt, hbytes]

/-! ### Records -/

/-- How many bytes of a record come before the reserved ones. -/
def contentSize : ℕ := 28

/-- The bytes of a record before the reserved ones. -/
def content (hash brightness : Int32) (hue saturation : UInt64) (transition : Int32) :
    List UInt8 :=
  wordBytes hash ++ wordBytes brightness ++ bitsBytes hue ++ bitsBytes saturation
    ++ wordBytes transition

@[simp]
theorem length_content (hash brightness : Int32) (hue saturation : UInt64) (transition : Int32) :
    (content hash brightness hue saturation transition).length = contentSize := by
  simp [content, contentSize]

/-- The content that is written for an update. -/
def contentOf (update : Update UInt64) : List UInt8 :=
  content (idHash update.light) (update.brightness.getD absentWord)
    (update.hue.getD absentBits) (update.saturation.getD absentBits)
    (update.transition.getD absentWord)

theorem encodeRecord_eq (update : Update UInt64) :
    encodeRecord update = contentOf update ++ wordBytes 0 := rfl

@[simp]
theorem length_encodeRecord (update : Update UInt64) :
    (encodeRecord update).length = recordSize := by
  rw [encodeRecord_eq, contentOf, List.length_append, length_content, length_wordBytes]
  rfl

/-- Reading a content gives its fields back, whatever the reserved bytes are. -/
theorem decodeRecord_content (hash brightness : Int32) (hue saturation : UInt64)
    (transition : Int32) (reserved : List UInt8) :
    decodeRecord (content hash brightness hue saturation transition ++ reserved) =
      { hash
        brightness := present absentWord brightness
        hue := present absentBits hue
        saturation := present absentBits saturation
        transition := present absentWord transition } := by
  have hhash := wordAt_append 0 [] hash (wordBytes brightness ++ (bitsBytes hue ++
    (bitsBytes saturation ++ (wordBytes transition ++ reserved)))) rfl
  have hbrightness := wordAt_append 4 (wordBytes hash) brightness (bitsBytes hue ++
    (bitsBytes saturation ++ (wordBytes transition ++ reserved))) (by simp)
  have hhue := bitsAt_append 8 (wordBytes hash ++ wordBytes brightness) hue
    (bitsBytes saturation ++ (wordBytes transition ++ reserved)) (by simp)
  have hsaturation := bitsAt_append 16 (wordBytes hash ++ wordBytes brightness ++ bitsBytes hue)
    saturation (wordBytes transition ++ reserved) (by simp)
  have htransition := wordAt_append 24
    (wordBytes hash ++ wordBytes brightness ++ bitsBytes hue ++ bitsBytes saturation)
    transition reserved (by simp)
  simp only [List.append_assoc, List.nil_append] at hhash hbrightness hhue hsaturation htransition
  simp only [content, decodeRecord, List.append_assoc]
  rw [hhash, hbrightness, hhue, hsaturation, htransition]

/-- Every sequence of 28 bytes is the content of the fields that stand in it. -/
theorem content_of_length {bytes : List UInt8} (hlength : bytes.length = contentSize) :
    content (wordAt bytes 0) (wordAt bytes 4) (bitsAt bytes 8) (bitsAt bytes 16)
      (wordAt bytes 24) = bytes := by
  have hsize : bytes.length = 28 := hlength
  rw [content, wordBytes_wordAt (by omega), wordBytes_wordAt (by omega),
    bitsBytes_bitsAt (by omega), bitsBytes_bitsAt (by omega), wordBytes_wordAt (by omega),
    List.drop_zero, ← List.take_add, ← List.take_add, ← List.take_add, ← List.take_add]
  exact List.take_of_length_le hsize.le

/-- What comes back of an update: a field that has the value which stands for absence is absent. -/
def Record.ofUpdate (update : Update UInt64) : Record where
  hash := idHash update.light
  brightness := update.brightness.filter (· ≠ absentWord)
  hue := update.hue.filter (· ≠ absentBits)
  saturation := update.saturation.filter (· ≠ absentBits)
  transition := update.transition.filter (· ≠ absentWord)

theorem present_getD {β : Type} [DecidableEq β] (absent : β) (value : Option β) :
    present absent (value.getD absent) = value.filter (· ≠ absent) := by
  cases value with
  | none => simp [present]
  | some value => by_cases hvalue : value = absent <;> simp [present, Option.filter_some, hvalue]

theorem decodeRecord_encodeRecord (update : Update UInt64) :
    decodeRecord (encodeRecord update) = Record.ofUpdate update := by
  simp only [encodeRecord_eq, contentOf, decodeRecord_content, present_getD, Record.ofUpdate]

/-! ### Packets -/

/-- The bytes at the place of a record. -/
def recordAt (packet : List UInt8) (i : ℕ) : List UInt8 :=
  (packet.drop (size i)).take recordSize

/-- A packet of a whole number of records is read record by record. -/
theorem decode_of_length {packet : List UInt8} {count : ℕ} (hlength : packet.length = size count) :
    decode packet = .ok
      ⟨UInt32.ofNat (ofBigEndian (packet.take headerSize)),
        (List.range count).map fun i ↦ decodeRecord (recordAt packet i)⟩ := by
  have hheader : ¬ packet.length < headerSize := by
    rw [hlength, size]
    omega
  have hbody : (packet.drop headerSize).length = count * recordSize := by
    rw [List.length_drop, hlength, size, Nat.add_sub_cancel_left]
  have hwhole : (packet.drop headerSize).length % recordSize = 0 := by
    rw [hbody, Nat.mul_mod_left]
  simp only [decode, hheader, hwhole, ne_eq, not_true_eq_false, if_false]
  rw [chunks_eq_map_range, hbody, Nat.mul_div_cancel count (by decide), List.map_map]
  simp only [recordAt, size, List.drop_drop, Function.comp_def]

/-- The packets that can be read are those of a whole number of records. -/
theorem length_of_decode {packet : List UInt8} {decoded : Decoded}
    (hdecode : decode packet = .ok decoded) : ∃ count, packet.length = size count := by
  by_cases hheader : packet.length < headerSize
  · simp [decode, hheader] at hdecode
  by_cases hwhole : (packet.drop headerSize).length % recordSize = 0
  · refine ⟨(packet.drop headerSize).length / recordSize, ?_⟩
    rw [size, Nat.div_mul_cancel (Nat.dvd_of_mod_eq_zero hwhole), List.length_drop]
    omega
  · simp only [decode, hheader, ne_eq, hwhole, not_false_eq_true, if_true, if_false,
      reduceCtorEq] at hdecode

@[simp]
theorem length_encode (frame : Frame UInt64) (sequence : UInt32) :
    (encode frame sequence).length = size frame.updates.length := by
  have hrecords : (frame.updates.flatMap encodeRecord).length =
      frame.updates.length * recordSize := by
    simp [List.length_flatMap, List.map_const']
  rw [encode, List.length_append, length_bigEndian, hrecords]
  rfl

theorem take_headerSize_encode (frame : Frame UInt64) (sequence : UInt32) :
    (encode frame sequence).take headerSize = bigEndian 4 sequence.toNat :=
  List.take_left' (length_bigEndian 4 sequence.toNat)

theorem recordAt_encode (frame : Frame UInt64) (sequence : UInt32) {i : ℕ}
    (hi : i < frame.updates.length) :
    recordAt (encode frame sequence) i = encodeRecord frame.updates[i] := by
  have hheader : (bigEndian 4 sequence.toNat).length = headerSize := length_bigEndian ..
  rw [recordAt, encode, size, ← hheader, List.drop_length_add_append]
  exact take_drop_flatMap encodeRecord length_encodeRecord frame.updates hi

theorem decode_encode (frame : Frame UInt64) (sequence : UInt32) :
    decode (encode frame sequence) = .ok ⟨sequence, frame.updates.map Record.ofUpdate⟩ := by
  have hsequence : UInt32.ofNat (ofBigEndian (bigEndian 4 sequence.toNat)) = sequence := by
    have hlt : sequence.toNat < 256 ^ 4 := sequence.toNat_lt
    rw [ofBigEndian_bigEndian, Nat.mod_eq_of_lt hlt, UInt32.ofNat_toNat]
  have hrecords : (List.range frame.updates.length).map
      (fun i ↦ decodeRecord (recordAt (encode frame sequence) i)) =
        frame.updates.map Record.ofUpdate := by
    refine List.ext_getElem (by simp) fun i hi _ ↦ ?_
    have hupdate : i < frame.updates.length := by simpa using hi
    rw [List.getElem_map, List.getElem_map, List.getElem_range,
      recordAt_encode frame sequence hupdate, decodeRecord_encodeRecord]
  rw [decode_of_length (length_encode frame sequence), take_headerSize_encode, hsequence, hrecords]

/-- A frame is written as a packet of the size announced for its lights. Reading the packet gives
the sequence number and one record per update in order. Each record is for the light of its update,
and a field of it is what the update had, unless that was absent or the value that stands for
absence. -/
theorem round_trip (frame : Frame UInt64) (sequence : UInt32) :
    (encode frame sequence).length = size frame.updates.length ∧
    decode (encode frame sequence) = .ok ⟨sequence, frame.updates.map Record.ofUpdate⟩ ∧
    ∀ update, (Record.ofUpdate update).isFor update.light = true :=
  ⟨length_encode frame sequence, decode_encode frame sequence,
    fun update ↦ beq_self_eq_true (idHash update.light)⟩

end Packet

end LightShow
