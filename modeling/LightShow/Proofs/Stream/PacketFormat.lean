import LightShow.Proofs.Stream.IdHash
import LightShow.Proofs.Stream.PacketRoundTrip

/-!
# Which packets can be read and which can be written

A packet can be read when it is a header and a whole number of records (`decode_of_length`,
`length_of_decode`). Reading forgets the reserved bytes and nothing else: two contents with equal
fields are equal (`decodeRecord_eq_iff`), although a field with the value that stands for absence is
read as absent. The packets that can be written are those in which the reserved bytes are zero,
since every content is the content of an update (`contentOf_updateOf`).

Bytes are named by their place in the packet. `forall_place_iff` goes from places to the header and
the records.
-/

set_option autoImplicit false

namespace LightShow

namespace Packet

/-! ### Places -/

/-- Whether a place of a packet is one of the reserved bytes of a record. -/
def IsReserved (place : ℕ) : Prop :=
  headerSize ≤ place ∧ contentSize ≤ (place - headerSize) % recordSize

instance (place : ℕ) : Decidable (IsReserved place) :=
  inferInstanceAs (Decidable (_ ∧ _))

theorem isReserved_size_add {i offset : ℕ} (hoffset : offset < recordSize) :
    IsReserved (size i + offset) ↔ contentSize ≤ offset := by
  have hmod : (size i + offset - headerSize) % recordSize = offset := by
    rw [size, Nat.add_assoc, Nat.add_sub_cancel_left, Nat.mul_add_mod_of_lt hoffset]
  rw [IsReserved, hmod]
  exact and_iff_right (by rw [size]; omega)

/-- The places of a packet are those of its header and the offsets of its records. -/
theorem forall_place_iff {count : ℕ} {property : ℕ → Prop} :
    (∀ place < size count, property place) ↔
      (∀ place < headerSize, property place) ∧
        ∀ i < count, ∀ offset < recordSize, property (size i + offset) := by
  simp only [size, headerSize, recordSize]
  constructor
  · intro hplaces
    exact ⟨fun place hplace ↦ hplaces place (by omega),
      fun i hi offset hoffset ↦ hplaces _ (by omega)⟩
  · rintro ⟨hheader, hrecords⟩ place hplace
    by_cases hinside : place < 4
    · exact hheader place hinside
    · have hsplit : 4 + (place - 4) / 32 * 32 + (place - 4) % 32 = place := by omega
      rw [← hsplit]
      exact hrecords _ (by omega) _ (by omega)

theorem getElem?_recordAt (packet : List UInt8) (i : ℕ) {offset : ℕ}
    (hoffset : offset < recordSize) : (recordAt packet i)[offset]? = packet[size i + offset]? := by
  rw [recordAt, List.getElem?_take_of_lt hoffset, List.getElem?_drop]

theorem length_recordAt {packet : List UInt8} {count i : ℕ} (hlength : packet.length = size count)
    (hi : i < count) : (recordAt packet i).length = recordSize := by
  refine length_take_drop ?_
  rw [hlength]
  simp only [size, recordSize]
  omega

/-- A packet is its header and its records. -/
theorem take_append_flatMap_recordAt {packet : List UInt8} {count : ℕ}
    (hlength : packet.length = size count) :
    packet.take headerSize ++ (List.range count).flatMap (recordAt packet) = packet := by
  have hbody : (packet.drop headerSize).length ≤ count * recordSize := by
    rw [List.length_drop, hlength, size]
    omega
  have hpieces := flatMap_range_take_drop (packet.drop headerSize) recordSize count
  simp only [List.drop_drop, List.take_of_length_le hbody] at hpieces
  have hrecords : (List.range count).flatMap (recordAt packet) = packet.drop headerSize := hpieces
  rw [hrecords, List.take_append_drop]

/-! ### What reading forgets -/

theorem present_inj {β : Type} [DecidableEq β] {absent left right : β} :
    present absent left = present absent right ↔ left = right := by
  unfold present
  split_ifs with hleft hright hright
  · simp [hleft, hright]
  · simp [hleft, Ne.symm hright]
  · simp [hright, hleft]
  · simp

theorem exists_content {bytes : List UInt8} (hlength : bytes.length = recordSize) :
    ∃ hash brightness hue saturation transition reserved,
      bytes = content hash brightness hue saturation transition ++ reserved := by
  have hcontent : (bytes.take contentSize).length = contentSize := by
    rw [List.length_take, hlength]
    rfl
  have hbytes := List.take_append_drop contentSize bytes
  rw [← content_of_length hcontent] at hbytes
  exact ⟨_, _, _, _, _, _, hbytes.symm⟩

/-- Two records are read alike when their contents are equal. -/
theorem decodeRecord_eq_iff {left right : List UInt8} (hleft : left.length = recordSize)
    (hright : right.length = recordSize) :
    decodeRecord left = decodeRecord right ↔ left.take contentSize = right.take contentSize := by
  obtain ⟨hash, brightness, hue, saturation, transition, reserved, rfl⟩ := exists_content hleft
  obtain ⟨hash', brightness', hue', saturation', transition', reserved', rfl⟩ :=
    exists_content hright
  rw [List.take_left' (length_content ..), List.take_left' (length_content ..)]
  constructor
  · simp only [decodeRecord_content, Record.mk.injEq, present_inj]
    rintro ⟨rfl, rfl, rfl, rfl, rfl⟩
    rfl
  · intro hcontent
    rw [hcontent, decodeRecord_content, decodeRecord_content]

/-- Packets agree at all places that are not reserved when their headers and the contents of their
records are equal. -/
theorem agree_iff {left right : List UInt8} {count : ℕ} :
    (∀ place < size count, ¬ IsReserved place → left[place]? = right[place]?) ↔
      left.take headerSize = right.take headerSize ∧
        ∀ i < count, (recordAt left i).take contentSize = (recordAt right i).take contentSize := by
  rw [forall_place_iff, take_eq_take_iff_getElem?]
  refine and_congr ?_ (forall₂_congr fun i hi ↦ ?_)
  · refine forall₂_congr fun place hplace ↦ ?_
    have hfree : ¬ IsReserved place := fun hreserved ↦ absurd hplace (not_lt.mpr hreserved.1)
    simp only [hfree, not_false_eq_true, forall_const]
  · rw [take_eq_take_iff_getElem?]
    constructor
    · intro hagree offset hoffset
      have hinside : offset < recordSize := lt_trans hoffset (by decide)
      rw [getElem?_recordAt left i hinside, getElem?_recordAt right i hinside]
      exact hagree offset hinside fun hreserved ↦
        absurd hoffset (not_lt.mpr ((isReserved_size_add hinside).mp hreserved))
    · intro hagree offset hinside hfree
      rw [isReserved_size_add hinside, not_le] at hfree
      rw [← getElem?_recordAt left i hinside, ← getElem?_recordAt right i hinside]
      exact hagree offset hfree

theorem size_inj {count otherCount : ℕ} : size count = size otherCount ↔ count = otherCount := by
  simp only [size, recordSize]
  omega

/-- The header is what is written for the sequence number that is read from it. -/
theorem bigEndian_sequence {packet : List UInt8} {count : ℕ}
    (hlength : packet.length = size count) :
    bigEndian 4 (UInt32.ofNat (ofBigEndian (packet.take headerSize))).toNat =
      packet.take headerSize := by
  have hfits : 0 + 4 ≤ packet.length := by
    rw [hlength, size, headerSize]
    omega
  obtain ⟨hlt, hbytes⟩ := bigEndian_take_drop hfits
  rw [List.drop_zero] at hlt hbytes
  rw [headerSize, UInt32.toNat_ofNat_of_lt' hlt, hbytes]

/-- Two packets that can be read are read alike when they agree at all places that are not
reserved. -/
theorem decoded_eq_iff {left right : List UInt8} {leftDecoded rightDecoded : Decoded}
    (hleft : decode left = .ok leftDecoded) (hright : decode right = .ok rightDecoded) :
    leftDecoded = rightDecoded ↔
      left.length = right.length ∧
        ∀ place < left.length, ¬ IsReserved place → left[place]? = right[place]? := by
  obtain ⟨leftCount, hleftLength⟩ := length_of_decode hleft
  obtain ⟨rightCount, hrightLength⟩ := length_of_decode hright
  rw [decode_of_length hleftLength, Except.ok.injEq] at hleft
  rw [decode_of_length hrightLength, Except.ok.injEq] at hright
  subst hleft hright
  rw [hleftLength, hrightLength, agree_iff, Decoded.mk.injEq]
  constructor
  · rintro ⟨hsequence, hrecords⟩
    have hcount : leftCount = rightCount := by simpa using congrArg List.length hrecords
    subst hcount
    refine ⟨rfl, ?_, fun i hi ↦ ?_⟩
    · rw [← bigEndian_sequence hleftLength, hsequence, bigEndian_sequence hrightLength]
    · rw [← decodeRecord_eq_iff (length_recordAt hleftLength hi) (length_recordAt hrightLength hi)]
      exact List.map_inj_left.mp hrecords i (List.mem_range.mpr hi)
  · rintro ⟨hsize, hheader, hcontents⟩
    have hcount : leftCount = rightCount := size_inj.mp hsize
    subst hcount
    refine ⟨by rw [hheader], List.map_inj_left.mpr fun i hmem ↦ ?_⟩
    have hi : i < leftCount := List.mem_range.mp hmem
    rw [decodeRecord_eq_iff (length_recordAt hleftLength hi) (length_recordAt hrightLength hi)]
    exact hcontents i hi

/-! ### What can be written -/

/-- An update whose content is given. -/
def updateOf (bytes : List UInt8) : Update UInt64 where
  light := lightOf (wordAt bytes 0)
  brightness := some (wordAt bytes 4)
  hue := some (bitsAt bytes 8)
  saturation := some (bitsAt bytes 16)
  transition := some (wordAt bytes 24)

theorem contentOf_updateOf {bytes : List UInt8} (hlength : bytes.length = contentSize) :
    contentOf (updateOf bytes) = bytes := by
  rw [contentOf, updateOf, idHash_lightOf]
  exact content_of_length hlength

/-- The reserved places of a packet hold zeros when its records end in a zero word. -/
theorem reserved_zero_iff {packet : List UInt8} {count : ℕ}
    (hlength : packet.length = size count) :
    (∀ place < packet.length, IsReserved place → packet[place]? = some 0) ↔
      ∀ i < count, (recordAt packet i).drop contentSize = wordBytes 0 := by
  have hheader : ∀ place < headerSize, IsReserved place → packet[place]? = some 0 :=
    fun place hplace hreserved ↦ absurd hplace (not_lt.mpr hreserved.1)
  rw [hlength, forall_place_iff, and_iff_right hheader]
  refine forall₂_congr fun i hi ↦ ?_
  have hrecord := length_recordAt hlength hi
  have hzero : wordBytes 0 = List.replicate (recordSize - contentSize) 0 := rfl
  constructor
  · intro hreserved
    rw [hzero, List.eq_replicate_iff, List.length_drop, hrecord]
    refine ⟨rfl, fun byte hbyte ↦ ?_⟩
    obtain ⟨offset, hoffset⟩ := List.mem_iff_getElem?.mp hbyte
    rw [List.getElem?_drop] at hoffset
    have hinside : contentSize + offset < recordSize :=
      hrecord ▸ (List.getElem?_eq_some_iff.mp hoffset).1
    rw [getElem?_recordAt packet i hinside, hreserved _ hinside
      ((isReserved_size_add hinside).mpr (Nat.le_add_right ..))] at hoffset
    exact (Option.some.inj hoffset).symm
  · intro hdrop offset hinside hreserved
    rw [isReserved_size_add hinside] at hreserved
    obtain ⟨rest, rfl⟩ := Nat.exists_eq_add_of_le hreserved
    have hrest : rest < recordSize - contentSize := Nat.lt_sub_iff_add_lt'.mpr hinside
    rw [← getElem?_recordAt packet i hinside, ← List.getElem?_drop, hdrop, hzero,
      List.getElem?_replicate, if_pos hrest]

/-- The packets that can be written are those with a whole number of records and zeros at the
reserved places. -/
theorem exists_encode_iff {packet : List UInt8} :
    (∃ frame sequence, packet = encode frame sequence) ↔
      ∃ count, packet.length = size count ∧
        ∀ place < packet.length, IsReserved place → packet[place]? = some 0 := by
  constructor
  · rintro ⟨frame, sequence, rfl⟩
    refine ⟨frame.updates.length, length_encode frame sequence, ?_⟩
    rw [reserved_zero_iff (length_encode frame sequence)]
    intro i hi
    rw [recordAt_encode frame sequence hi, encodeRecord_eq]
    exact List.drop_left' (length_content ..)
  · rintro ⟨count, hlength, hzero⟩
    rw [reserved_zero_iff hlength] at hzero
    refine ⟨⟨(List.range count).map fun i ↦ updateOf ((recordAt packet i).take contentSize), 0,
      none⟩, UInt32.ofNat (ofBigEndian (packet.take headerSize)), ?_⟩
    have hrecords : (List.range count).flatMap (fun i ↦
        encodeRecord (updateOf ((recordAt packet i).take contentSize))) =
          (List.range count).flatMap (recordAt packet) := by
      refine List.flatMap_congr fun i hmem ↦ ?_
      have hi : i < count := List.mem_range.mp hmem
      have hcontent : ((recordAt packet i).take contentSize).length = contentSize := by
        rw [List.length_take, length_recordAt hlength hi]
        rfl
      rw [encodeRecord_eq, contentOf_updateOf hcontent, ← hzero i hi, List.take_append_drop]
    rw [encode, bigEndian_sequence hlength, List.flatMap_map, hrecords,
      take_append_flatMap_recordAt hlength]

/-- A packet can be read exactly when it is a header and a whole number of records, which is the
number of records that are read. Two packets that can be read are read alike exactly when they agree
at all places but the reserved ones. A packet can be written exactly when it is a header and a whole
number of records with zeros at the reserved places; in particular every word is the hash of a
light. -/
theorem format_exact :
    (∀ packet, (∃ decoded, decode packet = .ok decoded) ↔
      ∃ count, packet.length = 4 + 32 * count) ∧
    (∀ packet decoded, decode packet = .ok decoded →
      packet.length = 4 + 32 * decoded.records.length) ∧
    (∀ left right leftDecoded rightDecoded, decode left = .ok leftDecoded →
      decode right = .ok rightDecoded →
      (leftDecoded = rightDecoded ↔ left.length = right.length ∧
        ∀ place < left.length, ¬ IsReserved place → left[place]? = right[place]?)) ∧
    (∀ packet, (∃ frame sequence, packet = encode frame sequence) ↔
      ∃ count, packet.length = 4 + 32 * count ∧
        ∀ place < packet.length, IsReserved place → packet[place]? = some 0) ∧
    ∀ hash, ∃ light, idHash light = hash := by
  have hsize (count : ℕ) : size count = 4 + 32 * count := by rw [size, Nat.mul_comm]; rfl
  simp only [← hsize]
  refine ⟨fun packet ↦ ⟨?_, ?_⟩, ?_, ?_, fun packet ↦ exists_encode_iff,
    fun hash ↦ ⟨lightOf hash, idHash_lightOf hash⟩⟩
  · rintro ⟨decoded, hdecode⟩
    exact length_of_decode hdecode
  · rintro ⟨count, hlength⟩
    exact ⟨_, decode_of_length hlength⟩
  · intro packet decoded hdecode
    obtain ⟨count, hlength⟩ := length_of_decode hdecode
    rw [decode_of_length hlength, Except.ok.injEq] at hdecode
    rw [← hdecode, List.length_map, List.length_range, hlength]
  · intro left right leftDecoded rightDecoded hleft hright
    exact decoded_eq_iff hleft hright

/-- Two packets of one record that differ in a reserved byte are read alike, and the one in which
that byte is not zero is not the packet of any frame. -/
theorem format_exact_last_byte :
    let left : List UInt8 := List.replicate 36 0
    let right : List UInt8 := List.replicate 35 0 ++ [9]
    ∃ leftDecoded rightDecoded, decode left = .ok leftDecoded ∧ decode right = .ok rightDecoded ∧
      right.length = 4 + 32 * rightDecoded.records.length ∧ leftDecoded = rightDecoded ∧
      ¬ ∃ frame sequence, right = encode frame sequence := by
  intro left right
  obtain ⟨-, hcount, halike, hwritten, -⟩ := format_exact
  have hleft : decode left = .ok ⟨0, [⟨0, some 0, some 0, some 0, some 0⟩]⟩ := by decide
  have hright : decode right = .ok ⟨0, [⟨0, some 0, some 0, some 0, some 0⟩]⟩ := by decide
  refine ⟨_, _, hleft, hright, hcount right _ hright, ?_, ?_⟩
  · exact (halike left right _ _ hleft hright).mpr ⟨rfl, by decide⟩
  · rw [hwritten right]
    rintro ⟨-, -, hzero⟩
    exact absurd (hzero 35 (by decide) (by decide)) (by decide)

end Packet

end LightShow
