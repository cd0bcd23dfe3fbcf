import LightShow.Audio.WaveSource
import LightShow.Proofs.Bytes.Layout

/-!
# What is known of a WAVE file that opens

Reading a header takes bytes from the front of the file and leaves the others, so what is left for
the samples is the end of the file, from behind the length of the data chunk on (`opened`). A format
chunk without channels is refused, and no later step changes the number of channels; so a file that
opens has channels.
-/

set_option autoImplicit false

namespace LightShow

namespace Wave

/-! ### Steps that succeed -/

theorem ok_of_bind {ε α β : Type} {action : Except ε α} {next : α → Except ε β} {result : β}
    (hbind : action >>= next = .ok result) :
    ∃ value, action = .ok value ∧ next value = .ok result := by
  cases action with
  | error error => cases hbind
  | ok value => exact ⟨value, rfl, hbind⟩

theorem refuse_eq_ok {condition : Bool} {error : WaveError} {done : Unit}
    (hrefuse : refuse condition error = .ok done) : condition = false := by
  cases condition with
  | false => rfl
  | true => cases hrefuse

theorem take_eq_ok {count : ℕ} {bytes front rest : List UInt8}
    (htake : take count bytes = .ok (front, rest)) :
    bytes = front ++ rest ∧ front.length = count := by
  unfold take at htake
  split_ifs at htake with hshort
  obtain ⟨rfl, rfl⟩ := Prod.mk.inj (Except.ok.inj htake)
  exact ⟨(List.take_append_drop count bytes).symm, List.length_take_of_le (Nat.not_lt.mp hshort)⟩

theorem number_eq_ok {width value : ℕ} {bytes rest : List UInt8}
    (hnumber : number width bytes = .ok (value, rest)) :
    ∃ digits, bytes = digits ++ rest ∧ digits.length = width ∧ value = ofLittleEndian digits := by
  obtain ⟨⟨digits, left⟩, htake, hvalue⟩ := ok_of_bind hnumber
  obtain ⟨rfl, rfl⟩ := Prod.mk.inj (Except.ok.inj hvalue)
  obtain ⟨hbytes, hlength⟩ := take_eq_ok htake
  exact ⟨digits, hbytes, hlength, rfl⟩

theorem number_suffix {width value : ℕ} {bytes rest : List UInt8}
    (hnumber : number width bytes = .ok (value, rest)) : rest <:+ bytes := by
  obtain ⟨digits, rfl, -⟩ := number_eq_ok hnumber
  exact List.suffix_append digits rest

theorem take_suffix {count : ℕ} {bytes front rest : List UInt8}
    (htake : take count bytes = .ok (front, rest)) : rest <:+ bytes := by
  rw [(take_eq_ok htake).1]
  exact List.suffix_append front rest

/-! ### Format chunks -/

/-- What follows the common part of a format chunk keeps the number of channels and reads on from
where it is. -/
def KeepsChannels (ending : Layout → List UInt8 → Except WaveError (Layout × List UInt8)) : Prop :=
  ∀ layout bytes next rest, ending layout bytes = .ok (next, rest) →
    next.spec.channels = layout.spec.channels ∧ rest <:+ bytes

theorem keepsChannels_plainFormat (length : ℕ) : KeepsChannels (plainFormat length) := by
  intro layout bytes next rest hformat
  unfold plainFormat at hformat
  split_ifs at hformat with hlength
  · obtain ⟨rfl, rfl⟩ := Prod.mk.inj (Except.ok.inj hformat)
    exact ⟨rfl, List.suffix_rfl⟩
  · obtain ⟨-, -, hformat⟩ := ok_of_bind hformat
    obtain ⟨⟨extension, afterExtension⟩, hextension, hformat⟩ := ok_of_bind hformat
    obtain ⟨-, -, hformat⟩ := ok_of_bind hformat
    obtain ⟨⟨skipped, afterSkipped⟩, hskipped, hformat⟩ := ok_of_bind hformat
    obtain ⟨rfl, rfl⟩ := Prod.mk.inj (Except.ok.inj hformat)
    exact ⟨rfl, (take_suffix hskipped).trans (number_suffix hextension)⟩

theorem keepsChannels_floatFormat (length : ℕ) : KeepsChannels (floatFormat length) := by
  intro layout bytes next rest hformat
  obtain ⟨-, -, hformat⟩ := ok_of_bind hformat
  have hextension : ∃ extension afterExtension, afterExtension <:+ bytes ∧
      (refuse (extension ≠ 0) .unexpectedExtension >>= fun _ ↦
        refuse (layout.spec.bitsPerSample ≠ 32) .bitsNotFloat >>= fun _ ↦
          .ok ({ layout with spec := { layout.spec with format := .float } }, afterExtension)) =
        .ok (next, rest) := by
    dsimp only at hformat
    split_ifs at hformat with hlength
    · obtain ⟨⟨extension, afterExtension⟩, hnumber, hformat⟩ := ok_of_bind hformat
      exact ⟨extension, afterExtension, number_suffix hnumber, hformat⟩
    · exact ⟨0, bytes, List.suffix_rfl, hformat⟩
  obtain ⟨extension, afterExtension, hsuffix, hformat⟩ := hextension
  obtain ⟨-, -, hformat⟩ := ok_of_bind hformat
  obtain ⟨-, -, hformat⟩ := ok_of_bind hformat
  obtain ⟨rfl, rfl⟩ := Prod.mk.inj (Except.ok.inj hformat)
  exact ⟨rfl, hsuffix⟩

theorem keepsChannels_extensibleFormat (length : ℕ) : KeepsChannels (extensibleFormat length) := by
  intro layout bytes next rest hformat
  obtain ⟨-, -, hformat⟩ := ok_of_bind hformat
  obtain ⟨⟨extension, afterExtension⟩, hextension, hformat⟩ := ok_of_bind hformat
  obtain ⟨-, -, hformat⟩ := ok_of_bind hformat
  obtain ⟨⟨validBits, afterBits⟩, hbits, hformat⟩ := ok_of_bind hformat
  obtain ⟨⟨mask, afterMask⟩, hmask, hformat⟩ := ok_of_bind hformat
  obtain ⟨⟨guid, afterGuid⟩, hguid, hformat⟩ := ok_of_bind hformat
  obtain ⟨-, -, hformat⟩ := ok_of_bind hformat
  obtain ⟨rfl, rfl⟩ := Prod.mk.inj (Except.ok.inj hformat)
  exact ⟨rfl, (take_suffix hguid).trans <| (number_suffix hmask).trans <|
    (number_suffix hbits).trans (number_suffix hextension)⟩

/-- A format has channels. -/
def Layout.HasChannels (layout : Layout) : Prop :=
  0 < layout.spec.channels.toNat

theorem hasChannels_of_formatChunk {length : ℕ} {bytes rest : List UInt8} {layout : Layout}
    (hchunk : formatChunk length bytes = .ok (layout, rest)) :
    layout.HasChannels ∧ rest <:+ bytes := by
  obtain ⟨-, -, hchunk⟩ := ok_of_bind hchunk
  obtain ⟨⟨kind, afterKind⟩, hkind, hchunk⟩ := ok_of_bind hchunk
  obtain ⟨⟨channels, afterChannels⟩, hchannels, hchunk⟩ := ok_of_bind hchunk
  obtain ⟨⟨rate, afterRate⟩, hrate, hchunk⟩ := ok_of_bind hchunk
  obtain ⟨⟨byteRate, afterByteRate⟩, hbyteRate, hchunk⟩ := ok_of_bind hchunk
  obtain ⟨⟨align, afterAlign⟩, halign, hchunk⟩ := ok_of_bind hchunk
  obtain ⟨⟨bits, afterBits⟩, hbits, hchunk⟩ := ok_of_bind hchunk
  obtain ⟨_, hnonzero, hchunk⟩ := ok_of_bind hchunk
  obtain ⟨-, -, hchunk⟩ := ok_of_bind hchunk
  obtain ⟨-, -, hchunk⟩ := ok_of_bind hchunk
  obtain ⟨-, -, hchunk⟩ := ok_of_bind hchunk
  obtain ⟨-, -, hchunk⟩ := ok_of_bind hchunk
  have hsuffix : afterBits <:+ bytes :=
    (number_suffix hbits).trans <| (number_suffix halign).trans <|
      (number_suffix hbyteRate).trans <| (number_suffix hrate).trans <|
        (number_suffix hchannels).trans (number_suffix hkind)
  have hpositive : 0 < (UInt16.ofNat channels).toNat := by
    obtain ⟨digits, -, hwidth, rfl⟩ := number_eq_ok hchannels
    have hsmall := ofLittleEndian_lt digits
    have hne : ofLittleEndian digits ≠ 0 := by simpa using refuse_eq_ok hnonzero
    rw [hwidth] at hsmall
    rw [UInt16.toNat_ofNat']
    omega
  have hkept (ending : Layout → List UInt8 → Except WaveError (Layout × List UInt8))
      (hkeeps : KeepsChannels ending) (start : Layout)
      (hstart : start.spec.channels = UInt16.ofNat channels)
      (hending : ending start afterBits = .ok (layout, rest)) :
      layout.HasChannels ∧ rest <:+ bytes := by
    obtain ⟨hsame, hrest⟩ := hkeeps _ _ _ _ hending
    refine ⟨?_, hrest.trans hsuffix⟩
    rw [Layout.HasChannels, hsame, hstart]
    exact hpositive
  split at hchunk
  · exact hkept _ (keepsChannels_plainFormat length) _ rfl hchunk
  · exact hkept _ (keepsChannels_floatFormat length) _ rfl hchunk
  · exact hkept _ (keepsChannels_extensibleFormat length) _ rfl hchunk
  · cases hchunk

/-! ### Files -/

/-- A reader at the first sample of a file: the file ends with the data chunk's name, its length and
what is left to read. -/
structure Opened (bytes : List UInt8) (reader : Reader) : Prop where
  hasChannels : reader.layout.HasChannels
  count : reader.count = 0
  data : ∃ before size, bytes = before ++ (tag "data" ++ (size ++ reader.rest)) ∧
    size.length = 4 ∧ reader.declared = ofLittleEndian size / reader.layout.sampleBytes

theorem Opened.of_suffix {bytes rest : List UInt8} {reader : Reader}
    (hopened : Opened rest reader) (hsuffix : rest <:+ bytes) : Opened bytes reader := by
  obtain ⟨hchannels, hcount, before, size, rfl, hsize⟩ := hopened
  obtain ⟨front, rfl⟩ := hsuffix
  exact ⟨hchannels, hcount, front ++ before, size, by simp, hsize⟩

/-- A data chunk gives less than `2 ^ 32` samples. -/
theorem Opened.declared_lt {bytes : List UInt8} {reader : Reader} (hopened : Opened bytes reader) :
    reader.declared < 2 ^ 32 := by
  obtain ⟨before, size, -, hsize, hdeclared⟩ := hopened.data
  have hbound := ofLittleEndian_lt size
  rw [hsize] at hbound
  rw [hdeclared]
  exact (Nat.div_le_self _ _).trans_lt hbound

theorem opened_of_chunksFrom {fuel : ℕ} {layout : Option Layout} {bytes : List UInt8}
    {reader : Reader} (hlayout : ∀ found ∈ layout, found.HasChannels)
    (hchunks : chunksFrom fuel layout bytes = .ok reader) : Opened bytes reader := by
  induction fuel generalizing layout bytes with
  | zero => cases hchunks
  | succ fuel ih =>
    obtain ⟨⟨name, afterName⟩, hname, hchunks⟩ := ok_of_bind hchunks
    obtain ⟨⟨length, afterLength⟩, hlength, hchunks⟩ := ok_of_bind hchunks
    have hsuffix : afterLength <:+ bytes := (number_suffix hlength).trans (take_suffix hname)
    dsimp only at hchunks
    split_ifs at hchunks with hformat hfact hdata
    · obtain ⟨⟨found, afterFormat⟩, hfound, hchunks⟩ := ok_of_bind hchunks
      obtain ⟨hchannels, hafter⟩ := hasChannels_of_formatChunk hfound
      refine (ih ?_ hchunks).of_suffix (hafter.trans hsuffix)
      rintro _ ⟨⟩
      exact hchannels
    · exact (ih hlayout hchunks).of_suffix ((List.drop_suffix _ _).trans hsuffix)
    · obtain ⟨rfl, -⟩ := take_eq_ok hname
      obtain ⟨size, rfl, hsize, rfl⟩ := number_eq_ok hlength
      cases layout with
      | none => cases hchunks
      | some found =>
        obtain ⟨-, -, hchunks⟩ := ok_of_bind hchunks
        obtain ⟨-, -, hchunks⟩ := ok_of_bind hchunks
        obtain rfl := Except.ok.inj hchunks
        exact ⟨hlayout found rfl, rfl, [], size, by rw [hdata]; rfl, hsize, rfl⟩
    · obtain ⟨⟨skipped, afterSkipped⟩, hskipped, hchunks⟩ := ok_of_bind hchunks
      exact (ih hlayout hchunks).of_suffix ((take_suffix hskipped).trans hsuffix)

theorem opened {bytes : List UInt8} {reader : Reader} (hopen : open? bytes = .ok reader) :
    Opened bytes reader := by
  obtain ⟨⟨riff, afterRiff⟩, hriff, hopen⟩ := ok_of_bind hopen
  obtain ⟨-, -, hopen⟩ := ok_of_bind hopen
  obtain ⟨⟨length, afterLength⟩, hlength, hopen⟩ := ok_of_bind hopen
  obtain ⟨⟨wave, afterWave⟩, hwave, hopen⟩ := ok_of_bind hopen
  obtain ⟨-, -, hopen⟩ := ok_of_bind hopen
  exact (opened_of_chunksFrom (by simp) hopen).of_suffix
    ((take_suffix hwave).trans ((number_suffix hlength).trans (take_suffix hriff)))

end Wave

end LightShow
