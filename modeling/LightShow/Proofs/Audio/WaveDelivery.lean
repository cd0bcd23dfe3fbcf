import LightShow.Proofs.Audio.WaveReading
import Mathlib.Data.List.DropRight

/-!
# A source delivers its samples once and in order

Whatever reader a source has, if it serves a file the source gives full blocks while the file holds
them (`Plays.polls_blocks`). If the file is complete, a last block takes what is left over, and then
there is nothing (`Plays.polls_complete`). If it is not, what is left over is lost, there is an
error for each sample that is missing, and then there is nothing (`Plays.polls_truncated`). The
blocks put together are the bytes of the samples that the file holds (`flatMap_data_block`). The
reader of a WAVE file is such a reader.

Over any starts, polls and stops, the count of a source is the number of blocks it gave since it was
last opened (`frameCount_run`).
-/

set_option autoImplicit false

namespace LightShow

/-! ### Polls -/

namespace SampleSource

variable {ρ : Type} [SampleReader ρ] {fails : WaveError → Prop} {spec : WaveSpec} {left : ℕ}
  {held : List Int16} {source : SampleSource ρ}

/-- What so many polls give. -/
def polls : ℕ → SampleSource ρ → List (Except SourceError (Option AudioFrame))
  | 0, _ => []
  | count + 1, source => source.poll.2 :: polls count source.poll.1

/-- A source that is open on a file, with a reader that serves it. -/
structure Plays (fails : WaveError → Prop) (spec : WaveSpec) (left : ℕ) (held : List Int16)
    (source : SampleSource ρ) : Prop where
  format : source.spec = some spec
  hasChannels : 0 < spec.channels.toNat
  serves : ∃ reader, source.reader = some reader ∧ SampleReader.Serves fails left held reader

theorem Plays.blockSamples_pos (hplays : Plays fails spec left held source) :
    0 < spec.blockSamples :=
  Nat.mul_pos (by decide) hplays.hasChannels

theorem sampleFrames_blockOf (hchannels : 0 < spec.channels.toNat) (position : ℕ)
    (samples : List Int16) :
    (blockOf spec position samples).sampleFrames = samples.length / spec.channels.toNat := by
  simp only [AudioFrame.sampleFrames, blockOf, Pcm.channelCount, Pcm.length_flatMap_sampleBytes,
    Nat.max_eq_left hchannels, Nat.mul_div_cancel_left _ Nat.two_pos]

theorem poll_eq {reader : ρ} (hspec : source.spec = some spec)
    (hreader : source.reader = some reader) :
    source.poll =
      match SampleReader.read spec.blockSamples reader with
      | (reader, .error error) => ({ source with reader := some reader }, .error (.wave error))
      | (reader, .ok samples) =>
        if samples.isEmpty then ({ source with reader := some reader }, .ok none)
        else
          ({ source with
              reader := some reader
              frameCount := source.frameCount + 1
              position :=
                source.position + (blockOf spec source.position samples).sampleFrames },
            .ok (some (blockOf spec source.position samples))) := by
  rw [poll, hspec, hreader]
  rfl

/-- A poll gives what is left up to a block, if the file holds it. -/
theorem Plays.poll_of_le (hplays : Plays fails spec left held source) {count : ℕ}
    (hcount : count = min spec.blockSamples left) (hpositive : 0 < count)
    (hheld : count ≤ held.length) :
    ∃ next, source.poll = (next, .ok (some (blockOf spec source.position (held.take count)))) ∧
      Plays fails spec (left - count) (held.drop count) next ∧
      next.position = source.position + count / spec.channels.toNat := by
  obtain ⟨hspec, hchannels, reader, hreader, hserves⟩ := hplays
  subst hcount
  obtain ⟨later, hread, hlater⟩ := hserves.read_of_le hheld
  have hsome : (held.take (min spec.blockSamples left)).isEmpty = false := by
    rw [List.isEmpty_eq_false_iff, ← List.length_pos_iff, List.length_take]
    omega
  have hframes := sampleFrames_blockOf hchannels source.position
    (held.take (min spec.blockSamples left))
  rw [List.length_take, Nat.min_eq_left hheld] at hframes
  rw [poll_eq hspec hreader, hread]
  simp only [hsome, Bool.false_eq_true, if_false, hframes]
  exact ⟨_, rfl, ⟨hspec, hchannels, later, rfl, hlater⟩, rfl⟩

/-- Behind the declared samples there is nothing. -/
theorem Plays.poll_of_ended (hplays : Plays fails spec 0 held source) :
    ∃ next, source.poll = (next, .ok none) ∧ Plays fails spec 0 held next := by
  obtain ⟨hspec, hchannels, reader, hreader, hserves⟩ := hplays
  obtain ⟨later, hread, hlater⟩ :=
    hserves.read_of_le (by simp : min spec.blockSamples 0 ≤ held.length)
  rw [Nat.min_zero] at hread hlater
  rw [poll_eq hspec hreader, hread]
  exact ⟨_, rfl, hspec, hchannels, later, rfl, hlater⟩

/-- A sample that is missing is an error. -/
theorem Plays.poll_of_lt (hplays : Plays fails spec left held source)
    (hheld : held.length < min spec.blockSamples left) :
    ∃ next error, fails error ∧ source.poll = (next, .error (.wave error)) ∧
      Plays fails spec (left - held.length - 1) [] next := by
  obtain ⟨hspec, hchannels, reader, hreader, hserves⟩ := hplays
  obtain ⟨later, error, hfails, hread, hlater⟩ := hserves.read_of_lt hheld
  rw [poll_eq hspec hreader, hread]
  exact ⟨_, error, hfails, rfl, hspec, hchannels, later, rfl, hlater⟩

theorem Plays.polls_ended (hplays : Plays fails spec 0 held source) (count : ℕ) :
    polls count source = List.replicate count (.ok none) := by
  induction count generalizing source with
  | zero => rfl
  | succ count ih =>
    obtain ⟨next, hpoll, hnext⟩ := hplays.poll_of_ended
    rw [polls, hpoll, ih hnext]
    rfl

/-- What comes when the file holds no block any more: errors, and then nothing. -/
def Fades (fails : WaveError → Prop) (missing : ℕ) (source : SampleSource ρ) : Prop :=
  ∃ errors : List WaveError, errors.length = missing ∧ (∀ error ∈ errors, fails error) ∧
    ∀ count, polls (missing + count) source =
      errors.map (fun error ↦ .error (.wave error)) ++ List.replicate count (.ok none)

/-- Where the file holds nothing more, each sample that is left is an error. -/
theorem Plays.fades_of_nil (hplays : Plays fails spec left [] source) :
    Fades fails left source := by
  induction left generalizing source with
  | zero =>
    refine ⟨[], rfl, nofun, fun count ↦ ?_⟩
    rw [Nat.zero_add]
    exact hplays.polls_ended count
  | succ left ih =>
    obtain ⟨next, error, hfails, hpoll, hnext⟩ := hplays.poll_of_lt
      (lt_min hplays.blockSamples_pos (Nat.succ_pos _))
    obtain ⟨errors, hlength, herrors, hpolls⟩ := ih hnext
    refine ⟨error :: errors, by rw [List.length_cons, hlength],
      List.forall_mem_cons.mpr ⟨hfails, herrors⟩, fun count ↦ ?_⟩
    rw [Nat.succ_add, polls, hpoll, hpolls]
    rfl

/-- Of a file that is damaged within the next block there are as many errors as samples are
missing. -/
theorem Plays.fades_of_lt (hplays : Plays fails spec left held source)
    (hblock : held.length < spec.blockSamples) (hheld : held.length < left) :
    Fades fails (left - held.length) source := by
  obtain ⟨next, error, hfails, hpoll, hnext⟩ := hplays.poll_of_lt (lt_min hblock hheld)
  obtain ⟨errors, hlength, herrors, hpolls⟩ := hnext.fades_of_nil
  refine ⟨error :: errors, by rw [List.length_cons, hlength]; omega,
    List.forall_mem_cons.mpr ⟨hfails, herrors⟩, fun count ↦ ?_⟩
  rw [show left - held.length + count = left - held.length - 1 + count + 1 by omega, polls, hpoll,
    hpolls]
  rfl

/-- The block after so many full ones from a position on: the next samples, as many as are left up
to a full block. -/
def block (spec : WaveSpec) (position left : ℕ) (held : List Int16) (index : ℕ) : AudioFrame :=
  blockOf spec (position + index * blockFrames)
    ((held.drop (index * spec.blockSamples)).take
      (min spec.blockSamples (left - index * spec.blockSamples)))

/-- As long as the file holds full blocks, each poll gives the next one. -/
theorem Plays.polls_blocks (hplays : Plays fails spec left held source) {blocks : ℕ}
    (hleft : blocks * spec.blockSamples ≤ left)
    (hheld : blocks * spec.blockSamples ≤ held.length) :
    ∃ next : SampleSource ρ, Plays fails spec (left - blocks * spec.blockSamples)
        (held.drop (blocks * spec.blockSamples)) next ∧
      next.position = source.position + blocks * blockFrames ∧
      ∀ count, polls (blocks + count) source =
        (List.range blocks).map (fun index ↦
          .ok (some (block spec source.position left held index))) ++ polls count next := by
  induction blocks with
  | zero => exact ⟨source, by simpa using hplays, by simp, fun count ↦ by simp⟩
  | succ blocks ih =>
    rw [Nat.succ_mul] at hleft hheld
    obtain ⟨middle, hmiddle, hposition, hpolls⟩ := ih (by omega) (by omega)
    have hfull : spec.blockSamples =
        min spec.blockSamples (left - blocks * spec.blockSamples) := by omega
    obtain ⟨next, hpoll, hnext, hadvance⟩ := hmiddle.poll_of_le hfull hplays.blockSamples_pos
      (by rw [List.length_drop]; omega)
    have hframes : spec.blockSamples / spec.channels.toNat = blockFrames :=
      Nat.mul_div_cancel _ hplays.hasChannels
    refine ⟨next, ?_, ?_, fun count ↦ ?_⟩
    · rw [List.drop_drop] at hnext
      rw [Nat.succ_mul, ← Nat.sub_sub]
      exact hnext
    · rw [hadvance, hposition, hframes, Nat.succ_mul, Nat.add_assoc]
    · rw [Nat.add_right_comm, Nat.add_assoc, hpolls, polls, hpoll, List.range_succ,
        List.map_append, List.append_assoc, hposition]
      simp only [List.map_cons, List.map_nil, block, ← hfull]
      rfl

/-- A file that holds all its samples is delivered in full blocks and a last one with what is left
over, and then there is nothing. -/
theorem Plays.polls_complete (hplays : Plays fails spec left held source)
    (hheld : left ≤ held.length) (count : ℕ) :
    polls ((left + spec.blockSamples - 1) / spec.blockSamples + count) source =
      (List.range ((left + spec.blockSamples - 1) / spec.blockSamples)).map
          (fun index ↦ .ok (some (block spec source.position left held index))) ++
        List.replicate count (.ok none) := by
  have hpositive := hplays.blockSamples_pos
  have hsplit := Nat.div_add_mod' left spec.blockSamples
  have hrest := Nat.mod_lt left hpositive
  generalize hblocks : left / spec.blockSamples = blocks at hsplit
  obtain ⟨next, hnext, hposition, hpolls⟩ :=
    hplays.polls_blocks (by omega : blocks * spec.blockSamples ≤ left) (by omega)
  rcases Nat.eq_zero_or_pos (left % spec.blockSamples) with hwhole | hpartial
  · have hceil : (left + spec.blockSamples - 1) / spec.blockSamples = blocks := by
      rw [Nat.div_eq_iff hpositive]
      omega
    have hnone : left - blocks * spec.blockSamples = 0 := by omega
    rw [hnone] at hnext
    rw [hceil, hpolls, hnext.polls_ended]
  · have hceil : (left + spec.blockSamples - 1) / spec.blockSamples = blocks + 1 := by
      rw [Nat.div_eq_iff hpositive, Nat.succ_mul]
      omega
    have hlast : left % spec.blockSamples =
        min spec.blockSamples (left - blocks * spec.blockSamples) := by omega
    obtain ⟨ended, hpoll, hended, -⟩ :=
      hnext.poll_of_le hlast hpartial (by rw [List.length_drop]; omega)
    have hnone : left - blocks * spec.blockSamples - left % spec.blockSamples = 0 := by omega
    rw [hnone] at hended
    rw [hceil, Nat.add_right_comm, Nat.add_assoc, hpolls, polls, hpoll, hended.polls_ended,
      List.range_succ, List.map_append, List.append_assoc, hposition]
    simp only [List.map_cons, List.map_nil, block, ← hlast]
    rfl

/-- A file that lacks some of its samples is delivered in the full blocks that it holds. Then there
is an error for each sample that it lacks, and then there is nothing. -/
theorem Plays.polls_truncated (hplays : Plays fails spec left held source)
    (hheld : held.length < left) :
    ∃ errors : List WaveError, errors.length = left - held.length ∧
      (∀ error ∈ errors, fails error) ∧
      ∀ count, polls (held.length / spec.blockSamples + (errors.length + count)) source =
        (List.range (held.length / spec.blockSamples)).map
            (fun index ↦ .ok (some (block spec source.position left held index))) ++
          (errors.map (fun error ↦ .error (.wave error)) ++ List.replicate count (.ok none)) := by
  have hpositive := hplays.blockSamples_pos
  have hsplit := Nat.div_add_mod' held.length spec.blockSamples
  have hrest := Nat.mod_lt held.length hpositive
  generalize held.length / spec.blockSamples = blocks at hsplit
  obtain ⟨next, hnext, -, hpolls⟩ :=
    hplays.polls_blocks (by omega : blocks * spec.blockSamples ≤ left) (by omega)
  obtain ⟨errors, hlength, herrors, hfade⟩ := hnext.fades_of_lt
    (by rw [List.length_drop]; omega) (by rw [List.length_drop]; omega)
  have hmissing : errors.length = left - held.length := by
    rw [hlength, List.length_drop]
    omega
  refine ⟨errors, hmissing, herrors, fun count ↦ ?_⟩
  rw [hpolls, hlength, hfade]

/-- The first blocks hold the first samples. -/
theorem flatMap_data_block (spec : WaveSpec) (position left : ℕ) (held : List Int16)
    (blocks : ℕ) :
    ((List.range blocks).map (block spec position left held)).flatMap (·.data) =
      (held.take (min (blocks * spec.blockSamples) left)).flatMap Pcm.sampleBytes := by
  induction blocks with
  | zero => simp
  | succ blocks ih =>
    have hgrow : min ((blocks + 1) * spec.blockSamples) left =
        min (blocks * spec.blockSamples) left +
          min spec.blockSamples (left - blocks * spec.blockSamples) := by
      rw [Nat.succ_mul blocks]
      omega
    rw [List.range_succ, List.map_append, List.flatMap_append, ih, hgrow, List.take_add,
      List.flatMap_append]
    congr 1
    simp only [List.map_cons, List.map_nil, List.flatMap_cons, List.flatMap_nil, List.append_nil,
      block, blockOf]
    rcases Nat.le_total (blocks * spec.blockSamples) left with hle | hle
    · rw [Nat.min_eq_left hle]
    · simp [Nat.sub_eq_zero_of_le hle]

theorem sampleFrames_block (hchannels : 0 < spec.channels.toNat) (position : ℕ) {index : ℕ}
    (hleft : (index + 1) * spec.blockSamples ≤ left)
    (hheld : (index + 1) * spec.blockSamples ≤ held.length) :
    (block spec position left held index).sampleFrames = blockFrames := by
  rw [Nat.succ_mul] at hleft hheld
  have hfull : min (min spec.blockSamples (left - index * spec.blockSamples))
      (held.length - index * spec.blockSamples) = spec.blockSamples := by omega
  rw [block, sampleFrames_blockOf hchannels, List.length_take, List.length_drop, hfull]
  exact Nat.mul_div_cancel _ hchannels

/-- How many blocks there are of a file that declares so many samples and holds so many. -/
def blockCount (spec : WaveSpec) (left held : ℕ) : ℕ :=
  if left ≤ held then (left + spec.blockSamples - 1) / spec.blockSamples
  else held / spec.blockSamples

/-- Each block starts with a sample that the file declares. -/
theorem mul_blockSamples_lt (hpositive : 0 < spec.blockSamples) {count index : ℕ}
    (hindex : index < blockCount spec left count) : index * spec.blockSamples < left := by
  unfold blockCount at hindex
  split_ifs at hindex with hheld
  · have hfits := (Nat.le_div_iff_mul_le hpositive).mp hindex
    rw [Nat.succ_mul] at hfits
    omega
  · have hfits := (Nat.le_div_iff_mul_le hpositive).mp hindex
    rw [Nat.succ_mul] at hfits
    omega

theorem toNat_timestamp_block (hchannels : 0 < spec.channels.toNat) {index : ℕ}
    (hindex : index * spec.blockSamples < 2 ^ 32) :
    (block spec 0 left held index).timestamp.toNat =
      index * blockFrames * 1000 / max spec.sampleRate.toNat 1 := by
  have hframes : index * blockFrames ≤ index * spec.blockSamples :=
    Nat.mul_le_mul_left index (Nat.le_mul_of_pos_right blockFrames hchannels)
  have hquotient := Nat.div_le_self (index * blockFrames * 1000) (max spec.sampleRate.toNat 1)
  simp only [block, blockOf, Nat.zero_add, UInt64.toNat_ofNat']
  exact Nat.mod_eq_of_lt (by omega)

/-- How a file is delivered that declares so many samples and holds these: in blocks of its format,
then with a failure for each sample that is missing, and then there is nothing. All samples of a
complete file are in its blocks, and only the last block may be short. All blocks of a file that
ends early are full. The time of a block is that of its first sample. -/
structure Delivers (fails : WaveError → Prop) (spec : WaveSpec) (left : ℕ) (held : List Int16)
    (source : SampleSource ρ) (blocks : List AudioFrame) (errors : List WaveError) : Prop where
  polls : ∀ count, polls (blocks.length + (errors.length + count)) source =
    blocks.map (fun block ↦ .ok (some block)) ++
      (errors.map (fun error ↦ .error (.wave error)) ++ List.replicate count (.ok none))
  missing : errors.length = left - held.length
  failures : ∀ error ∈ errors, fails error
  complete : left ≤ held.length →
    blocks.length = (left + spec.blockSamples - 1) / spec.blockSamples ∧
      blocks.flatMap (·.data) = (held.take left).flatMap Pcm.sampleBytes ∧
      ∀ block ∈ blocks.dropLast, block.sampleFrames = 1024
  truncated : held.length < left →
    blocks.length = held.length / spec.blockSamples ∧
      blocks.flatMap (·.data) =
        (held.take (held.length / spec.blockSamples * spec.blockSamples)).flatMap
          Pcm.sampleBytes ∧
      ∀ block ∈ blocks, block.sampleFrames = 1024
  format : ∀ index block, blocks[index]? = some block →
    block.sampleRate = spec.sampleRate ∧ block.channels = spec.channels ∧
      block.timestamp.toNat = index * 1024 * 1000 / max spec.sampleRate.toNat 1

/-- A source with a reader that serves a file delivers the file. -/
theorem Plays.exists_delivers (hplays : Plays fails spec left held source)
    (hposition : source.position = 0) (hleft : left < 2 ^ 32) :
    ∃ blocks errors, Delivers fails spec left held source blocks errors := by
  have hpositive := hplays.blockSamples_pos
  let count := blockCount spec left held.length
  let blocks := (List.range count).map (block spec 0 left held)
  have hlength : blocks.length = count := by rw [List.length_map, List.length_range]
  have hformat : ∀ index block, blocks[index]? = some block →
      block.sampleRate = spec.sampleRate ∧ block.channels = spec.channels ∧
        block.timestamp.toNat = index * 1024 * 1000 / max spec.sampleRate.toNat 1 := by
    intro index block hblock
    obtain ⟨hindex, rfl⟩ := List.getElem?_eq_some_iff.mp hblock
    rw [List.getElem_map, List.getElem_range]
    rw [hlength] at hindex
    have hlt := mul_blockSamples_lt hpositive hindex
    exact ⟨rfl, rfl, toNat_timestamp_block hplays.hasChannels (hlt.trans hleft)⟩
  rcases Nat.lt_or_ge held.length left with hheld | hheld
  · have hcount : count = held.length / spec.blockSamples := if_neg (Nat.not_le_of_lt hheld)
    have hfits := Nat.div_mul_le_self held.length spec.blockSamples
    obtain ⟨errors, hmissing, hfailures, hpolls⟩ := hplays.polls_truncated hheld
    refine ⟨blocks, errors, fun more ↦ ?_, hmissing, hfailures,
      fun hfull ↦ absurd hfull (Nat.not_le_of_lt hheld), fun _ ↦ ?_, hformat⟩
    · have hmore := hpolls more
      rw [← hcount, hposition] at hmore
      rw [hlength, hmore, List.map_map]
      rfl
    · refine ⟨hlength.trans hcount, ?_, fun block hblock ↦ ?_⟩
      · rw [flatMap_data_block, hcount, Nat.min_eq_left (by omega)]
      · obtain ⟨index, hindex, rfl⟩ := List.mem_map.mp hblock
        rw [List.mem_range, hcount] at hindex
        have hle : (index + 1) * spec.blockSamples ≤ held.length :=
          (Nat.le_div_iff_mul_le hpositive).mp hindex
        exact sampleFrames_block hplays.hasChannels 0 (hle.trans hheld.le) hle
  · have hcount : count = (left + spec.blockSamples - 1) / spec.blockSamples := if_pos hheld
    have hcover : left ≤ count * spec.blockSamples := by
      have hlt := @Nat.lt_div_mul_add (left + spec.blockSamples - 1) _ hpositive
      rw [hcount]
      omega
    refine ⟨blocks, [], fun more ↦ ?_, (Nat.sub_eq_zero_of_le hheld).symm, nofun, fun _ ↦ ?_,
      fun hshort ↦ absurd hheld (Nat.not_le_of_lt hshort), hformat⟩
    · have hpolls := hplays.polls_complete hheld more
      rw [← hcount, hposition] at hpolls
      rw [hlength, List.length_nil, Nat.zero_add, hpolls, List.map_map]
      rfl
    · refine ⟨hlength.trans hcount, ?_, fun block hblock ↦ ?_⟩
      · rw [flatMap_data_block, Nat.min_eq_right hcover]
      · rw [List.dropLast_eq_take, ← List.map_take, List.take_range, hlength] at hblock
        obtain ⟨index, hindex, rfl⟩ := List.mem_map.mp hblock
        rw [List.mem_range] at hindex
        have hlt := mul_blockSamples_lt hpositive (show index + 1 < count by omega)
        exact sampleFrames_block hplays.hasChannels 0 hlt.le (hlt.le.trans hheld)

end SampleSource

namespace WaveSource

open Wave SampleSource

/-! ### Starts -/

/-- The source as it is opened on a file. -/
def opened (source : WaveSource) (reader : Reader) : WaveSource :=
  { source with
    reader := some reader, spec := some reader.layout.spec, frameCount := 0, position := 0 }

/-- A start on a file of 16-bit samples succeeds. -/
theorem start_of_open {source : WaveSource} {bytes : List UInt8} {reader : Reader}
    (hpath : source.path ≠ "") (hopen : Wave.open? bytes = .ok reader)
    (hformat : reader.layout.spec.format = .integer)
    (hbits : reader.layout.spec.bitsPerSample = 16) :
    source.start (.bytes bytes) = (source.opened reader, .ok ()) := by
  have hnamed : source.path.isEmpty = false := by simpa using hpath
  simp [start, openFile, hnamed, hopen, hformat, hbits, opened]

/-- A source that is opened on such a file plays its samples. -/
theorem plays_opened (source : WaveSource) {bytes : List UInt8} {reader : Reader}
    (hopened : Opened bytes reader) (hplain : reader.Plain) :
    (source.opened reader).Plays (· = .short) reader.layout.spec reader.declared
      (Pcm.samples reader.rest) := by
  have hserves := Reader.serves hplain
  rw [Reader.left, hopened.count, Nat.sub_zero] at hserves
  exact ⟨rfl, hopened.hasChannels, reader, rfl, hserves⟩

theorem frameCount_of_start_eq_ok {source : WaveSource} {content : FileContent}
    (hstart : (source.start content).2 = .ok ()) : (source.start content).1.frameCount = 0 := by
  unfold start at hstart ⊢
  cases hfile : openFile source.path content with
  | error error => simp [hfile] at hstart
  | ok reader => rfl

/-- A start that fails changes nothing. -/
theorem start_eq_error {source : WaveSource} {content : FileContent} {error : SourceError}
    (hstart : (source.start content).2 = .error error) : (source.start content).1 = source := by
  unfold start at hstart ⊢
  cases hfile : openFile source.path content with
  | error other => rfl
  | ok reader => simp [hfile] at hstart

end WaveSource

/-! ### Runs -/

/-- What a source is told to do. -/
inductive SourceEvent where
  | start (content : FileContent)
  | poll
  | stop

/-- What a source says to it. -/
inductive SourceOutcome where
  | started (result : Except SourceError Unit)
  | polled (result : Except SourceError (Option AudioFrame))
  | stopped

namespace SourceOutcome

/-- Whether the source was opened. -/
def isOpening : SourceOutcome → Bool
  | .started (.ok ()) => true
  | _ => false

/-- The block that was given. -/
def block? : SourceOutcome → Option AudioFrame
  | .polled (.ok block) => block
  | _ => none

end SourceOutcome

namespace WaveSource

open Wave SampleSource

def step (source : WaveSource) : SourceEvent → WaveSource × SourceOutcome
  | .start content => ((source.start content).1, .started (source.start content).2)
  | .poll => (source.poll.1, .polled source.poll.2)
  | .stop => (source.stop, .stopped)

/-- A whole run. -/
def run (source : WaveSource) : List SourceEvent → WaveSource × List SourceOutcome
  | [] => (source, [])
  | event :: rest =>
    ((run (source.step event).1 rest).1,
      (source.step event).2 :: (run (source.step event).1 rest).2)

theorem run_concat (source : WaveSource) (events : List SourceEvent) (event : SourceEvent) :
    source.run (events ++ [event]) =
      (((source.run events).1.step event).1,
        (source.run events).2 ++ [((source.run events).1.step event).2]) := by
  induction events generalizing source with
  | nil => rfl
  | cons first rest ih => simp only [List.cons_append, run, ih]

/-- The count starts again when the source is opened, and else goes up with each block. -/
theorem frameCount_step (source : WaveSource) (event : SourceEvent) :
    (source.step event).1.frameCount =
      if (source.step event).2.isOpening then 0
      else source.frameCount + (source.step event).2.block?.toList.length := by
  cases event with
  | start content =>
    cases hresult : (source.start content).2 with
    | error error =>
      simp [step, hresult, start_eq_error hresult, SourceOutcome.isOpening, SourceOutcome.block?]
    | ok opened =>
      simp [step, hresult, frameCount_of_start_eq_ok hresult, SourceOutcome.isOpening]
  | poll =>
    simp only [step, SourceOutcome.isOpening, Bool.false_eq_true, if_false]
    unfold SampleSource.poll
    split
    · split
      · rfl
      · split <;> rfl
    · rfl
  | stop => rfl

/-- The count is the number of blocks since the source was last opened. -/
theorem frameCount_run (path : String) (events : List SourceEvent) :
    (WaveSource.run { path } events).1.frameCount =
      (((WaveSource.run { path } events).2.rtakeWhile (!·.isOpening)).filterMap
        SourceOutcome.block?).length := by
  induction events using List.reverseRecOn with
  | nil => rfl
  | append_singleton earlier event ih =>
    rw [run_concat]
    simp only [frameCount_step, List.rtakeWhile_concat]
    cases hopening : ((WaveSource.run { path } earlier).1.step event).2.isOpening with
    | true => rfl
    | false =>
      cases hblock : ((WaveSource.run { path } earlier).1.step event).2.block? <;>
        simp [ih, hblock]

/-- With any reader that serves its samples, a file is delivered once and in order, and every file
of 16-bit samples in two bytes is such a file. Of a complete one all samples come, in full blocks
and a last one. Of one that ends early the full blocks come that it holds, then an error for each
sample that it lacks. Then there is nothing. The time of each block is that of its first sample,
the count is that of the blocks since the source was last opened, and a start that fails changes
nothing. -/
theorem samples_delivered_once_in_order :
    (∀ (ρ : Type) [SampleReader ρ] (source : SampleSource ρ) fails spec left held,
      source.position = 0 → left < 2 ^ 32 → source.Plays fails spec left held →
      ∃ blocks errors, source.Delivers fails spec left held blocks errors) ∧
    (∀ (source : WaveSource) (bytes : List UInt8) (reader : Reader), source.path ≠ "" →
      Wave.open? bytes = .ok reader → reader.layout.spec.format = .integer →
      reader.layout.spec.bitsPerSample = 16 → reader.layout.sampleBytes = 2 →
      (∃ before size, bytes = before ++ (tag "data" ++ (size ++ reader.rest)) ∧ size.length = 4 ∧
        reader.declared = ofLittleEndian size / 2) ∧
      0 < reader.blockSamples ∧
      ∃ (started : WaveSource) (blocks : List AudioFrame),
        source.start (.bytes bytes) = (started, .ok ()) ∧
        (∀ count, polls (blocks.length + (reader.declared - reader.held + count)) started =
          blocks.map (fun block ↦ .ok (some block)) ++
            (List.replicate (reader.declared - reader.held) (.error (.wave .short)) ++
              List.replicate count (.ok none))) ∧
        (reader.declared ≤ reader.held →
          blocks.length = (reader.declared + reader.blockSamples - 1) / reader.blockSamples ∧
            blocks.flatMap (·.data) = reader.rest.take (2 * reader.declared) ∧
            ∀ block ∈ blocks.dropLast, block.sampleFrames = 1024) ∧
        (reader.held < reader.declared →
          blocks.length = reader.held / reader.blockSamples ∧
            blocks.flatMap (·.data) =
              reader.rest.take (2 * (reader.held / reader.blockSamples * reader.blockSamples)) ∧
            ∀ block ∈ blocks, block.sampleFrames = 1024) ∧
        ∀ index block, blocks[index]? = some block →
          block.sampleRate = reader.layout.spec.sampleRate ∧
            block.channels = reader.layout.spec.channels ∧
            block.timestamp.toNat =
              index * 1024 * 1000 / max reader.layout.spec.sampleRate.toNat 1) ∧
    (∀ path events, (WaveSource.run { path } events).1.frameCount =
      (((WaveSource.run { path } events).2.rtakeWhile (!·.isOpening)).filterMap
        SourceOutcome.block?).length) ∧
    ∀ (source : WaveSource) content error,
      (source.start content).2 = .error error → (source.start content).1 = source := by
  refine ⟨fun ρ _ source fails spec left held hposition hleft hplays ↦
    hplays.exists_delivers hposition hleft, ?_, frameCount_run,
    fun source content error ↦ start_eq_error⟩
  intro source bytes reader hpath hopen hformat hbits hbytes
  have hopened := Wave.opened hopen
  have hdata := hopened.data
  rw [hbytes] at hdata
  have hplays := plays_opened source hopened ⟨hbytes, hbits⟩
  obtain ⟨blocks, errors, hblocks⟩ := hplays.exists_delivers rfl hopened.declared_lt
  have hlength : (Pcm.samples reader.rest).length = reader.held := Pcm.length_samples reader.rest
  have hshort : errors = List.replicate (reader.declared - reader.held) .short :=
    List.eq_replicate_iff.mpr ⟨hlength ▸ hblocks.missing, hblocks.failures⟩
  refine ⟨hdata, hplays.blockSamples_pos, source.opened reader, blocks,
    start_of_open hpath hopen hformat hbits, fun count ↦ ?_, fun hheld ↦ ?_, fun hheld ↦ ?_,
    hblocks.format⟩
  · have hpolls := hblocks.polls count
    rwa [hshort, List.length_replicate, List.map_replicate] at hpolls
  · obtain ⟨hcount, hbytes, hfull⟩ := hblocks.complete (hlength ▸ hheld)
    rw [Pcm.flatMap_sampleBytes_take (by simp only [Reader.held] at hheld; omega)] at hbytes
    exact ⟨hcount, hbytes, hfull⟩
  · obtain ⟨hcount, hbytes, hfull⟩ := hblocks.truncated (hlength ▸ hheld)
    rw [hlength] at hcount hbytes
    have hfits : 2 * (reader.held / reader.blockSamples * reader.blockSamples) ≤
        reader.rest.length :=
      (Nat.mul_le_mul_left 2 (Nat.div_mul_le_self _ _)).trans (Nat.mul_div_le _ 2)
    exact ⟨hcount, hbytes.trans (Pcm.flatMap_sampleBytes_take hfits), hfull⟩

/-- A file that declares 1026 samples in one channel and ends after one less. -/
def cutFile : List UInt8 :=
  tag "RIFF" ++ [0x28, 0x08, 0, 0] ++ tag "WAVE" ++
    tag "fmt " ++ [16, 0, 0, 0] ++ [1, 0, 1, 0, 0x40, 0x1F, 0, 0, 0x80, 0x3E, 0, 0, 2, 0, 16, 0] ++
    tag "data" ++ [4, 8, 0, 0] ++ List.replicate 2050 7

theorem open?_cutFile : Wave.open? cutFile =
    .ok ⟨⟨⟨1, 8000, 16, .integer⟩, 2⟩, 1026, 0, List.replicate 2050 7⟩ := by
  have hfields : (Wave.open? cutFile).map
      (fun reader ↦ (reader.layout, reader.declared, reader.count, reader.rest)) =
      .ok (⟨⟨1, 8000, 16, .integer⟩, 2⟩, 1026, 0, List.replicate 2050 7) := by decide +kernel
  cases hopen : Wave.open? cutFile with
  | error error => simp only [hopen, Except.map, reduceCtorEq] at hfields
  | ok reader =>
    simp only [hopen, Except.map, Except.ok.injEq, Prod.mk.injEq] at hfields
    rw [← hfields.1, ← hfields.2.1, ← hfields.2.2.1, ← hfields.2.2.2]

theorem samples_delivered_once_in_order_cut :
    ∃ (started : WaveSource) (block : AudioFrame),
      WaveSource.start { path := "cut.wav" } (.bytes cutFile) = (started, .ok ()) ∧
      block.sampleFrames = 1024 ∧ block.data = List.replicate 2048 7 ∧
      polls 3 started = [.ok (some block), .error (.wave .short), .ok none] := by
  obtain ⟨-, -, started, blocks, hstart, hpolls, -, hcut, -⟩ :=
    samples_delivered_once_in_order.2.1 { path := "cut.wav" } _ _ (by decide)
      open?_cutFile rfl rfl rfl
  have hthree := hpolls 1
  simp only [Reader.held, Reader.blockSamples, WaveSpec.blockSamples, List.length_replicate]
    at hthree hcut
  obtain ⟨hlength, hdata, hfull⟩ := hcut (by decide)
  obtain ⟨block, rfl⟩ : ∃ block, blocks = [block] := List.length_eq_one_iff.mp hlength
  refine ⟨started, block, hstart, hfull block (by simp), ?_, hthree⟩
  rwa [List.flatMap_singleton, List.take_replicate] at hdata

end WaveSource

end LightShow
