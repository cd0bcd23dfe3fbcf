import LightShow.Proofs.Audio.WaveOpening

/-!
# How samples are read

A reader serves a file that declares some samples and holds some of them completely: they come one
after another, then there is a failure for each one that is declared and not held, and then there
is nothing (`SampleReader.Serves`). Asking such a reader for several samples gives the next ones if
the file holds them (`read_of_le`), and fails at the first one that it does not hold (`read_of_lt`),
which counts as asked for. The reader of a WAVE file with 16-bit samples in two bytes serves the
samples of its data (`Wave.Reader.serves`).
-/

set_option autoImplicit false

namespace LightShow

/-! ### Samples and their bytes -/

namespace Pcm

theorem sampleBytes_sampleValue (low high : UInt8) :
    sampleBytes (sampleValue low high) = [low, high] := by
  have hlow := low.toNat_lt
  have hhigh := high.toNat_lt
  have hword : (sampleValue low high).toUInt16.toNat = low.toNat + 256 * high.toNat := by
    simp only [sampleValue, UInt16.toUInt16_toInt16, UInt16.toNat_ofNat']
    omega
  rw [sampleBytes, hword]
  congr 1
  · rw [← UInt8.toNat_inj, UInt8.toNat_ofNat']
    omega
  · congr 1
    rw [← UInt8.toNat_inj, UInt8.toNat_ofNat']
    omega

theorem length_flatMap_sampleBytes (samples : List Int16) :
    (samples.flatMap sampleBytes).length = 2 * samples.length := by
  induction samples with
  | nil => rfl
  | cons sample rest ih =>
    rw [List.flatMap_cons, List.length_append, ih, List.length_cons]
    simp only [sampleBytes, List.length_cons, List.length_nil]
    omega

/-- The bytes of the first samples are the first bytes. -/
theorem flatMap_sampleBytes_take {bytes : List UInt8} {count : ℕ}
    (hcount : 2 * count ≤ bytes.length) :
    ((samples bytes).take count).flatMap sampleBytes = bytes.take (2 * count) := by
  induction count generalizing bytes with
  | zero => rfl
  | succ count ih =>
    match bytes, hcount with
    | low :: high :: rest, hcount =>
      have hrest : 2 * count ≤ rest.length := by
        simp only [List.length_cons] at hcount
        omega
      rw [samples, List.take_succ_cons, List.flatMap_cons, sampleBytes_sampleValue, ih hrest]
      rfl

theorem length_samples (bytes : List UInt8) : (samples bytes).length = bytes.length / 2 := by
  induction bytes using samples.induct with
  | case1 low high rest ih =>
    simp only [samples, List.length_cons, ih]
    omega
  | case2 bytes hshort =>
    match bytes, hshort with
    | [], _ => rfl
    | [_], _ => simp [samples]
    | low :: high :: rest, hshort => exact (hshort low high rest rfl).elim

end Pcm

/-! ### Readers -/

namespace SampleReader

variable {ρ : Type} [SampleReader ρ] {fails : WaveError → Prop} {reader : ρ} {left : ℕ}
  {held : List Int16}

/-- The reader after so many samples were asked for. -/
def after : ℕ → ρ → ρ
  | 0, reader => reader
  | count + 1, reader => after count (next reader).1

/-- What comes of asking for a sample after so many others. -/
def outcome (reader : ρ) (index : ℕ) : Option (Except WaveError Int16) :=
  (next (after index reader)).2

/-- A file declares so many samples that have not been asked for, and these of them are complete in
it. Each is counted when it is asked for, and one that is not complete is a failure. -/
structure Serves (fails : WaveError → Prop) (left : ℕ) (held : List Int16) (reader : ρ) : Prop where
  sample : ∀ index sample, index < left → held[index]? = some sample →
    outcome reader index = some (.ok sample)
  missing : ∀ index, held.length ≤ index → index < left →
    ∃ error, fails error ∧ outcome reader index = some (.error error)
  ended : ∀ index, left ≤ index → outcome reader index = none

theorem Serves.next (hserves : Serves fails left held reader) :
    Serves fails (left - 1) held.tail (next reader).1 where
  sample index sample hindex hheld := by
    rw [List.getElem?_tail] at hheld
    exact hserves.sample (index + 1) sample (by omega) hheld
  missing index hheld hindex := by
    rw [List.length_tail] at hheld
    exact hserves.missing (index + 1) (by omega) (by omega)
  ended index hindex := hserves.ended (index + 1) (by omega)

theorem Serves.of_zero (hserves : Serves fails 0 held reader) (others : List Int16) :
    Serves fails 0 others reader :=
  ⟨fun _ _ hindex ↦ absurd hindex (Nat.not_lt_zero _),
    fun _ _ hindex ↦ absurd hindex (Nat.not_lt_zero _), hserves.ended⟩

/-- A reader serves a file if it does so for one sample, and is left in the same way. -/
theorem serves_of_step (holds : ℕ → List Int16 → ρ → Prop)
    (hended : ∀ held reader, holds 0 held reader →
      (next reader).2 = none ∧ holds 0 held (next reader).1)
    (hsample : ∀ left sample held reader, holds (left + 1) (sample :: held) reader →
      (next reader).2 = some (.ok sample) ∧ holds left held (next reader).1)
    (hmissing : ∀ left reader, holds (left + 1) [] reader →
      (∃ error, fails error ∧ (next reader).2 = some (.error error)) ∧
        holds left [] (next reader).1)
    (hholds : holds left held reader) : Serves fails left held reader := by
  have hafter (index : ℕ) : ∃ others, holds (left - index) others (after index reader) ∧
      (index ≤ left → others = held.drop index) := by
    induction index generalizing left held reader with
    | zero => exact ⟨held, hholds, fun _ ↦ rfl⟩
    | succ index ih =>
      cases left with
      | zero =>
        obtain ⟨others, hothers, -⟩ := ih (hended _ _ hholds).2
        rw [Nat.zero_sub] at hothers ⊢
        exact ⟨others, hothers, nofun⟩
      | succ left =>
        rw [Nat.succ_sub_succ]
        cases held with
        | nil =>
          obtain ⟨others, hothers, hdrop⟩ := ih (hmissing _ _ hholds).2
          exact ⟨others, hothers, fun hle ↦ by rw [hdrop (Nat.le_of_succ_le_succ hle)]; simp⟩
        | cons first rest =>
          obtain ⟨others, hothers, hdrop⟩ := ih (hsample _ _ _ _ hholds).2
          exact ⟨others, hothers, fun hle ↦ hdrop (Nat.le_of_succ_le_succ hle)⟩
  refine ⟨fun index sample hindex hheld ↦ ?_, fun index hheld hindex ↦ ?_, fun index hindex ↦ ?_⟩
  · obtain ⟨others, hothers, hdrop⟩ := hafter index
    obtain ⟨hlength, rfl⟩ := List.getElem?_eq_some_iff.mp hheld
    rw [hdrop hindex.le, List.drop_eq_getElem_cons hlength,
      show left - index = left - index - 1 + 1 by omega] at hothers
    exact (hsample _ _ _ _ hothers).1
  · obtain ⟨others, hothers, hdrop⟩ := hafter index
    rw [hdrop hindex.le, List.drop_eq_nil_of_le hheld,
      show left - index = left - index - 1 + 1 by omega] at hothers
    exact (hmissing _ _ hothers).1
  · obtain ⟨others, hothers, -⟩ := hafter index
    rw [Nat.sub_eq_zero_of_le hindex] at hothers
    exact (hended _ _ hothers).1

theorem read_succ (wanted : ℕ) (reader : ρ) :
    read (wanted + 1) reader =
      match (next reader).2 with
      | none => ((next reader).1, .ok [])
      | some (.error error) => ((next reader).1, .error error)
      | some (.ok sample) =>
        match read wanted (next reader).1 with
        | (reader, .ok samples) => (reader, .ok (sample :: samples))
        | (reader, .error error) => (reader, .error error) := by
  rw [read]
  rcases next reader with ⟨counted, _ | _ | sample⟩ <;> rfl

/-- As many samples are read as are wanted and left, if the file holds them. -/
theorem Serves.read_of_le (hserves : Serves fails left held reader) {wanted : ℕ}
    (hheld : min wanted left ≤ held.length) :
    ∃ next, read wanted reader = (next, .ok (held.take (min wanted left))) ∧
      Serves fails (left - min wanted left) (held.drop (min wanted left)) next := by
  induction wanted generalizing reader left held with
  | zero => exact ⟨reader, by simp [read], by simpa using hserves⟩
  | succ wanted ih =>
    have hnext := hserves.next
    cases left with
    | zero =>
      have hnone : (SampleReader.next reader).2 = none := hserves.ended 0 le_rfl
      exact ⟨(SampleReader.next reader).1, by rw [read_succ, hnone]; rfl, hnext.of_zero _⟩
    | succ left =>
      rw [Nat.succ_min_succ] at hheld ⊢
      cases held with
      | nil => exact absurd hheld (by simp)
      | cons sample rest =>
        have hsample : (SampleReader.next reader).2 = some (.ok sample) :=
          hserves.sample 0 sample (Nat.succ_pos _) rfl
        obtain ⟨later, hread, hlater⟩ := ih hnext (Nat.le_of_succ_le_succ hheld)
        refine ⟨later, by rw [read_succ, hsample, hread]; rfl, ?_⟩
        rw [Nat.succ_sub_succ]
        exact hlater

/-- Where a wanted sample is missing, the ones before it are lost and it counts as asked for. -/
theorem Serves.read_of_lt (hserves : Serves fails left held reader) {wanted : ℕ}
    (hheld : held.length < min wanted left) :
    ∃ next error, fails error ∧ read wanted reader = (next, .error error) ∧
      Serves fails (left - held.length - 1) [] next := by
  induction wanted generalizing reader left held with
  | zero => simp at hheld
  | succ wanted ih =>
    have hnext := hserves.next
    cases left with
    | zero => simp at hheld
    | succ left =>
      cases held with
      | nil =>
        obtain ⟨error, hfails, herror⟩ := hserves.missing 0 le_rfl (Nat.succ_pos _)
        refine ⟨(SampleReader.next reader).1, error, hfails, ?_, hnext⟩
        have hfailed : (SampleReader.next reader).2 = some (.error error) := herror
        rw [read_succ, hfailed]
      | cons sample rest =>
        have hsample : (SampleReader.next reader).2 = some (.ok sample) :=
          hserves.sample 0 sample (Nat.succ_pos _) rfl
        have hshort : rest.length < min wanted left := by
          rw [Nat.succ_min_succ] at hheld
          exact Nat.lt_of_succ_lt_succ hheld
        obtain ⟨later, error, hfails, hread, hlater⟩ := ih hnext hshort
        refine ⟨later, error, hfails, by rw [read_succ, hsample, hread], ?_⟩
        rw [List.length_cons, Nat.succ_sub_succ]
        exact hlater

end SampleReader

/-- How many samples a block takes. -/
def WaveSpec.blockSamples (spec : WaveSpec) : ℕ :=
  SampleSource.blockFrames * spec.channels.toNat

namespace Wave.Reader

/-- How many of the declared samples have not been asked for. -/
def left (reader : Reader) : ℕ :=
  reader.declared - reader.count

/-- How many complete samples the file still holds. -/
def held (reader : Reader) : ℕ :=
  reader.rest.length / 2

/-- Samples of 16 bits in two bytes. -/
structure Plain (reader : Reader) : Prop where
  sampleBytes : reader.layout.sampleBytes = 2
  bits : reader.layout.spec.bitsPerSample = 16

theorem next_of_left_eq_zero {reader : Reader} (hleft : reader.left = 0) :
    reader.next = (reader, none) := by
  rw [next, if_pos (by simp only [left] at hleft; omega)]

theorem next_of_cons {reader : Reader} (hplain : reader.Plain) (hleft : 0 < reader.left)
    {low high : UInt8} {rest : List UInt8} (hrest : reader.rest = low :: high :: rest) :
    reader.next =
      ({ reader with count := reader.count + 1, rest },
        some (.ok (Pcm.sampleValue low high))) := by
  have hopen : ¬ reader.declared ≤ reader.count := by
    simp only [left] at hleft
    omega
  simp [next, hopen, hplain.sampleBytes, hplain.bits, hrest]

theorem next_of_samples_eq_nil {reader : Reader} (hplain : reader.Plain) (hleft : 0 < reader.left)
    (hnone : Pcm.samples reader.rest = []) :
    reader.next =
      ({ reader with count := reader.count + 1, rest := [] }, some (.error .short)) := by
  have hopen : ¬ reader.declared ≤ reader.count := by
    simp only [left] at hleft
    omega
  simp only [next, hopen, if_false, hplain.sampleBytes, hplain.bits, and_self, if_true]
  split
  next hrest => simp [hrest, Pcm.samples] at hnone
  next => rfl

/-- A reader of 16-bit samples in two bytes serves those in the bytes that are not yet read, and
fails where the bytes end. -/
theorem serves {reader : Reader} (hplain : reader.Plain) :
    SampleReader.Serves (· = .short) reader.left (Pcm.samples reader.rest) reader := by
  refine SampleReader.serves_of_step
    (fun left held reader ↦ reader.Plain ∧ reader.left = left ∧ Pcm.samples reader.rest = held)
    ?_ ?_ ?_ ⟨hplain, rfl, rfl⟩
  · rintro held reader ⟨hplain, hleft, hheld⟩
    have hnext : SampleReader.next reader = (reader, none) := next_of_left_eq_zero hleft
    rw [hnext]
    exact ⟨rfl, hplain, hleft, hheld⟩
  · rintro left sample held reader ⟨hplain, hleft, hheld⟩
    obtain ⟨low, high, rest, hrest⟩ : ∃ low high rest, reader.rest = low :: high :: rest := by
      match hbytes : reader.rest with
      | low :: high :: rest => exact ⟨low, high, rest, rfl⟩
      | [_] => simp [hbytes, Pcm.samples] at hheld
      | [] => simp [hbytes, Pcm.samples] at hheld
    rw [hrest, Pcm.samples] at hheld
    obtain ⟨rfl, rfl⟩ := List.cons.inj hheld
    have hnext : SampleReader.next reader = _ := next_of_cons hplain (by omega) hrest
    rw [hnext]
    refine ⟨rfl, ⟨hplain.sampleBytes, hplain.bits⟩, ?_, rfl⟩
    simp only [Reader.left] at hleft ⊢
    omega
  · rintro left reader ⟨hplain, hleft, hheld⟩
    have hnext : SampleReader.next reader = _ := next_of_samples_eq_nil hplain (by omega) hheld
    rw [hnext]
    refine ⟨⟨.short, rfl, rfl⟩, ⟨hplain.sampleBytes, hplain.bits⟩, ?_, rfl⟩
    simp only [Reader.left] at hleft ⊢
    omega

/-- How many samples a block takes. -/
def blockSamples (reader : Reader) : ℕ :=
  reader.layout.spec.blockSamples

end Wave.Reader

end LightShow
