import LightShow.Proofs.Audio.BeatTempo

/-!
# Reading the tempo

A read forgets the beats once the tempo has lapsed, so it is not without effect. What it cannot
touch are the beats that are found later: these depend on the energies and on the latest beat alone
(`attuned_of_moreReads`). The tempo that is read later is another matter. While a silence lasts, a
detector whose tempo was read and one whose tempo was not give the same answers, because both find
the tempo lapsed. They part when a beat ends the silence: the one that was read has forgotten the
beats before it, and the other one takes the mean over the silence.

So more reads leave all answers as they are if every silence longer than the timeout that a beat
ends was read while it lasted (`run_eq_or_of_moreReads`), and where one was not, a read just before
the beat changes the tempo just after it (`tempo_after_read_iff`).
-/

set_option autoImplicit false

namespace LightShow

namespace BeatEvent

variable {α : Type}

/-- When the event takes place. A reset takes place at no particular instant. -/
def instant? : BeatEvent α → Option ℤ
  | .energy _ now => some now
  | .tempo now => some now
  | .reset => none

/-- The instants of events never go back. -/
def InOrder (events : List (BeatEvent α)) : Prop :=
  (events.filterMap instant?).Pairwise (· ≤ ·)

theorem inOrder_concat {events : List (BeatEvent α)} {event : BeatEvent α} :
    InOrder (events ++ [event]) ↔ InOrder events ∧
      ∀ now ∈ event.instant?, ∀ earlier ∈ events.filterMap instant?, earlier ≤ now := by
  unfold InOrder
  rw [List.filterMap_append, List.pairwise_append]
  cases hinstant : event.instant? with
  | none => simp [hinstant]
  | some now => simp [hinstant]

theorem InOrder.tempo_le {events : List (BeatEvent α)} {event : BeatEvent α}
    (horder : InOrder (events ++ [event])) {now : ℤ} (hnow : event.instant? = some now) {read : ℤ}
    (hread : .tempo read ∈ events) : read ≤ now :=
  (inOrder_concat.mp horder).2 now hnow read (List.mem_filterMap.mpr ⟨_, hread, rfl⟩)

/-- The second run is the first one with more reads of the tempo. -/
inductive MoreReads : List (BeatEvent α) → List (BeatEvent α) → Prop where
  | nil : MoreReads [] []
  | same {events others : List (BeatEvent α)} (hmore : MoreReads events others)
    (event : BeatEvent α) : MoreReads (events ++ [event]) (others ++ [event])
  | read {events others : List (BeatEvent α)} (hmore : MoreReads events others) (now : ℤ) :
    MoreReads events (others ++ [.tempo now])

theorem MoreReads.sublist {events others : List (BeatEvent α)} (hmore : MoreReads events others) :
    events.Sublist others := by
  induction hmore with
  | nil => exact List.Sublist.slnil
  | same _ event ih => exact ih.append (List.Sublist.refl [event])
  | read _ now ih => exact ih.trans (List.sublist_append_left _ _)

theorem MoreReads.inOrder {events others : List (BeatEvent α)} (hmore : MoreReads events others)
    (horder : InOrder others) : InOrder events :=
  List.Pairwise.sublist (hmore.sublist.filterMap instant?) horder

end BeatEvent

namespace BeatDetector

open BeatEvent (InOrder MoreReads)

variable {α : Type}

/-- Two detectors that take the same blocks for beats. -/
structure Attuned (first second : BeatDetector α) : Prop where
  energies : second.energies = first.energies
  lastBeat : second.lastBeat = first.lastBeat

theorem Attuned.isLocked {first second : BeatDetector α} (hattuned : first.Attuned second)
    (now : ℤ) : second.isLocked now = first.isLocked now := by
  rw [BeatDetector.isLocked, hattuned.lastBeat]
  rfl

theorem Attuned.isStale {first second : BeatDetector α} (hattuned : first.Attuned second)
    (now : ℤ) : second.isStale now = first.isStale now := by
  rw [BeatDetector.isStale, hattuned.lastBeat]
  rfl

variable [Scalar α]

/-- The detector without the beats it holds. -/
def forget (detector : BeatDetector α) : BeatDetector α :=
  { detector with tempo := Scalar.zero, beats := [] }

theorem attuned_forget (detector : BeatDetector α) : detector.Attuned detector.forget := ⟨rfl, rfl⟩

theorem Attuned.hear_found {first second : BeatDetector α} (hattuned : first.Attuned second)
    (energy : α) (now : ℤ) : (second.hear energy now).2 = (first.hear energy now).2 := by
  rw [BeatDetector.hear_found, BeatDetector.hear_found, hattuned.isLocked, hattuned.energies]

/-- A read changes nothing that beats are found by. -/
theorem attuned_readTempo (detector : BeatDetector α) (now : ℤ) :
    detector.Attuned (detector.readTempo now).1 := by
  unfold readTempo
  split_ifs
  · exact ⟨rfl, rfl⟩
  · exact ⟨rfl, rfl⟩

/-- What happens to both detectors keeps them attuned. -/
theorem Attuned.step {first second : BeatDetector α} (hattuned : first.Attuned second)
    (event : BeatEvent α) : (first.step event).1.Attuned (second.step event).1 := by
  cases event with
  | energy energy now =>
    have henergies := hattuned.energies
    have hlast := hattuned.lastBeat
    simp only [BeatDetector.step, hear, hattuned.isLocked, henergies]
    split_ifs
    · exact ⟨rfl, hlast⟩
    · exact ⟨rfl, rfl⟩
    · exact ⟨rfl, hlast⟩
  | tempo now =>
    have hfirst := first.attuned_readTempo now
    have hsecond := second.attuned_readTempo now
    exact ⟨hsecond.energies.trans (hattuned.energies.trans hfirst.energies.symm),
      hsecond.lastBeat.trans (hattuned.lastBeat.trans hfirst.lastBeat.symm)⟩
  | reset => exact ⟨rfl, rfl⟩

/-- Beats are found by what no read can change, at whatever instants the reads are. -/
theorem attuned_of_moreReads {events others : List (BeatEvent α)}
    (hmore : MoreReads events others) :
    ((create : BeatDetector α).run events).1.Attuned ((create : BeatDetector α).run others).1 := by
  induction hmore with
  | nil => exact ⟨rfl, rfl⟩
  | same _ event ih =>
    rw [run_concat, run_concat]
    exact ih.step event
  | @read events others _ now ih =>
    rw [run_concat]
    have hread := ((create : BeatDetector α).run others).1.attuned_readTempo now
    exact ⟨hread.energies.trans ih.energies, hread.lastBeat.trans ih.lastBeat⟩

/-! ### Silences -/

/-- If a beat at this instant ends a silence that is longer than the timeout, the tempo was read
when it had lapsed. -/
def SilenceRead (before : List (BeatEvent α)) (now : ℤ) : Prop :=
  ∀ last ∈ ((create : BeatDetector α).run before).1.lastBeat, last + timeout < now →
    ∃ read, .tempo read ∈ before ∧ last + timeout < read

/-- Every silence that a beat ends was read if it was longer than the timeout. -/
def SilencesRead (events : List (BeatEvent α)) : Prop :=
  ∀ before energy now after, events = before ++ .energy energy now :: after →
    (((create : BeatDetector α).run before).1.hear energy now).2 = true → SilenceRead before now

theorem silencesRead_nil : SilencesRead ([] : List (BeatEvent α)) := by
  intro before energy now after hevents
  simp at hevents

theorem silencesRead_concat {events : List (BeatEvent α)} {event : BeatEvent α} :
    SilencesRead (events ++ [event]) ↔ SilencesRead events ∧
      ∀ energy now, event = .energy energy now →
        (((create : BeatDetector α).run events).1.hear energy now).2 = true →
          SilenceRead events now := by
  constructor
  · intro hread
    refine ⟨fun before energy now after hevents ↦ ?_, fun energy now hevent ↦ ?_⟩
    · exact hread before energy now (after ++ [event]) (by simp [hevents])
    · exact hread events energy now [] (by rw [hevent])
  · rintro ⟨hevents, hevent⟩ before energy now after hsplit
    rcases List.eq_nil_or_concat after with rfl | ⟨rest, last, rfl⟩
    · obtain ⟨rfl, hlast⟩ := List.append_inj' hsplit rfl
      exact hevent energy now (List.singleton_inj.mp hlast)
    · rw [List.concat_eq_append, ← List.cons_append, ← List.append_assoc] at hsplit
      exact hevents before energy now rest (List.append_inj' hsplit rfl).1

/-- On a clock that never goes back, a detector that has found a beat holds none exactly if its
tempo was read when it had lapsed. -/
theorem beats_eq_nil_iff {events : List (BeatEvent α)} (horder : InOrder events) {last : ℤ}
    (hlast : ((create : BeatDetector α).run events).1.lastBeat = some last) :
    ((create : BeatDetector α).run events).1.beats = [] ↔
      ∃ read, .tempo read ∈ events ∧ last + timeout < read := by
  induction events using List.reverseRecOn generalizing last with
  | nil => simp [run, create] at hlast
  | append_singleton earlier event ih =>
    obtain ⟨hearlier, -⟩ := BeatEvent.inOrder_concat.mp horder
    rw [run_concat] at hlast ⊢
    have houtcome := ((create : BeatDetector α).run earlier).1.outcome event
    generalize ((create : BeatDetector α).run earlier).1.step event = result at houtcome hlast ⊢
    cases houtcome with
    | quiet energy now hquiet => simpa using ih hearlier hlast
    | beat energy now hfree hloud =>
      obtain rfl : now = last := Option.some.inj hlast
      have hheld : push beatCount ((create : BeatDetector α).run earlier).1.beats now ≠ [] := by
        simp [push_eq_rtake, beatCount, List.rtake_concat_succ]
      refine iff_of_false hheld ?_
      rintro ⟨read, hread, hlate⟩
      have hle : read ≤ now := horder.tempo_le rfl (by simpa using hread)
      omega
    | lapsed now hstale =>
      exact iff_of_true rfl ⟨now, by simp, isStale_iff.mp hstale last hlast⟩
    | read now hfresh =>
      have hearly : ¬ last + timeout < now := by
        intro hlate
        refine Bool.eq_false_iff.mp hfresh (isStale_iff.mpr ?_)
        rintro _ hmem
        obtain rfl : last = _ := Option.some.inj (hlast.symm.trans hmem)
        exact hlate
      rw [ih hearlier hlast]
      constructor
      · rintro ⟨read, hread, hlate⟩
        exact ⟨read, by simp [hread], hlate⟩
      · rintro ⟨read, hread, hlate⟩
        have hne : read ≠ now := by
          rintro rfl
          exact hearly hlate
        exact ⟨read, by simpa [hne] using hread, hlate⟩
    | reset => simp [create] at hlast

/-- A detector whose tempo has lapsed at an instant holds no beats exactly if the silence was
read. -/
theorem silenceRead_iff {events : List (BeatEvent α)} (horder : InOrder events) {now : ℤ}
    (hstale : ((create : BeatDetector α).run events).1.isStale now = true) :
    SilenceRead events now ↔ ((create : BeatDetector α).run events).1.beats = [] := by
  cases hlast : ((create : BeatDetector α).run events).1.lastBeat with
  | none =>
    have hrecords := records_run events
    refine iff_of_true (by simp [SilenceRead, hlast]) ?_
    have hfound := List.getLast?_eq_none_iff.mp (hrecords.lastBeat.symm.trans hlast)
    exact List.suffix_nil.mp (hfound ▸ hrecords.beats_suffix_found)
  | some last =>
    rw [beats_eq_nil_iff horder hlast]
    have hlate := isStale_iff.mp hstale last hlast
    simp [SilenceRead, hlast, hlate]

/-- The beats that are held have no silence between them if every one was read. -/
theorem isChain_beats_of_silencesRead {events : List (BeatEvent α)} (horder : InOrder events)
    (hread : SilencesRead events) :
    ((create : BeatDetector α).run events).1.beats.IsChain
      fun earlier later : ℤ ↦ later ≤ earlier + timeout := by
  induction events using List.reverseRecOn with
  | nil => exact .nil
  | append_singleton earlier event ih =>
    obtain ⟨hearlier, -⟩ := BeatEvent.inOrder_concat.mp horder
    obtain ⟨hbefore, hsilence⟩ := silencesRead_concat.mp hread
    have hheld := ih hearlier hbefore
    rw [run_concat]
    have hrecords := records_run earlier
    have houtcome := ((create : BeatDetector α).run earlier).1.outcome event
    generalize hresult : ((create : BeatDetector α).run earlier).1.step event = result
      at houtcome ⊢
    cases houtcome with
    | quiet energy now hquiet => exact hheld
    | beat energy now hfree hloud =>
      have hended := hsilence energy now rfl (by simp [hear_found, hfree, hloud])
      rw [push_eq_rtake]
      refine (hheld.append (.singleton now) ?_).suffix (List.drop_suffix ..)
      intro last hlast next hnext
      obtain rfl : now = next := by simpa using hnext
      by_contra hlong
      have hbeat := hrecords.lastBeat_eq hlast
      have hnone := (beats_eq_nil_iff hearlier hbeat).mpr (hended last hbeat (by omega))
      simp [hnone] at hlast
    | lapsed now hstale => exact .nil
    | read now hfresh => exact hheld
    | reset => exact .nil

/-! ### Runs with more reads -/

/-- A block that is no beat does not bring back what was forgotten. -/
theorem hear_forget_of_quiet {detector : BeatDetector α} {energy : α} {now : ℤ}
    (hquiet : (detector.hear energy now).2 = false) :
    (detector.forget.hear energy now).1 = (detector.hear energy now).1.forget := by
  have hforget := (attuned_forget detector).hear_found energy now
  rw [hear_of_quiet (hforget.trans hquiet), hear_of_quiet hquiet]
  rfl

/-- After a beat it makes no difference whether a detector that held none had forgotten some. -/
theorem hear_forget_of_beat {detector : BeatDetector α} (hbeats : detector.beats = []) {energy : α}
    {now : ℤ} (hbeat : (detector.hear energy now).2 = true) :
    (detector.forget.hear energy now).1 = (detector.hear energy now).1 := by
  have hforget := (attuned_forget detector).hear_found energy now
  rw [hear_of_beat (hforget.trans hbeat), hear_of_beat hbeat, hbeats]
  rfl

theorem readTempo_of_isStale {detector : BeatDetector α} {now : ℤ}
    (hstale : detector.isStale now = true) :
    detector.readTempo now = (detector.forget, Scalar.zero) := by
  rw [readTempo, if_pos hstale]
  rfl

theorem readTempo_of_not_isStale {detector : BeatDetector α} {now : ℤ}
    (hfresh : detector.isStale now = false) :
    detector.readTempo now = (detector, detector.tempo) := by
  rw [readTempo, hfresh]
  rfl

/-- A run with more reads of the tempo ends with the same detector, or with one that has forgotten
beats which the other one will forget as well when its tempo is read. -/
theorem run_eq_or_of_moreReads {events others : List (BeatEvent α)}
    (hmore : MoreReads events others) (horder : InOrder others) (hread : SilencesRead events) :
    let detector := ((create : BeatDetector α).run events).1
    let other := ((create : BeatDetector α).run others).1
    other = detector ∨ other = detector.forget ∧
      ∀ now, (∀ earlier ∈ others.filterMap BeatEvent.instant?, earlier ≤ now) →
        detector.isStale now = true := by
  induction hmore with
  | nil => exact .inl rfl
  | @same events others hmore event ih =>
    intro detector other
    obtain ⟨hothers, hlatest⟩ := BeatEvent.inOrder_concat.mp horder
    obtain ⟨hbefore, hsilence⟩ := silencesRead_concat.mp hread
    rcases ih hothers hbefore with hsame | ⟨hforgot, hstale⟩
    · left
      simp only [detector, other, run_concat, hsame]
    · simp only [detector, other, run_concat, hforgot]
      cases event with
      | energy energy now =>
        have hlapsed := hstale now (hlatest now rfl)
        cases hfound : (((create : BeatDetector α).run events).1.hear energy now).2 with
        | false =>
          right
          refine ⟨hear_forget_of_quiet hfound, fun later hlater ↦ ?_⟩
          simp only [step, hear_of_quiet hfound]
          exact hstale later fun earlier hearlier ↦ hlater earlier (by simp_all)
        | true =>
          have hended := hsilence energy now rfl hfound
          left
          exact hear_forget_of_beat ((silenceRead_iff (hmore.inOrder hothers) hlapsed).mp hended)
            hfound
      | tempo now =>
        have hlapsed := hstale now (hlatest now rfl)
        left
        simp only [step, readTempo_of_isStale hlapsed,
          readTempo_of_isStale (((attuned_forget _).isStale now).trans hlapsed)]
        rfl
      | reset => exact .inl rfl
  | @read events others hmore now ih =>
    intro detector other
    obtain ⟨hothers, hlatest⟩ := BeatEvent.inOrder_concat.mp horder
    have hattuned := attuned_of_moreReads hmore
    have hprevious := ih hothers hread
    cases hlapsed : detector.isStale now with
    | true =>
      right
      have hforgot : other = ((create : BeatDetector α).run others).1.forget := by
        simp only [other, run_concat, step,
          readTempo_of_isStale ((hattuned.isStale now).trans hlapsed)]
      refine ⟨?_, fun later hlater ↦ ?_⟩
      · rcases hprevious with hsame | ⟨hsame, -⟩
        · rw [hforgot, hsame]
        · rw [hforgot, hsame]
          rfl
      · have hnow : now ≤ later := hlater now (by simp [BeatEvent.instant?])
        exact isStale_iff.mpr fun last hlast ↦ (isStale_iff.mp hlapsed last hlast).trans_le hnow
    | false =>
      have hunchanged : other = ((create : BeatDetector α).run others).1 := by
        simp only [other, run_concat, step,
          readTempo_of_not_isStale ((hattuned.isStale now).trans hlapsed)]
      rw [hunchanged]
      rcases hprevious with hsame | ⟨hforgot, hstale⟩
      · exact .inl hsame
      · refine .inr ⟨hforgot, fun later hlater ↦ ?_⟩
        exact hstale later fun earlier hearlier ↦ hlater earlier (by simp_all)

/-- With every silence read, more reads change no answer. -/
theorem step_outcome_of_moreReads {events others : List (BeatEvent α)}
    (hmore : MoreReads events others) (hread : SilencesRead events) {event : BeatEvent α}
    (horder : InOrder (others ++ [event])) :
    (((create : BeatDetector α).run others).1.step event).2 =
      (((create : BeatDetector α).run events).1.step event).2 := by
  obtain ⟨hothers, hlatest⟩ := BeatEvent.inOrder_concat.mp horder
  rcases run_eq_or_of_moreReads hmore hothers hread with hsame | ⟨hforgot, hstale⟩
  · rw [hsame]
  · rw [hforgot]
    cases event with
    | energy energy now =>
      exact congrArg BeatOutcome.beat ((attuned_forget _).hear_found energy now)
    | tempo now =>
      have hlapsed := hstale now (hlatest now rfl)
      simp only [step, readTempo_of_isStale hlapsed,
        readTempo_of_isStale (((attuned_forget _).isStale now).trans hlapsed)]
    | reset => rfl

/-! ### A read just before a beat -/

/-- The tempo just after a beat is that of the beats that are held with it. -/
theorem tempo_just_after {detector : BeatDetector α} {energy : α} {now : ℤ}
    (hbeat : (detector.hear energy now).2 = true) :
    ((detector.hear energy now).1.readTempo now).2 =
      tempoOf (push beatCount detector.beats now) detector.tempo := by
  rw [hear_of_beat hbeat, readTempo_of_not_isStale (by simp [isStale, elapsed])]

/-- The tempo of spaced beats is positive if there are two of them. -/
theorem tempoOf_pos {beats : List ℤ} (hspaced : beats.IsChain Spaced) (hcount : 2 ≤ beats.length)
    (stale : ℚ) : 0 < tempoOf beats stale := by
  have hne : beats ≠ [] := List.ne_nil_of_length_pos (by omega)
  have hfirst := List.head?_eq_some_head hne
  have hlast := List.getLast?_eq_some_getLast hne
  have hdistance := le_meanDistance hspaced hcount hfirst hlast
  rw [tempoOf_eq hspaced hcount hfirst hlast]
  exact div_pos (by norm_num) (by linarith)

/-- In exact arithmetic, a read just before a beat leaves the tempo just after it as it is exactly
if the silence that the beat ends is short or was read before. -/
theorem tempo_after_read_iff {events : List (BeatEvent ℚ)} {energy : ℚ} {now : ℤ}
    (horder : InOrder events)
    (hbeat : (((create : BeatDetector ℚ).run events).1.hear energy now).2 = true) :
    (((create : BeatDetector ℚ).run (events ++ [.tempo now] ++ [.energy energy now])).1.readTempo
        now).2 =
      (((create : BeatDetector ℚ).run (events ++ [.energy energy now])).1.readTempo now).2 ↔
    SilenceRead events now := by
  have hspaced := (records_run (events ++ [.energy energy now])).isChain_beats
  simp only [run_concat, step] at hspaced ⊢
  generalize hdetector : ((create : BeatDetector ℚ).run events).1 = detector at *
  cases hlapsed : detector.isStale now with
  | false =>
    have hshort : SilenceRead events now := by
      intro last hlast hlong
      rw [hdetector] at hlast
      refine absurd (isStale_iff.mpr fun other hother ↦ ?_) (Bool.eq_false_iff.mp hlapsed)
      obtain rfl : last = other := Option.some.inj (hlast.symm.trans hother)
      exact hlong
    rw [readTempo_of_not_isStale hlapsed]
    exact iff_of_true rfl hshort
  | true =>
    have hforgot := (attuned_forget detector).hear_found energy now
    rw [readTempo_of_isStale hlapsed, tempo_just_after (hforgot.trans hbeat),
      tempo_just_after hbeat, silenceRead_iff horder (by rw [hdetector]; exact hlapsed), hdetector]
    rw [hear_of_beat hbeat] at hspaced
    by_cases hbeats : detector.beats = []
    · rw [hbeats]
      exact iff_of_true rfl rfl
    · have hcount : 2 ≤ (push beatCount detector.beats now).length := by
        have hsome := List.length_pos_iff.mpr hbeats
        simp only [push, List.length_drop, List.length_append, List.length_singleton, beatCount]
        omega
      have hpositive := tempoOf_pos hspaced hcount detector.tempo
      exact iff_of_false hpositive.ne hbeats

/-- More reads of the tempo never change which beats are found. They change no tempo that is read
later, on a clock that never goes back, if every silence longer than the timeout that a beat ends
was read while it lasted; the beats that a tempo is taken from then have no such silence between
them. And this is needed: in exact arithmetic, a read just before a beat changes the tempo just
after it unless the silence that the beat ends is short or was read before. -/
theorem reads_change_tempo_after_unread_silence {α : Type} [Scalar α]
    (events others : List (BeatEvent α)) (hmore : MoreReads events others) :
    let detector := ((create : BeatDetector α).run events).1
    let other := ((create : BeatDetector α).run others).1
    (∀ energy now, (other.hear energy now).2 = (detector.hear energy now).2) ∧
    (SilencesRead events →
      (∀ event, InOrder (others ++ [event]) → (other.step event).2 = (detector.step event).2) ∧
      (InOrder events →
        detector.beats.IsChain fun earlier later : ℤ ↦ later ≤ earlier + 3000000000)) ∧
    ∀ (before : List (BeatEvent ℚ)) (energy : ℚ) (now : ℤ),
      InOrder before → (((create : BeatDetector ℚ).run before).1.hear energy now).2 = true →
      ((((create : BeatDetector ℚ).run (before ++ [.tempo now] ++ [.energy energy now])).1.readTempo
          now).2 =
        (((create : BeatDetector ℚ).run (before ++ [.energy energy now])).1.readTempo now).2 ↔
      SilenceRead before now) := by
  intro detector other
  refine ⟨(attuned_of_moreReads hmore).hear_found, fun hread ↦ ⟨?_, ?_⟩, ?_⟩
  · exact fun event horder ↦ step_outcome_of_moreReads hmore hread horder
  · exact fun horder ↦ isChain_beats_of_silencesRead horder hread
  · exact fun before energy now horder hbeat ↦ tempo_after_read_iff horder hbeat

/-- A beat, and after a silence of four seconds another one. -/
def silentRun (α : Type) [Scalar α] : List (BeatEvent α) :=
  [.energy (Scalar.ofNat 1) 0, .energy (Scalar.ofNat 2) 1000000000,
    .energy (Scalar.ofNat 2) 5000000000]

/-- The same with the tempo read in the silence. -/
def silentRunRead (α : Type) [Scalar α] : List (BeatEvent α) :=
  [.energy (Scalar.ofNat 1) 0, .energy (Scalar.ofNat 2) 1000000000, .tempo 4500000000,
    .energy (Scalar.ofNat 2) 5000000000]

/-- One read in a silence, half a second before the beat that ends it, and the tempo just after that
beat is zero where it was 15 before, the mean over the silence. -/
theorem read_in_silence_changes_tempo :
    MoreReads (silentRun Float) (silentRunRead Float) ∧
    InOrder (silentRunRead Float ++ [.tempo 5000000000]) ∧
    (((create : BeatDetector Float).run (silentRun Float)).1.readTempo 5000000000).2 = 15 ∧
    (((create : BeatDetector Float).run (silentRunRead Float)).1.readTempo 5000000000).2 = 0 := by
  refine ⟨?_, ?_, ?_, ?_⟩
  · exact (((MoreReads.nil.same _).same _).read 4500000000).same _
  · unfold InOrder
    decide
  · decide +kernel
  · decide +kernel

theorem silencesRead_silentRunRead : SilencesRead (silentRunRead ℚ) := by
  have hnone {before : List (BeatEvent ℚ)}
      (hlast : ((create : BeatDetector ℚ).run before).1.lastBeat = none) (now : ℤ) :
      SilenceRead before now := by
    simp [SilenceRead, hlast]
  have hfirst : SilencesRead ((silentRunRead ℚ).take 1) :=
    silencesRead_concat.mpr ⟨silencesRead_nil, fun _ now _ _ ↦ hnone rfl now⟩
  have hsecond : SilencesRead ((silentRunRead ℚ).take 2) :=
    silencesRead_concat.mpr ⟨hfirst, fun _ now _ _ ↦ hnone (by decide +kernel) now⟩
  have hthird : SilencesRead ((silentRunRead ℚ).take 2 ++ [.tempo 4500000000]) :=
    silencesRead_concat.mpr ⟨hsecond, fun _ _ hevent ↦ nomatch hevent⟩
  refine silencesRead_concat.mpr ⟨hthird, fun _ now _ _ last hlast _ ↦ ⟨4500000000, ?_, ?_⟩⟩
  · simp [silentRunRead]
  · have hlastBeat : ((create : BeatDetector ℚ).run ((silentRunRead ℚ).take 3)).1.lastBeat =
        some 1000000000 := by decide +kernel
    obtain rfl : 1000000000 = last := Option.some.inj (hlastBeat.symm.trans hlast)
    decide

/-- Where the silence was read, another read in it changes nothing, and where it was not, a read
just before the beat does. -/
theorem reads_change_tempo_after_unread_silence_four_seconds :
    let detector := ((create : BeatDetector ℚ).run (silentRunRead ℚ)).1
    let other := ((create : BeatDetector ℚ).run
      (((silentRunRead ℚ).take 3 ++ [.tempo 4600000000]) ++ (silentRunRead ℚ).drop 3)).1
    (other.step (.tempo 5000000000)).2 = (detector.step (.tempo 5000000000)).2 ∧
    (detector.beats.IsChain fun earlier later : ℤ ↦ later ≤ earlier + 3000000000) ∧
    let events := (silentRun ℚ).take 2
    (((create : BeatDetector ℚ).run (events ++ [.tempo 5000000000] ++
        [.energy 2 5000000000])).1.readTempo 5000000000).2 ≠
      (((create : BeatDetector ℚ).run (events ++ [.energy 2 5000000000])).1.readTempo
        5000000000).2 := by
  intro detector other
  have hmore : MoreReads (silentRunRead ℚ)
      (((silentRunRead ℚ).take 3 ++ [.tempo 4600000000]) ++ (silentRunRead ℚ).drop 3) :=
    ((((MoreReads.nil.same _).same _).same _).read 4600000000).same _
  obtain ⟨-, hsame, hexact⟩ := reads_change_tempo_after_unread_silence _ _ hmore
  obtain ⟨hstep, hchain⟩ := hsame silencesRead_silentRunRead
  refine ⟨hstep _ (by unfold InOrder; decide), hchain (by unfold InOrder; decide), ?_⟩
  intro events
  rw [Ne, hexact events 2 5000000000 (by unfold InOrder; decide) (by decide +kernel)]
  intro hread
  obtain ⟨read, hmem, -⟩ := hread 1000000000 (by decide +kernel) (by decide)
  simp [events, silentRun] at hmem

end BeatDetector

end LightShow
