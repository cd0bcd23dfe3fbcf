import LightShow.Proofs.Bridge.BackoffSafety
import LightShow.Proofs.Bridge.FlushTurns
import LightShow.Proofs.Bridge.Provenance

/-!
# The life of the flush task

Between two commands, no caller waits for a flush and the clockwork says that it is running exactly
while a flush task is installed (`Resting`). A stop winds the task down, empties the queue and
returns, at the limit if the task still waits then for a slot or an answer (`Held`,
`Resting.held_retire`). Once the abort has taken effect, nothing goes on (`Resting.silent_stop`): no
flush is asked for, none is under way, and no task is there to ask for one. Until a start or a
flush, nothing can begin again (`Silent.execute`), and what begins then is fed by later updates
alone (`Silent.exists_mergedFrom`).

On a runtime of one thread, an aborted task is not polled again, and a stop ends with an argument
`late` of zero: nothing at all is done after it returns. On others, an aborted task that is just
being polled goes on to its next yield, and may send what was left of its batch at that very instant
(`requests_straggle`).

A command is given when the one before it has come to its end. A flush of a caller does, unless it
waits for an answer that never comes, in which case nobody gives another command.
-/

set_option autoImplicit false

namespace LightShow.Clockwork

variable {κ : Type}

/-- What holds between two commands. -/
structure Resting (work : Clockwork κ) : Prop where
  orderly : work.Orderly
  free : .caller ∉ work.controller.owners
  running : work.isRunning = work.isInstalled

/-- Nothing goes on, and nothing will by itself. -/
structure Silent (work : Clockwork κ) : Prop where
  owners : work.controller.owners = []
  uninstalled : work.isInstalled = false

theorem resting_new (window interval : ℕ) (script : LightTable (List Reply)) :
    ({ window, controller := { interval }, script } : Clockwork κ).Resting where
  orderly := ⟨nofun, rfl, List.nodup_nil, nofun⟩
  free := List.not_mem_nil
  running := rfl

/-- What is in order does not hang on the clock, nor on what the clockwork says of itself. -/
theorem Orderly.of_eq {work next : Clockwork κ} (horderly : work.Orderly)
    (hcontroller : next.controller = work.controller) (hflight : next.inFlight = work.inFlight)
    (hinstalled : next.isInstalled = work.isInstalled) : next.Orderly := by
  obtain ⟨hsettled, hawaited, hnodup, hknown⟩ := horderly
  rw [← hcontroller] at hsettled hawaited hnodup hknown
  rw [← hflight] at hawaited
  rw [← hinstalled] at hknown
  exact ⟨hsettled, hawaited, hnodup, hknown⟩

theorem orderly_of_owners_eq_nil {work : Clockwork κ} (howners : work.controller.owners = [])
    (hflight : work.inFlight = none) : work.Orderly := by
  obtain ⟨hfree, -⟩ := work.controller.owners_eq_nil_iff.mp howners
  refine ⟨?_, ?_, ?_, ?_⟩
  · intro owner
    rw [hfree]
    exact nofun
  · rw [hflight, Controller.agenda_of_free hfree]
    rfl
  · rw [howners]
    exact List.nodup_nil
  · rw [howners]
    exact nofun

/-- No reply is on its way when no flush is asked for. -/
theorem Orderly.inFlight_eq_none {work : Clockwork κ} (horderly : work.Orderly)
    (howners : work.controller.owners = []) : work.inFlight = none := by
  obtain ⟨hfree, -⟩ := work.controller.owners_eq_nil_iff.mp howners
  have hflight := horderly.flight
  rw [Controller.agenda_of_free hfree] at hflight
  simpa using hflight

theorem start_of_isInstalled {work : Clockwork κ} (hinstalled : work.isInstalled = true)
    (runtime : Bool) : work.start runtime = (work, .ok ()) := by
  rw [start, if_pos hinstalled]

theorem start_false {work : Clockwork κ} (huninstalled : work.isInstalled = false) :
    work.start false = (work, .error .noRuntime) := by
  simp [start, huninstalled]

theorem start_true {work : Clockwork κ} (huninstalled : work.isInstalled = false) :
    work.start true =
      ({ work with nextTick := some (work.clock + millis work.window), running := true },
        .ok ()) := by
  simp [start, huninstalled]

/-- Without a flush task, a clockwork between two commands is silent. -/
theorem Resting.silent {work : Clockwork κ} (hresting : work.Resting)
    (huninstalled : work.isInstalled = false) : work.Silent where
  owners := by
    refine List.eq_nil_iff_forall_not_mem.mpr fun owner howner ↦ ?_
    rcases hresting.orderly.known owner howner with hcaller | ⟨-, hinstalled⟩
    · rw [hcaller] at howner
      exact hresting.free howner
    · rw [huninstalled] at hinstalled
      exact Bool.false_ne_true hinstalled
  uninstalled := huninstalled

theorem Silent.nextActivity {work : Clockwork κ} (hsilent : work.Silent) :
    work.nextActivity = none := by
  obtain ⟨hfree, hwaiting⟩ := work.controller.owners_eq_nil_iff.mp hsilent.owners
  have htick : work.nextTick = none := by simpa [isInstalled] using hsilent.uninstalled
  simp [Clockwork.nextActivity, nextFlushActivity, nextTickActivity, hfree, hwaiting, htick]

variable [Scalar κ]

/-! ### Stopping -/

theorem stop_of_uninstalled {work : Clockwork κ} (huninstalled : work.isInstalled = false)
    (overdue late : ℕ) : work.stop overdue late = work := by
  simp [stop, huninstalled]

omit [Scalar κ] in
theorem due_of_isOverdue {work : Clockwork κ} (hoverdue : work.isOverdue = true) :
    work.Due work.clock .tick := by
  obtain ⟨hidle, hdue⟩ : work.controller.isBusy .task = false ∧
      work.nextTick.any (· ≤ work.clock) = true := by
    simpa [isOverdue] using hoverdue
  refine .tick ?_ ((Controller.isBusy_eq_false_iff _ _).mp hidle)
  unfold isInstalled
  cases hnext : work.nextTick with
  | none => simp [hnext] at hdue
  | some due => rfl

theorem Orderly.windDown {work : Clockwork κ} (horderly : work.Orderly) (limit overdue : ℕ) :
    work.Proceeds (work.windDown limit overdue) := by
  induction overdue generalizing work with
  | zero => exact horderly.advance _ _ _
  | succ overdue ih =>
    have hwaited : work.Proceeds (work.awaitTask limit) := horderly.advance _ _ _
    unfold Clockwork.windDown
    dsimp only
    split_ifs with hoverdue
    · have hticked := hwaited.orderly.perform (due_of_isOverdue hoverdue)
      exact (hwaited.trans hticked).trans (ih hticked.orderly)
    · exact hwaited

/-- When the flush task has been waited for, it does not flush or nothing is due before the
limit. -/
theorem Orderly.windDown_ends {work : Clockwork κ} (horderly : work.Orderly) (limit overdue : ℕ) :
    .task ∉ (work.windDown limit overdue).controller.owners ∨
      ∀ instant activity,
        (work.windDown limit overdue).nextActivity = some (instant, activity) →
          limit ≤ instant := by
  induction overdue generalizing work with
  | zero => exact horderly.awaitTask_ends limit
  | succ overdue ih =>
    have hwaited : work.Proceeds (work.awaitTask limit) := horderly.advance _ _ _
    unfold Clockwork.windDown
    dsimp only
    split_ifs with hoverdue
    · exact ih (hwaited.orderly.perform (due_of_isOverdue hoverdue)).orderly
    · exact horderly.awaitTask_ends limit

omit [Scalar κ] in
/-- While the flush task flushes, what happens next is up to the flushes. -/
theorem nextActivity_of_busy {work : Clockwork κ} (hbusy : .task ∈ work.controller.owners) :
    work.nextActivity = work.nextFlushActivity := by
  have htick : work.nextTickActivity = none := by
    unfold nextTickActivity
    rw [(work.controller.isBusy_iff .task).mpr hbusy]
    cases work.nextTick <;> rfl
  unfold Clockwork.nextActivity
  rw [htick]
  cases work.nextFlushActivity <;> rfl

/-- A flush has the turn, and waits for a slot that does not open before an instant or for an answer
that does not come before it. -/
structure Held (work : Clockwork κ) (instant : ℕ) : Prop where
  flushing : work.controller.flushing.isSome = true
  slot : work.controller.agenda.awaited = none → instant ≤ work.controller.nextSlot
  answer : ∀ arrival answer, work.inFlight = some (some arrival, answer) → instant ≤ arrival

omit [Scalar κ] in
theorem Orderly.held {work : Clockwork κ} (horderly : work.Orderly)
    (hbusy : .task ∈ work.controller.owners) {limit : ℕ} (hclock : work.clock < limit)
    (hlate : ∀ instant activity, work.nextActivity = some (instant, activity) → limit ≤ instant) :
    work.Held limit := by
  rw [nextActivity_of_busy hbusy] at hlate
  have hflight := horderly.flight
  unfold nextFlushActivity at hlate
  rcases hflushing : work.controller.flushing with _ | ⟨owner, batch, _ | light⟩
  · have hwaiting : work.controller.waiting ≠ [] := by
      intro hnone
      rw [(work.controller.owners_eq_nil_iff).mpr ⟨hflushing, hnone⟩] at hbusy
      exact absurd hbusy List.not_mem_nil
    have hnow := hlate work.clock .drain (by simp [hflushing, hwaiting])
    exact absurd hclock (Nat.not_lt.mpr hnow)
  · have hslot : limit ≤ max work.clock work.controller.nextSlot :=
      hlate _ .slot (by rw [hflushing])
    rw [Controller.agenda_of_flushing hflushing] at hflight
    refine ⟨by rw [hflushing]; rfl, fun _ ↦ by omega, fun arrival answer hreply ↦ ?_⟩
    simp [hreply] at hflight
  · refine ⟨by rw [hflushing]; rfl, fun hawaited ↦ ?_, fun arrival answer hreply ↦ ?_⟩
    · rw [Controller.agenda_of_flushing hflushing] at hawaited
      cases hawaited
    · have harrival : limit ≤ max work.clock arrival := hlate _ .answer (by rw [hflushing, hreply])
      omega

omit [Scalar κ] in
theorem Held.le_of_nextActivity {work : Clockwork κ} {limit : ℕ} (hheld : work.Held limit)
    (hbusy : .task ∈ work.controller.owners) {instant : ℕ} {activity : Activity}
    (hnext : work.nextActivity = some (instant, activity)) : limit ≤ instant := by
  obtain ⟨hflushing, hslot, hanswer⟩ := hheld
  rw [nextActivity_of_busy hbusy] at hnext
  cases due_of_nextFlushActivity hnext with
  | drain hfree hwaiting => simp [hfree] at hflushing
  | slot owner batch hflushing hopen =>
    rw [Controller.agenda_of_flushing hflushing] at hslot
    exact (hslot rfl).trans hopen
  | answer owner batch light arrival answer hflushing hflight =>
    have hwhen : instant = max work.clock arrival := by
      simpa [nextFlushActivity, hflushing, hflight, eq_comm] using hnext
    rw [hwhen]
    exact (hanswer arrival answer hflight).trans (le_max_right _ _)
  | tick hinstalled hfree => exact absurd hbusy hfree

/-- A flush task that is held until the limit does nothing before. -/
theorem Held.windDown_eq {work : Clockwork κ} {limit : ℕ} (hheld : work.Held limit)
    (hbusy : .task ∈ work.controller.owners) (overdue : ℕ) :
    work.windDown limit overdue = work := by
  have hwaited : work.awaitTask limit = work := by
    unfold awaitTask
    cases work.flushWork with
    | zero => rfl
    | succ fuel =>
      unfold Clockwork.advance
      split_ifs with hdone
      · rfl
      · split
        next instant activity hnext =>
          rw [if_neg]
          simpa using hheld.le_of_nextActivity hbusy hnext
        next => rfl
  cases overdue with
  | zero => exact hwaited
  | succ overdue =>
    unfold Clockwork.windDown
    rw [hwaited]
    simp [isOverdue, (work.controller.isBusy_iff .task).mpr hbusy]

theorem Orderly.retire {work : Clockwork κ} (horderly : work.Orderly) (overdue : ℕ) :
    { work with running := false }.Proceeds (work.retire overdue) := by
  have htold : { work with running := false }.Orderly :=
    ⟨horderly.settled, horderly.flight, horderly.nodup, horderly.known⟩
  obtain ⟨⟨hsettled, hflight, hnodup, hknown⟩, hinstalled, hrunning, howners⟩ :=
    htold.windDown (work.clock + stopTimeout) overdue
  exact ⟨⟨hsettled, hflight, hnodup, hknown⟩, hinstalled, hrunning, howners⟩

/-- A stop that returns before the flush task has come to its end does so at the limit, when the
task is still held. -/
theorem Resting.held_retire {work : Clockwork κ} (hresting : work.Resting) (overdue : ℕ)
    (hbusy : (work.retire overdue).controller.isBusy .task = true) :
    (work.retire overdue).clock = work.clock + stopTimeout ∧
      (work.retire overdue).Held (work.clock + stopTimeout) := by
  let told : Clockwork κ := { work with running := false }
  let waited := told.windDown (work.clock + stopTimeout) overdue
  have htold : told.Orderly := hresting.orderly.of_eq rfl rfl rfl
  have hwaited : waited.controller.isBusy .task = true := hbusy
  have htask : .task ∈ waited.controller.owners := (waited.controller.isBusy_iff .task).mp hwaited
  have hclock : waited.clock < work.clock + stopTimeout :=
    told.clock_windDown_lt overdue (lt_add_stopTimeout work.clock)
  have hlate := (htold.windDown_ends (work.clock + stopTimeout) overdue).resolve_left (· htask)
  obtain ⟨hflushing, hslot, hanswer⟩ :=
    (htold.windDown (work.clock + stopTimeout) overdue).orderly.held htask hclock hlate
  exact ⟨if_pos hwaited, hflushing, hslot, hanswer⟩

/-- Once the flush of the flush task is cut off, no flush is left but that of a caller. -/
theorem owners_cutOffTask {work : Clockwork κ} (horderly : work.Orderly)
    (hfree : .caller ∉ work.controller.owners) : work.cutOffTask.controller.owners = [] := by
  show (work.controller.step work.clock (.cutOff .task)).1.owners = []
  rw [Controller.owners_cutOff]
  refine List.filter_eq_nil_iff.mpr fun owner howner ↦ ?_
  rcases horderly.known owner howner with hcaller | ⟨htask, -⟩
  · rw [hcaller] at howner
    exact absurd howner hfree
  · simp [htask]

theorem inFlight_cutOffTask {work : Clockwork κ} (horderly : work.Orderly)
    (hfree : .caller ∉ work.controller.owners) : work.cutOffTask.inFlight = none := by
  show (if work.controller.flushing.any fun flush ↦ flush.owner = .task then none
    else work.inFlight) = none
  cases hflushing : work.controller.flushing with
  | none =>
    have hflight := horderly.flight
    rw [Controller.agenda_of_free hflushing] at hflight
    simpa using hflight
  | some flush =>
    have hmem : flush.owner ∈ work.controller.owners := by simp [Controller.owners, hflushing]
    rcases horderly.known _ hmem with hcaller | ⟨htask, -⟩
    · rw [hcaller] at hmem
      exact absurd hmem hfree
    · simp [htask]

/-- What an aborted flush task still does: at that very instant it may send updates that were left
of its batch. -/
theorem requests_straggle (work : Clockwork κ) (hpending : work.controller.pending = [])
    (late : ℕ) :
    (work.straggle late).controller.pending = [] ∧
      ∃ stragglers, (work.straggle late).requests = stragglers ++ work.requests ∧
        ∀ request ∈ stragglers, request.start = work.clock ∧
          ∃ update ∈ work.controller.agenda.batch,
            request.light = update.light ∧ request.body = Body.ofUpdate update := by
  obtain ⟨events, hfollows⟩ : ∃ events, work.Follows (work.straggle late) [] events :=
    exists_follows_advance _ _ _ work
  refine ⟨?_, _, hfollows.requests, fun request hrequest ↦ ?_⟩
  · rw [hfollows.controller]
    exact Controller.pending_run_eq_nil hpending hfollows.queued
  · obtain ⟨⟨timed, htimed, hstart⟩, hcarried⟩ := Controller.exists_mem_batch_of_mem_run hpending
      hfollows.queued (List.mem_reverse.mp hrequest)
    have hbefore := hfollows.before timed htimed
    rw [clock_straggle] at hbefore
    exact ⟨hstart.trans (le_antisymm hbefore (hfollows.after timed htimed)), hcarried⟩

theorem straggle_of_idle {work : Clockwork κ} (hidle : work.controller.isBusy .task = false)
    (late : ℕ) : work.straggle late = work :=
  advance_of_done (by simpa using hidle) late

/-- After a stop has returned, nothing is sent where an abort takes effect at once. -/
theorem requests_stop {work : Clockwork κ} (hinstalled : work.isInstalled = true)
    (overdue late : ℕ) :
    ∃ stragglers, (work.stop overdue late).requests = stragglers ++ (work.retire overdue).requests ∧
      (late = 0 ∨ (work.retire overdue).controller.isBusy .task = false → stragglers = []) ∧
      ∀ request ∈ stragglers, request.start = (work.retire overdue).clock ∧
        ∃ update ∈ (work.retire overdue).controller.agenda.batch,
          request.light = update.light ∧ request.body = Body.ofUpdate update := by
  obtain ⟨-, stragglers, hrequests, hcarried⟩ := (work.retire overdue).requests_straggle rfl late
  have hstop : (work.stop overdue late).requests =
      ((work.retire overdue).straggle late).requests := by
    unfold stop
    rw [if_pos hinstalled]
    rfl
  refine ⟨stragglers, hstop.trans hrequests, fun hnothing ↦ ?_, hcarried⟩
  have hstays : (work.retire overdue).straggle late = work.retire overdue := by
    rcases hnothing with rfl | hidle
    · rfl
    · exact straggle_of_idle hidle late
  rw [hstays] at hrequests
  exact List.self_eq_append_left.mp hrequests

/-- A stop of an installed task ends in time, in silence, and with an empty queue. -/
theorem Resting.silent_stop {work : Clockwork κ} (hresting : work.Resting)
    (hinstalled : work.isInstalled = true) (overdue late : ℕ) :
    (work.stop overdue late).Silent ∧ (work.stop overdue late).isRunning = false ∧
      (work.stop overdue late).inFlight = none ∧
      (work.stop overdue late).controller.pending = [] ∧
      (work.stop overdue late).clock = (work.retire overdue).clock := by
  have hretired := hresting.orderly.retire overdue
  have hlate : (work.retire overdue).Proceeds ((work.retire overdue).straggle late) :=
    hretired.orderly.advance _ _ _
  have hfree : .caller ∉ ((work.retire overdue).straggle late).controller.owners := by
    intro hcaller
    rcases (hretired.trans hlate).owners _ hcaller with hmem | ⟨htask, -⟩
    · exact hresting.free hmem
    · cases htask
  have hpending := ((work.retire overdue).requests_straggle rfl late).1
  unfold stop
  rw [if_pos hinstalled]
  exact ⟨⟨owners_cutOffTask hlate.orderly hfree, rfl⟩, hlate.running.trans hretired.running,
    inFlight_cutOffTask hlate.orderly hfree, hpending, clock_straggle _ late⟩

/-! ### Commands -/

/-- A command leaves a clockwork as it should be between two commands, once it has come to its
end. -/
theorem Resting.execute {work : Clockwork κ} (hresting : work.Resting) (command : Command κ)
    (hreturned : (work.execute command).controller.isBusy .caller = false) :
    (work.execute command).Resting := by
  have horderly := hresting.orderly
  have hrunning := hresting.running
  rw [Controller.isBusy_eq_false_iff] at hreturned
  cases command with
  | start runtime =>
    show (work.start runtime).1.Resting
    cases hinstalled : work.isInstalled with
    | true =>
      rw [start_of_isInstalled hinstalled]
      exact hresting
    | false =>
      cases runtime with
      | false =>
        rw [start_false hinstalled]
        exact hresting
      | true =>
        have howners := (hresting.silent hinstalled).owners
        rw [start_true hinstalled]
        exact ⟨orderly_of_owners_eq_nil howners (horderly.inFlight_eq_none howners),
          hresting.free, rfl⟩
  | stop overdue late =>
    show (work.stop overdue late).Resting
    cases hinstalled : work.isInstalled with
    | true =>
      obtain ⟨hsilent, hstopped, hflight, -⟩ := hresting.silent_stop hinstalled overdue late
      exact ⟨orderly_of_owners_eq_nil hsilent.owners hflight, hreturned,
        hstopped.trans hsilent.uninstalled.symm⟩
    | false =>
      rw [stop_of_uninstalled hinstalled]
      exact hresting
  | flush =>
    obtain ⟨hflushed, hinstalled, hsame⟩ := horderly.flush hresting.free
    exact ⟨hflushed, hreturned, hsame.trans (hrunning.trans hinstalled.symm)⟩
  | update updates =>
    exact ⟨⟨horderly.settled, horderly.flight, horderly.nodup, horderly.known⟩, hreturned, hrunning⟩
  | sleep instant =>
    have hproceeds := horderly.advance (some instant) (fun _ ↦ false) (work.workUntil instant)
    exact ⟨hproceeds.orderly.of_eq rfl rfl rfl, hreturned,
      hproceeds.running.trans (hrunning.trans hproceeds.installed.symm)⟩

/-- Whether every command comes to its end, so that the next one is given. -/
def allReturn (work : Clockwork κ) : List (Command κ) → Bool
  | [] => true
  | command :: rest =>
    !(work.execute command).controller.isBusy .caller && (work.execute command).allReturn rest

theorem Resting.foldl_execute {work : Clockwork κ} (hresting : work.Resting)
    {commands : List (Command κ)} (hreturned : work.allReturn commands = true) :
    (commands.foldl Clockwork.execute work).Resting := by
  induction commands generalizing work with
  | nil => exact hresting
  | cons command rest ih =>
    rw [allReturn, Bool.and_eq_true, Bool.not_eq_true'] at hreturned
    exact ih (hresting.execute command hreturned.1) hreturned.2

/-- In silence, only a start or a flush makes anything begin. -/
theorem Silent.execute {work : Clockwork κ} (hsilent : work.Silent) {command : Command κ}
    (hstart : command ≠ .start true) (hflush : command ≠ .flush) :
    (work.execute command).Silent ∧ (work.execute command).requests = work.requests := by
  cases command with
  | start runtime =>
    cases runtime with
    | true => exact absurd rfl hstart
    | false =>
      show (work.start false).1.Silent ∧ (work.start false).1.requests = work.requests
      rw [start_false hsilent.uninstalled]
      exact ⟨hsilent, rfl⟩
  | stop overdue late =>
    show (work.stop overdue late).Silent ∧ (work.stop overdue late).requests = work.requests
    rw [stop_of_uninstalled hsilent.uninstalled]
    exact ⟨hsilent, rfl⟩
  | flush => exact absurd rfl hflush
  | update updates => exact ⟨⟨hsilent.owners, hsilent.uninstalled⟩, rfl⟩
  | sleep instant =>
    have hnothing :
        work.advance (some instant) (fun _ ↦ false) (work.workUntil instant) = work := by
      cases work.workUntil instant with
      | zero => rfl
      | succ fuel => simp [advance, hsilent.nextActivity]
    have hslept :
        work.execute (.sleep instant) = { work with clock := max work.clock instant } := by
      show { work.advance (some instant) (fun _ ↦ false) (work.workUntil instant) with
        clock := max (work.advance (some instant) (fun _ ↦ false) (work.workUntil instant)).clock
          instant } = _
      rw [hnothing]
    rw [hslept]
    exact ⟨⟨hsilent.owners, hsilent.uninstalled⟩, rfl⟩

theorem Silent.requests_foldl_execute {work : Clockwork κ} (hsilent : work.Silent)
    {commands : List (Command κ)}
    (hquiet : ∀ command ∈ commands, command ≠ .start true ∧ command ≠ .flush) :
    (commands.foldl Clockwork.execute work).requests = work.requests := by
  induction commands generalizing work with
  | nil => rfl
  | cons command rest ih =>
    obtain ⟨⟨hstart, hflush⟩, hrest⟩ := List.forall_mem_cons.mp hquiet
    obtain ⟨hnext, hrequests⟩ := hsilent.execute hstart hflush
    exact (ih hnext hrest).trans hrequests

/-- Whatever is sent after a silence with an empty queue was merged from updates given after it. -/
theorem Silent.exists_mergedFrom {work : Clockwork κ} (hsilent : work.Silent)
    (hpending : work.controller.pending = []) (commands : List (Command κ)) :
    ∃ fresh, (commands.foldl Clockwork.execute work).requests = fresh ++ work.requests ∧
      ∀ request ∈ fresh, ∃ update : Update κ,
        update.MergedFrom (commands.flatMap Command.updates) ∧
          request.light = update.light ∧ request.body = Body.ofUpdate update := by
  obtain ⟨hfree, -⟩ := work.controller.owners_eq_nil_iff.mp hsilent.owners
  obtain ⟨events, hfollows⟩ := work.exists_follows_foldl_execute commands
  refine ⟨_, hfollows.requests, fun request hrequest ↦ ?_⟩
  rw [← hfollows.queued]
  exact (Controller.fedBy_nil hpending hfree).exists_mergedFrom (List.mem_reverse.mp hrequest)

/-- A stop during whose wait nothing goes on takes in no answer and sends nothing. -/
theorem stop_of_windDown_eq {work : Clockwork κ} {overdue late : ℕ}
    (hwound : { work with running := false }.windDown (work.clock + stopTimeout) overdue =
      { work with running := false })
    (hlate : late = 0 ∨ work.controller.isBusy .task = false) :
    (work.stop overdue late).controller.backoff = work.controller.backoff ∧
      (work.stop overdue late).requests = work.requests := by
  have hretired : (work.retire overdue).controller = { work.controller with pending := [] } ∧
      (work.retire overdue).requests = work.requests := by
    unfold retire
    dsimp only
    rw [hwound]
    exact ⟨rfl, rfl⟩
  have hstays : (work.retire overdue).straggle late = work.retire overdue := by
    rcases hlate with rfl | hidle
    · rfl
    · refine straggle_of_idle ?_ late
      rw [hretired.1]
      exact hidle
  unfold stop
  split_ifs
  · rw [hstays]
    have hbackoff : (work.retire overdue).controller.backoff = work.controller.backoff := by
      rw [hretired.1]
    exact ⟨hbackoff, hretired.2⟩
  · exact ⟨rfl, rfl⟩

theorem stop_of_idle {work : Clockwork κ} (hidle : work.controller.isBusy .task = false)
    (late : ℕ) :
    (work.stop 0 late).controller.backoff = work.controller.backoff ∧
      (work.stop 0 late).requests = work.requests :=
  stop_of_windDown_eq (advance_of_done (by simpa using hidle) _) (.inr hidle)

theorem Resting.stop_of_held {work : Clockwork κ} (hresting : work.Resting)
    (hheld : work.Held (work.clock + stopTimeout)) (overdue : ℕ) :
    (work.stop overdue).controller.backoff = work.controller.backoff ∧
      (work.stop overdue).requests = work.requests := by
  have hbusy : .task ∈ work.controller.owners := by
    obtain ⟨flush, hflushing⟩ := Option.isSome_iff_exists.mp hheld.flushing
    have hmem : flush.owner ∈ work.controller.owners := by simp [Controller.owners, hflushing]
    rcases hresting.orderly.known _ hmem with hcaller | ⟨htask, -⟩
    · rw [hcaller] at hmem
      exact absurd hmem hresting.free
    · rwa [htask] at hmem
  have htold : { work with running := false }.Held (work.clock + stopTimeout) :=
    ⟨hheld.flushing, hheld.slot, hheld.answer⟩
  exact stop_of_windDown_eq (htold.windDown_eq hbusy overdue) (.inl rfl)

omit [Scalar κ] in
/-- A start fails exactly if no task is installed and nothing could run one, and then it changes
nothing. It never touches the controller. -/
theorem start_cases (work : Clockwork κ) (runtime : Bool) :
    ((work.start runtime).2 = .error .noRuntime ↔ work.isInstalled = false ∧ runtime = false) ∧
      ((work.start runtime).2 = .error .noRuntime → (work.start runtime).1 = work) ∧
      (work.start runtime).1.controller = work.controller := by
  cases hinstalled : work.isInstalled with
  | true =>
    rw [start_of_isInstalled hinstalled]
    simp
  | false =>
    cases runtime with
    | false =>
      rw [start_false hinstalled]
      simp
    | true =>
      rw [start_true hinstalled]
      simp

/-- Whatever a new clockwork was told before, one command after another: it says that it is running
exactly while a flush task is installed; a start of a running one and a stop of a stopped one change
nothing, nor does a start that fails. A stop of a running one returns within its time limit, with an
empty queue, and only at the limit if the task is still held then. Where an abort takes effect at
once, no request is started from then on until a start or a flush; where it does not, what is sent
meanwhile is sent at that very instant and comes from the batch that is cut off. What is sent later
was merged from later updates, so nothing of such a batch goes out then.

A start leaves the backoff of all lights as it is. A stop changes it by the answers that come in
while it waits, which are those the bridge delivers before the limit; it changes nothing if the task
is idle or held until the limit. The next flush comes to its end as well, unless it waits for an
answer that never comes. -/
theorem lifecycle_consistent (window interval : ℕ) (script : LightTable (List Reply))
    (commands : List (Command κ))
    (hreturned : ({ window, controller := { interval }, script } : Clockwork κ).allReturn commands =
      true) :
    let work := commands.foldl Clockwork.execute { window, controller := { interval }, script }
    work.isRunning = work.isInstalled ∧
    (∀ runtime, (work.isRunning = true → work.start runtime = (work, .ok ())) ∧
      ((work.start runtime).2 = .error .noRuntime ↔ work.isRunning = false ∧ runtime = false) ∧
      ((work.start runtime).2 = .error .noRuntime → (work.start runtime).1 = work) ∧
      (work.start runtime).1.controller.backoff = work.controller.backoff) ∧
    (∀ overdue late, (work.isRunning = false → work.stop overdue late = work) ∧
      ∃ events, work.Follows (work.stop overdue late) [] events ∧
        (∀ now answer, (now, ControllerEvent.answer answer) ∈ events →
          now ≤ work.clock + millis 5000 ∧ (late = 0 → now < work.clock + millis 5000)) ∧
        ∀ light, (work.stop overdue late).controller.backoff.get? light =
          ((work.controller.history events).filterMap (Moment.answerOf? light)).foldl
            Backoff.afterAnswer (work.controller.backoff.get? light)) ∧
    (work.controller.isBusy .task = false → ∀ late,
      (work.stop 0 late).controller.backoff = work.controller.backoff ∧
        (work.stop 0 late).requests = work.requests) ∧
    (work.Held (work.clock + millis 5000) → ∀ overdue,
      (work.stop overdue).controller.backoff = work.controller.backoff ∧
        (work.stop overdue).requests = work.requests) ∧
    (work.isRunning = true → ∀ overdue late,
      let returned := work.retire overdue
      let stopped := work.stop overdue late
      (returned.isRunning = false ∧ returned.clock ≤ work.clock + millis 5000 ∧
        returned.controller.pending = [] ∧
        (returned.controller.isBusy .task = true →
          returned.clock = work.clock + millis 5000 ∧ returned.Held returned.clock)) ∧
      (stopped.isRunning = false ∧ stopped.isInstalled = false ∧ stopped.clock = returned.clock ∧
        stopped.controller.pending = []) ∧
      (∃ stragglers, stopped.requests = stragglers ++ returned.requests ∧
        (late = 0 ∨ returned.controller.isBusy .task = false → stragglers = []) ∧
        ∀ request ∈ stragglers, request.start = returned.clock ∧
          ∃ update ∈ returned.controller.agenda.batch,
            request.light = update.light ∧ request.body = Body.ofUpdate update) ∧
      (∀ later : List (Command κ),
        (∀ command ∈ later, command ≠ .start true ∧ command ≠ .flush) →
          (later.foldl Clockwork.execute stopped).requests = stopped.requests) ∧
      ∀ later : List (Command κ), ∃ fresh,
        (later.foldl Clockwork.execute stopped).requests = fresh ++ stopped.requests ∧
        ∀ request ∈ fresh, ∃ update : Update κ,
          update.MergedFrom (later.flatMap Command.updates) ∧
            request.light = update.light ∧ request.body = Body.ofUpdate update) ∧
    (work.flush.controller.isBusy .caller = false ∨
      ∃ light answer, work.flush.controller.agenda.awaited = some light ∧
        work.flush.inFlight = some (none, answer)) := by
  intro work
  have hresting : work.Resting := (resting_new window interval script).foldl_execute hreturned
  refine ⟨hresting.running, ?_, ?_, stop_of_idle, hresting.stop_of_held, ?_,
    hresting.orderly.flush_returns_or_hangs hresting.free⟩
  · intro runtime
    obtain ⟨hfails, hunchanged, hcontroller⟩ := work.start_cases runtime
    rw [hresting.running]
    exact ⟨fun hinstalled ↦ start_of_isInstalled hinstalled runtime, hfails, hunchanged,
      congrArg Controller.backoff hcontroller⟩
  · intro overdue late
    rw [hresting.running]
    obtain ⟨events, hfollows, hintime⟩ := work.exists_follows_stop overdue late
    refine ⟨fun huninstalled ↦ stop_of_uninstalled huninstalled overdue late, events, hfollows,
      hintime, fun light ↦ ?_⟩
    rw [hfollows.controller]
    exact work.controller.get?_backoff_run light events
  · intro hrunning overdue late returned stopped
    have hinstalled : work.isInstalled = true := hresting.running.symm.trans hrunning
    obtain ⟨hsilent, hstopped, -, hpending, hclock⟩ :=
      hresting.silent_stop hinstalled overdue late
    refine ⟨⟨(hresting.orderly.retire overdue).running, work.clock_retire_le overdue, rfl, ?_⟩,
      ⟨hstopped, hsilent.uninstalled, hclock, hpending⟩, requests_stop hinstalled overdue late,
      fun later hquiet ↦ hsilent.requests_foldl_execute hquiet, hsilent.exists_mergedFrom hpending⟩
    intro hbusy
    obtain ⟨hlimit, hheld⟩ := hresting.held_retire overdue hbusy
    exact ⟨hlimit, hlimit ▸ hheld⟩

/-- The first request hangs and its flush is cut off with light `b` still in the batch. Light `c`,
queued meanwhile, is discarded. After a new start, only light `d` is sent. -/
theorem lifecycle_consistent_hung :
    let script : LightTable (List Reply) := .ofList [("a", [{ delay := none }])]
    let commands : List (Command Rat) := [.start, .update [{ light := "a" }, { light := "b" }],
      .sleep (millis 150), .update [{ light := "c" }]]
    let work : Clockwork Rat := { window := 100, controller := { interval := 100 }, script }
    let hung := commands.foldl Clockwork.execute work
    let stopped := hung.stop
    let later : List (Command Rat) := [.update [{ light := "d" }], .start, .sleep (millis 9000)]
    work.allReturn commands = true ∧ hung.isRunning = true ∧ hung.clock = millis 150 ∧
    hung.controller.agenda.batch = [{ light := "b" }] ∧ hung.Held (hung.clock + millis 5000) ∧
    stopped.controller.backoff = hung.controller.backoff ∧
    stopped.clock = hung.clock + millis 5000 ∧ stopped.controller.pending = [] ∧
    stopped.requests.map (·.light) = ["a"] ∧
    (([.update [{ light := "d" }], .sleep (millis 9000)] : List (Command Rat)).foldl
      Clockwork.execute stopped).requests = stopped.requests ∧
    (later.foldl Clockwork.execute stopped).requests.map (·.light) = ["d", "a"] := by
  intro script commands work hung stopped later
  have hreturned : work.allReturn commands = true := by decide +kernel
  have hrunning : hung.isRunning = true := by decide +kernel
  have hclock : stopped.clock = hung.clock + millis 5000 := by decide +kernel
  have hheld : hung.Held (hung.clock + millis 5000) := by
    have hnever : hung.controller.agenda.awaited = some "a" ∧
        (hung.inFlight.bind (·.1)) = none := by decide +kernel
    refine ⟨by decide +kernel, fun hawaited ↦ ?_, fun arrival answer hflight ↦ ?_⟩
    · exact nomatch hnever.1.symm.trans hawaited
    · rw [hflight] at hnever
      exact nomatch hnever.2
  have hinstant : hung.clock = millis 150 := by decide +kernel
  have hbatch : hung.controller.agenda.batch = [{ light := "b" }] := by decide +kernel
  have hsent : stopped.requests.map (·.light) = ["a"] := by decide +kernel
  have hlater : (later.foldl Clockwork.execute stopped).requests.map (·.light) = ["d", "a"] := by
    decide +kernel
  have hfold : commands.foldl Clockwork.execute
      { window := 100, controller := { interval := 100 }, script } = hung := rfl
  have hlife := lifecycle_consistent 100 100 script commands hreturned
  rw [hfold] at hlife
  clear_value hung
  obtain ⟨-, -, -, -, hstays, hstop, -⟩ := hlife
  obtain ⟨-, ⟨-, -, -, hpending⟩, -, hquiet, -⟩ := hstop hrunning 0 0
  exact ⟨hreturned, hrunning, hinstant, hbatch, hheld, (hstays hheld 0).1, hclock, hpending, hsent,
    hquiet _ (by simp), hlater⟩

end LightShow.Clockwork
