import LightShow.Proofs.Bridge.CommandRun
import Mathlib.Data.List.Nodup

/-!
# Flushes take turns and come to their end

The flushes that are asked for form a line: the one that has the turn first, then those that wait
for it (`owners`). An event adds one at the end (`owners_ask`), takes out those of one owner
(`owners_cutOff`), or lets the first one go at most. So in a clockwork there is at most one flush of
a caller and one of the flush task, and the latter only while the task is installed (`Orderly`).

Whatever the flush that has the turn does takes from the load of the controller (`load_drain_lt`,
`load_slot_lt`, `load_answer_lt`), and while a caller waits, the flush task can ask at most once
more. Hence a flush of a caller comes to its end, unless it waits for an answer that never comes
(`Orderly.flush_returns_or_hangs`).
-/

set_option autoImplicit false

namespace LightShow

namespace Controller

variable {κ : Type}

/-! ### The line of flushes -/

/-- The owners of the flushes that have not ended, the one that has the turn first. -/
def owners (controller : Controller κ) : List FlushOwner :=
  (controller.flushing.map (·.owner)).toList ++ controller.waiting

/-- The flush that has the turn has something left to do. -/
def Settled (controller : Controller κ) : Prop :=
  ∀ owner, controller.flushing ≠ some ⟨owner, [], none⟩

theorem isBusy_iff (controller : Controller κ) (owner : FlushOwner) :
    controller.isBusy owner = true ↔ owner ∈ controller.owners := by
  unfold isBusy owners
  cases controller.flushing with
  | none => simp
  | some flush =>
    have hflip : flush.owner = owner ↔ owner = flush.owner := eq_comm
    simp [hflip, or_comm]

theorem isBusy_eq_false_iff (controller : Controller κ) (owner : FlushOwner) :
    controller.isBusy owner = false ↔ owner ∉ controller.owners := by
  rw [← isBusy_iff, Bool.not_eq_true]

theorem owners_eq_nil_iff (controller : Controller κ) :
    controller.owners = [] ↔ controller.flushing = none ∧ controller.waiting = [] := by
  unfold owners
  cases controller.flushing with
  | none => simp
  | some flush => simp

@[simp]
theorem waiting_settle (controller : Controller κ) :
    controller.settle.waiting = controller.waiting := by
  unfold settle
  split <;> rfl

theorem settled_settle (controller : Controller κ) : controller.settle.Settled := by
  intro owner
  unfold settle
  split
  next => simp
  next hbusy => exact hbusy owner

theorem owners_settle_isSuffix (controller : Controller κ) :
    controller.settle.owners <:+ controller.owners := by
  unfold settle
  split
  next owner hflushing =>
    refine ⟨[owner], ?_⟩
    simp [owners, hflushing]
  next => exact List.suffix_rfl

theorem owners_drain_isSuffix (controller : Controller κ) :
    controller.drain.owners <:+ controller.owners := by
  unfold drain
  split
  next owner waiting hfree hwaiting =>
    refine (owners_settle_isSuffix _).trans ?_
    simp [owners, hfree, hwaiting]
  next => exact List.suffix_rfl

theorem owners_answer_isSuffix (controller : Controller κ) (now : ℕ) (answer : Answer) :
    (controller.answer now answer).owners <:+ controller.owners := by
  unfold Controller.answer
  split
  next owner batch light hflushing =>
    refine (owners_settle_isSuffix _).trans ?_
    simp [owners, hflushing]
  next => exact List.suffix_rfl

theorem Settled.drain {controller : Controller κ} (hsettled : controller.Settled) :
    controller.drain.Settled := by
  unfold Controller.drain
  split
  next => exact settled_settle _
  next => exact hsettled

theorem Settled.answer {controller : Controller κ} (hsettled : controller.Settled) (now : ℕ)
    (answer : Answer) : (controller.answer now answer).Settled := by
  unfold Controller.answer
  split
  next => exact settled_settle _
  next => exact hsettled

/-- What lies ahead of the flushes: two turns for each update that is queued or in the batch, one
for an answer, and one for each flush that waits. -/
def load (controller : Controller κ) : ℕ :=
  2 * controller.pending.length + 2 * controller.agenda.batch.length +
    controller.agenda.awaited.toList.length + controller.waiting.length

theorem load_settle (controller : Controller κ) : controller.settle.load = controller.load := by
  unfold load
  rw [agenda_settle, pending_settle, waiting_settle]

theorem load_drain_lt {controller : Controller κ} (hfree : controller.flushing = none)
    (hwaiting : controller.waiting ≠ []) : controller.drain.load < controller.load := by
  obtain ⟨owner, waiting, hwaiting⟩ := List.exists_cons_of_ne_nil hwaiting
  simp only [drain, hfree, hwaiting]
  rw [load_settle]
  simp [load, agenda, hfree, hwaiting]

theorem load_answer_lt {controller : Controller κ} {owner : FlushOwner} {light : String}
    {batch : List (Update κ)} (hflushing : controller.flushing = some ⟨owner, batch, some light⟩)
    (now : ℕ) (answer : Answer) : (controller.answer now answer).load < controller.load := by
  simp only [Controller.answer, hflushing]
  rw [load_settle]
  simp [load, agenda, hflushing]

theorem awaited_drain (controller : Controller κ) :
    controller.drain.agenda.awaited = controller.agenda.awaited := by
  unfold drain
  split
  next owner waiting hfree hwaiting =>
    rw [agenda_settle, agenda_of_free hfree]
    rfl
  next => rfl

theorem awaited_answer (controller : Controller κ) (now : ℕ) (answer : Answer) :
    (controller.answer now answer).agenda.awaited = none := by
  unfold Controller.answer
  split
  next owner batch light hflushing =>
    rw [agenda_settle]
    rfl
  next hidle =>
    rcases hflushing : controller.flushing with _ | ⟨owner, batch, _ | light⟩
    · rw [agenda_of_free hflushing]
    · rw [agenda_of_flushing hflushing]
    · exact absurd hflushing (hidle owner batch light)

/-! ### Events that look at the clock -/

variable [Scalar κ]

theorem owners_ask (controller : Controller κ) (now : ℕ) (owner : FlushOwner) :
    (controller.step now (.ask owner)).1.owners = controller.owners ++ [owner] := by
  simp [step, owners]

theorem owners_cutOff (controller : Controller κ) (now : ℕ) (owner : FlushOwner) :
    (controller.step now (.cutOff owner)).1.owners =
      controller.owners.filter fun other ↦ other ≠ owner := by
  cases hflushing : controller.flushing with
  | none => simp [step, cutOff, owners, hflushing]
  | some flush =>
    by_cases howner : flush.owner = owner
    · simp [step, cutOff, owners, hflushing, howner, Option.filter]
    · simp [step, cutOff, owners, hflushing, howner, Option.filter]

theorem owners_slot_isSuffix (controller : Controller κ) (now : ℕ) :
    (controller.slot now).1.owners <:+ controller.owners := by
  unfold slot
  split
  next owner update batch hflushing =>
    split_ifs with hearly hopen
    · exact List.suffix_rfl
    · simp [owners, hflushing]
    · refine (owners_settle_isSuffix _).trans ?_
      simp [owners, hflushing]
  next => exact List.suffix_rfl

theorem Settled.slot {controller : Controller κ} (hsettled : controller.Settled) (now : ℕ) :
    (controller.slot now).1.Settled := by
  unfold Controller.slot
  split
  next owner update batch hflushing =>
    split_ifs with hearly hopen
    · exact hsettled
    · intro other
      simp
    · exact settled_settle _
  next => exact hsettled

theorem load_slot_lt {controller : Controller κ} {owner : FlushOwner} {update : Update κ}
    {batch : List (Update κ)}
    (hflushing : controller.flushing = some ⟨owner, update :: batch, none⟩)
    {now : ℕ} (hslot : controller.nextSlot ≤ now) :
    (controller.slot now).1.load < controller.load := by
  simp only [slot, hflushing, if_neg (Nat.not_lt_of_le hslot)]
  split_ifs with hopen
  · simp [load, agenda, hflushing]
    omega
  · rw [load_settle]
    simp [load, agenda, hflushing]

/-- The light of a request that is started is awaited from then on. -/
theorem awaited_slot (controller : Controller κ) (now : ℕ) :
    (controller.slot now).1.agenda.awaited =
      (controller.slot now).2.elim controller.agenda.awaited fun request ↦ some request.light := by
  unfold slot
  split
  next owner update batch hflushing =>
    split_ifs with hearly hopen
    · rfl
    · rfl
    · rw [agenda_settle, agenda_of_flushing hflushing]
      rfl
  next => rfl

end Controller

namespace Clockwork

variable {κ : Type}

/-! ### A clockwork at any moment -/

/-- At every moment there is at most one flush of a caller and one of the flush task, the latter
only while the task is installed, and a reply is on its way exactly while one is awaited. -/
structure Orderly (work : Clockwork κ) : Prop where
  settled : work.controller.Settled
  flight : work.inFlight.isSome = work.controller.agenda.awaited.isSome
  nodup : work.controller.owners.Nodup
  known : ∀ owner ∈ work.controller.owners,
    owner = .caller ∨ owner = .task ∧ work.isInstalled = true

/-- One clockwork goes over into another without a command: flushes may end, and the installed flush
task may ask for one. -/
structure Proceeds (work next : Clockwork κ) : Prop where
  orderly : next.Orderly
  installed : next.isInstalled = work.isInstalled
  running : next.running = work.running
  owners : ∀ owner ∈ next.controller.owners,
    owner ∈ work.controller.owners ∨ owner = .task ∧ work.isInstalled = true

theorem Orderly.proceeds_of_isSuffix {work next : Clockwork κ} (horderly : work.Orderly)
    (hsettled : next.controller.Settled)
    (hflight : next.inFlight.isSome = next.controller.agenda.awaited.isSome)
    (howners : next.controller.owners <:+ work.controller.owners)
    (hinstalled : next.isInstalled = work.isInstalled) (hrunning : next.running = work.running) :
    work.Proceeds next where
  orderly := by
    refine ⟨hsettled, hflight, horderly.nodup.sublist howners.sublist, ?_⟩
    intro owner howner
    rw [hinstalled]
    exact horderly.known owner (howners.subset howner)
  installed := hinstalled
  running := hrunning
  owners := fun _ howner ↦ Or.inl (howners.subset howner)

/-- A flush may be asked for by a caller or by an installed flush task that has none yet. -/
theorem Orderly.of_owners_eq_append {work next : Clockwork κ} (horderly : work.Orderly)
    {owner : FlushOwner} (hfree : owner ∉ work.controller.owners)
    (howner : owner = .caller ∨ owner = .task ∧ work.isInstalled = true)
    (hsettled : next.controller.Settled)
    (hflight : next.inFlight.isSome = next.controller.agenda.awaited.isSome)
    (howners : next.controller.owners = work.controller.owners ++ [owner])
    (hinstalled : next.isInstalled = work.isInstalled) : next.Orderly where
  settled := hsettled
  flight := hflight
  nodup := by
    rw [howners, ← List.concat_eq_append]
    exact horderly.nodup.concat hfree
  known := by
    intro other hother
    rw [howners, List.mem_append, List.mem_singleton] at hother
    rw [hinstalled]
    rcases hother with hmem | rfl
    · exact horderly.known other hmem
    · exact howner

theorem Orderly.proceeds {work : Clockwork κ} (horderly : work.Orderly) : work.Proceeds work :=
  ⟨horderly, rfl, rfl, fun _ howner ↦ Or.inl howner⟩

theorem Proceeds.trans {first second third : Clockwork κ} (hfirst : first.Proceeds second)
    (hsecond : second.Proceeds third) : first.Proceeds third where
  orderly := hsecond.orderly
  installed := hsecond.installed.trans hfirst.installed
  running := hsecond.running.trans hfirst.running
  owners := by
    intro owner howner
    rcases hsecond.owners owner howner with hmem | ⟨htask, hinstalled⟩
    · exact hfirst.owners owner hmem
    · rw [hfirst.installed] at hinstalled
      exact Or.inr ⟨htask, hinstalled⟩

/-- What is due, and why. -/
inductive Due (work : Clockwork κ) (instant : ℕ) : Activity → Prop where
  | drain (hfree : work.controller.flushing = none) (hwaiting : work.controller.waiting ≠ []) :
    Due work instant .drain
  | slot (owner : FlushOwner) (batch : List (Update κ))
    (hflushing : work.controller.flushing = some ⟨owner, batch, none⟩)
    (hslot : work.controller.nextSlot ≤ instant) : Due work instant .slot
  | answer (owner : FlushOwner) (batch : List (Update κ)) (light : String) (arrival : ℕ)
    (answer : Answer) (hflushing : work.controller.flushing = some ⟨owner, batch, some light⟩)
    (hflight : work.inFlight = some (some arrival, answer)) : Due work instant .answer
  | tick (hinstalled : work.isInstalled = true) (hfree : .task ∉ work.controller.owners) :
    Due work instant .tick

theorem due_of_nextFlushActivity {work : Clockwork κ} {instant : ℕ} {activity : Activity}
    (hnext : work.nextFlushActivity = some (instant, activity)) : work.Due instant activity := by
  unfold nextFlushActivity at hnext
  split at hnext
  next owner batch light hflushing =>
    split at hnext
    next arrival answer hflight =>
      obtain ⟨rfl, rfl⟩ := Prod.mk.inj (Option.some.inj hnext)
      exact .answer owner batch light arrival answer hflushing hflight
    next => cases hnext
  next owner batch hflushing =>
    obtain ⟨rfl, rfl⟩ := Prod.mk.inj (Option.some.inj hnext)
    exact .slot owner batch hflushing (le_max_right _ _)
  next hfree =>
    split_ifs at hnext with hempty
    obtain ⟨rfl, rfl⟩ := Prod.mk.inj (Option.some.inj hnext)
    exact .drain hfree (by simpa using hempty)

theorem due_of_nextTickActivity {work : Clockwork κ} {instant : ℕ} {activity : Activity}
    (hnext : work.nextTickActivity = some (instant, activity)) : work.Due instant activity := by
  unfold nextTickActivity at hnext
  split at hnext
  next due htick =>
    split_ifs at hnext with hbusy
    obtain ⟨rfl, rfl⟩ := Prod.mk.inj (Option.some.inj hnext)
    rw [work.controller.isBusy_iff] at hbusy
    exact .tick (by simp [isInstalled, htick]) hbusy
  next => cases hnext

theorem due_of_nextActivity {work : Clockwork κ} {instant : ℕ} {activity : Activity}
    (hnext : work.nextActivity = some (instant, activity)) : work.Due instant activity := by
  unfold nextActivity at hnext
  split at hnext
  next t first tick other hflush htick =>
    split_ifs at hnext with hearlier
    · exact due_of_nextTickActivity (htick.trans hnext)
    · exact due_of_nextFlushActivity (hflush.trans hnext)
  next next hflush htick => exact due_of_nextFlushActivity (hflush.trans hnext)
  next hflush => exact due_of_nextTickActivity hnext

variable [Scalar κ]

theorem controller_perform_slot (work : Clockwork κ) :
    (work.perform .slot).controller = (work.controller.slot work.clock).1 := by
  simp only [perform, Controller.step]
  cases (work.controller.slot work.clock).2 <;> rfl

theorem perform_answer (work : Clockwork κ) {arrival : Option ℕ} {answer : Answer}
    (hflight : work.inFlight = some (arrival, answer)) :
    work.perform .answer =
      { work with inFlight := none, controller := work.controller.answer work.clock answer } := by
  simp [perform, Controller.step, hflight]

/-- What is due goes on in order. -/
theorem Orderly.perform {work : Clockwork κ} (horderly : work.Orderly) {instant : ℕ}
    {activity : Activity} (hdue : work.Due instant activity) :
    work.Proceeds ({ work with clock := instant }.perform activity) := by
  cases hdue with
  | drain hfree hwaiting =>
    refine horderly.proceeds_of_isSuffix horderly.settled.drain ?_
      work.controller.owners_drain_isSuffix rfl rfl
    exact horderly.flight.trans (congrArg Option.isSome work.controller.awaited_drain.symm)
  | slot owner batch hflushing hslot =>
    have howners := work.controller.owners_slot_isSuffix instant
    have hsettled := horderly.settled.slot instant
    have hawaited := work.controller.awaited_slot instant
    cases hrequest : (work.controller.slot instant).2 with
    | none =>
      rw [hrequest] at hawaited
      have hperform : { work with clock := instant }.perform .slot =
          { work with clock := instant, controller := (work.controller.slot instant).1 } := by
        simp [Clockwork.perform, Controller.step, hrequest]
      rw [hperform]
      exact horderly.proceeds_of_isSuffix hsettled
        (horderly.flight.trans (congrArg Option.isSome hawaited.symm)) howners rfl rfl
    | some request =>
      rw [hrequest] at hawaited
      have hperform : { work with clock := instant }.perform .slot =
          { work with
            clock := instant
            controller := (work.controller.slot instant).1 }.dispatch request := by
        simp [Clockwork.perform, Controller.step, hrequest]
      rw [hperform]
      exact horderly.proceeds_of_isSuffix hsettled
        (congrArg Option.isSome hawaited.symm) howners rfl rfl
  | answer owner batch light arrival answer hflushing hflight =>
    rw [perform_answer { work with clock := instant } hflight]
    exact horderly.proceeds_of_isSuffix (horderly.settled.answer instant answer)
      (congrArg Option.isSome (work.controller.awaited_answer instant answer).symm)
      (work.controller.owners_answer_isSuffix instant answer) rfl rfl
  | tick hinstalled hfree =>
    have howners : ({ work with clock := instant }.perform .tick).controller.owners =
        work.controller.owners ++ [FlushOwner.task] := work.controller.owners_ask instant .task
    refine ⟨?_, hinstalled.symm, rfl, ?_⟩
    · exact horderly.of_owners_eq_append hfree (Or.inr ⟨rfl, hinstalled⟩) horderly.settled
        horderly.flight howners hinstalled.symm
    · intro owner howner
      rw [howners, List.mem_append, List.mem_singleton] at howner
      exact howner.imp_right fun htask ↦ ⟨htask, hinstalled⟩

theorem Orderly.advance {work : Clockwork κ} (horderly : work.Orderly) (limit : Option ℕ)
    (done : Clockwork κ → Bool) (fuel : ℕ) : work.Proceeds (work.advance limit done fuel) := by
  induction fuel generalizing work with
  | zero => exact horderly.proceeds
  | succ fuel ih =>
    unfold Clockwork.advance
    split_ifs with hdone
    · exact horderly.proceeds
    · split
      next instant activity hnext =>
        split_ifs with hlimit
        · have hperform := horderly.perform (due_of_nextActivity hnext)
          exact hperform.trans (ih hperform.orderly)
        · exact horderly.proceeds
      next => exact horderly.proceeds

/-! ### A flush of a caller comes to its end -/

/-- What lies ahead while a caller waits for its flush. The flush task can ask once more, unless it
stands behind the caller already. -/
def effort (work : Clockwork κ) : ℕ :=
  work.controller.load + if work.controller.owners.getLast? = some .task then 0 else 2

omit [Scalar κ] in
theorem effort_lt_of_isSuffix {work next : Clockwork κ}
    (hload : next.controller.load < work.controller.load)
    (howners : next.controller.owners <:+ work.controller.owners)
    (hcaller : .caller ∈ next.controller.owners) : next.effort < work.effort := by
  have hlast : work.controller.owners.getLast? = next.controller.owners.getLast? := by
    obtain ⟨gone, hgone⟩ := howners
    rw [← hgone, List.getLast?_append]
    cases hnext : next.controller.owners.getLast? with
    | none => simp [List.getLast?_eq_none_iff.mp hnext] at hcaller
    | some last => rfl
  unfold effort
  rw [hlast]
  exact Nat.add_lt_add_right hload _

/-- Whatever a flush does takes from the load. -/
theorem Orderly.load_perform_lt {work : Clockwork κ} (horderly : work.Orderly) {instant : ℕ}
    {activity : Activity} (hdue : work.Due instant activity) (htick : activity ≠ .tick) :
    ({ work with clock := instant }.perform activity).controller.load < work.controller.load ∧
      ({ work with clock := instant }.perform activity).controller.owners <:+
        work.controller.owners := by
  cases hdue with
  | drain hfree hwaiting =>
    exact ⟨Controller.load_drain_lt hfree hwaiting, work.controller.owners_drain_isSuffix⟩
  | slot owner batch hflushing hslot =>
    obtain ⟨update, rest, rfl⟩ : ∃ update rest, batch = update :: rest := by
      refine List.exists_cons_of_ne_nil fun hempty ↦ horderly.settled owner ?_
      rw [hflushing, hempty]
    rw [controller_perform_slot]
    exact ⟨Controller.load_slot_lt hflushing hslot, work.controller.owners_slot_isSuffix instant⟩
  | answer owner batch light arrival answer hflushing hflight =>
    rw [perform_answer { work with clock := instant } hflight]
    exact ⟨Controller.load_answer_lt hflushing instant answer,
      work.controller.owners_answer_isSuffix instant answer⟩
  | tick hinstalled hfree => exact absurd rfl htick

/-- Everything that goes on while a caller waits takes from what lies ahead. -/
theorem Orderly.effort_perform_lt {work : Clockwork κ} (horderly : work.Orderly) {instant : ℕ}
    {activity : Activity} (hdue : work.Due instant activity)
    (hcaller : .caller ∈ ({ work with clock := instant }.perform activity).controller.owners) :
    ({ work with clock := instant }.perform activity).effort < work.effort := by
  by_cases htick : activity = .tick
  · subst htick
    have hfree : .task ∉ work.controller.owners := by
      cases hdue with
      | tick hinstalled hfree => exact hfree
    have howners : ({ work with clock := instant }.perform .tick).controller.owners =
        work.controller.owners ++ [FlushOwner.task] := work.controller.owners_ask instant .task
    have hload : ({ work with clock := instant }.perform .tick).controller.load =
        work.controller.load + 1 := by
      show 2 * work.controller.pending.length + 2 * work.controller.agenda.batch.length +
        work.controller.agenda.awaited.toList.length +
          (work.controller.waiting ++ [FlushOwner.task]).length = _
      rw [List.length_append, ← Nat.add_assoc]
      rfl
    have hlast : work.controller.owners.getLast? ≠ some .task :=
      fun htask ↦ hfree (List.mem_of_getLast? htask)
    unfold effort
    rw [howners, hload, List.getLast?_concat, if_pos rfl, if_neg hlast]
    exact Nat.lt_succ_self _
  · obtain ⟨hload, howners⟩ := horderly.load_perform_lt hdue htick
    exact effort_lt_of_isSuffix hload howners hcaller

theorem advance_of_done {limit : Option ℕ} {done : Clockwork κ → Bool} {work : Clockwork κ}
    (hdone : done work = true) (fuel : ℕ) : work.advance limit done fuel = work := by
  cases fuel with
  | zero => rfl
  | succ fuel => rw [advance, if_pos hdone]

/-- With more fuel than what lies ahead, from which everything that goes on takes, what is waited
for happens or nothing is due before the limit. -/
theorem Orderly.advance_ends (limit : Option ℕ) (done : Clockwork κ → Bool)
    (ahead : Clockwork κ → ℕ)
    (hless : ∀ {work : Clockwork κ} {instant : ℕ} {activity : Activity}, work.Orderly →
      work.Due instant activity → done work = false →
      done ({ work with clock := instant }.perform activity) = false →
        ahead ({ work with clock := instant }.perform activity) < ahead work)
    {work : Clockwork κ} (horderly : work.Orderly) {fuel : ℕ} (hfuel : ahead work < fuel) :
    done (work.advance limit done fuel) = true ∨
      ∀ instant activity, (work.advance limit done fuel).nextActivity = some (instant, activity) →
        limit.all (instant < ·) = false := by
  induction fuel generalizing work with
  | zero => exact absurd hfuel (Nat.not_lt_zero _)
  | succ fuel ih =>
    unfold Clockwork.advance
    split_ifs with hdone
    · exact Or.inl hdone
    · split
      next instant activity hnext =>
        split_ifs with hlimit
        · have hdue := due_of_nextActivity hnext
          cases hended : done ({ work with clock := instant }.perform activity) with
          | true =>
            rw [advance_of_done hended]
            exact Or.inl hended
          | false =>
            refine ih (horderly.perform hdue).orderly ?_
            exact (hless horderly hdue (eq_false_of_ne_true hdone) hended).trans_le
              (Nat.le_of_lt_succ hfuel)
        · refine Or.inr fun other next hother ↦ ?_
          obtain ⟨rfl, rfl⟩ := Prod.mk.inj (Option.some.inj (hnext.symm.trans hother))
          exact eq_false_of_ne_true hlimit
      next hnext => exact Or.inr fun instant activity hsome ↦ nomatch hnext.symm.trans hsome

/-- With enough fuel, the caller's flush ends or nothing goes on any more. -/
theorem Orderly.advance_caller {work : Clockwork κ} (horderly : work.Orderly) {fuel : ℕ}
    (heffort : work.effort < fuel) :
    let next := work.advance none (fun w ↦ !w.controller.isBusy .caller) fuel
    .caller ∉ next.controller.owners ∨ next.nextActivity = none := by
  intro next
  have hends := horderly.advance_ends none (fun w ↦ !w.controller.isBusy .caller) effort ?_ heffort
  · rw [Bool.not_eq_true', Controller.isBusy_eq_false_iff] at hends
    refine hends.imp_right fun hnone ↦ ?_
    cases hnext : next.nextActivity with
    | none => rfl
    | some due => exact absurd (hnone due.1 due.2 hnext) (by simp)
  · intro work instant activity horderly hdue _ hwaits
    rw [Bool.not_eq_false', Controller.isBusy_iff] at hwaits
    exact horderly.effort_perform_lt hdue hwaits

omit [Scalar κ] in
/-- When nothing goes on although a flush is asked for, it waits for an answer that never comes. -/
theorem Orderly.hangs {work : Clockwork κ} (horderly : work.Orderly) {owner : FlushOwner}
    (hbusy : owner ∈ work.controller.owners) (hnext : work.nextActivity = none) :
    ∃ light answer, work.controller.agenda.awaited = some light ∧
      work.inFlight = some (none, answer) := by
  have hflush : work.nextFlushActivity = none := by
    unfold nextActivity at hnext
    split at hnext
    next => split_ifs at hnext
    next => cases hnext
    next hnone => exact hnone
  unfold nextFlushActivity at hflush
  split at hflush
  next owner batch light hflushing =>
    have hawaited : work.controller.agenda.awaited = some light := by
      rw [Controller.agenda_of_flushing hflushing]
    have hflight := horderly.flight
    rw [hawaited] at hflight
    obtain ⟨⟨arrival, answer⟩, hreply⟩ := Option.isSome_iff_exists.mp hflight
    rw [hreply] at hflush
    cases arrival with
    | none => exact ⟨light, answer, hawaited, hreply⟩
    | some arrival => cases hflush
  next => cases hflush
  next hfree =>
    split_ifs at hflush with hempty
    have hnone : work.controller.owners = [] :=
      work.controller.owners_eq_nil_iff.mpr ⟨hfree, List.isEmpty_iff.mp hempty⟩
    rw [hnone] at hbusy
    exact absurd hbusy List.not_mem_nil

theorem Orderly.ask {work : Clockwork κ} (horderly : work.Orderly)
    (hfree : .caller ∉ work.controller.owners) :
    { work with controller := (work.controller.step work.clock (.ask .caller)).1 }.Orderly :=
  horderly.of_owners_eq_append hfree (Or.inl rfl) horderly.settled horderly.flight
    (work.controller.owners_ask work.clock .caller) rfl

/-- A flush of a caller leaves everything in order, and the flush task as it is. -/
theorem Orderly.flush {work : Clockwork κ} (horderly : work.Orderly)
    (hfree : .caller ∉ work.controller.owners) :
    work.flush.Orderly ∧ work.flush.isInstalled = work.isInstalled ∧
      work.flush.running = work.running := by
  have hproceeds := (horderly.ask hfree).advance none (fun w ↦ !w.controller.isBusy .caller)
    (flushWork { work with controller := (work.controller.step work.clock (.ask .caller)).1 })
  exact ⟨hproceeds.orderly, hproceeds.installed, hproceeds.running⟩

omit [Scalar κ] in
theorem effort_lt_flushWork (work : Clockwork κ) : work.effort < work.flushWork := by
  have hbatch : (work.controller.flushing.map fun flush ↦ flush.batch.length).getD 0 =
      work.controller.agenda.batch.length := by
    unfold Controller.agenda
    cases work.controller.flushing <;> rfl
  have hone : work.controller.agenda.awaited.toList.length ≤ 1 := by
    cases work.controller.agenda.awaited <;> simp
  have htwo : (if work.controller.owners.getLast? = some .task then 0 else 2) ≤ 2 := by
    split_ifs <;> omega
  unfold effort flushWork Controller.load
  simp only [hbatch]
  omega

/-- While the flush task flushes it takes no tick, so with the fuel at hand its flush ends or
nothing is due before the limit. -/
theorem Orderly.awaitTask_ends {work : Clockwork κ} (horderly : work.Orderly) (limit : ℕ) :
    .task ∉ (work.awaitTask limit).controller.owners ∨
      ∀ instant activity, (work.awaitTask limit).nextActivity = some (instant, activity) →
        limit ≤ instant := by
  have hload : work.controller.load < work.flushWork :=
    (Nat.le_add_right _ _).trans_lt (effort_lt_flushWork work)
  have hends := horderly.advance_ends (some limit) (fun w ↦ !w.controller.isBusy .task)
    (fun w ↦ w.controller.load) ?_ hload
  · rw [Bool.not_eq_true', Controller.isBusy_eq_false_iff] at hends
    refine hends.imp_right fun hlate instant activity hnext ↦ ?_
    simpa using hlate instant activity hnext
  · intro work instant activity horderly hdue hbusy _
    rw [Bool.not_eq_false', Controller.isBusy_iff] at hbusy
    refine (horderly.load_perform_lt hdue ?_).1
    rintro rfl
    cases hdue with
    | tick hinstalled hfree => exact hfree hbusy

/-- A flush of a caller returns, unless it waits for an answer that never comes. -/
theorem Orderly.flush_returns_or_hangs {work : Clockwork κ} (horderly : work.Orderly)
    (hfree : .caller ∉ work.controller.owners) :
    work.flush.controller.isBusy .caller = false ∨
      ∃ light answer, work.flush.controller.agenda.awaited = some light ∧
        work.flush.inFlight = some (none, answer) := by
  rw [Controller.isBusy_eq_false_iff]
  by_cases hcaller : .caller ∈ work.flush.controller.owners
  · rcases (horderly.ask hfree).advance_caller (effort_lt_flushWork _) with hended | hnext
    · exact absurd hcaller hended
    · exact Or.inr ((horderly.flush hfree).1.hangs hcaller hnext)
  · exact Or.inl hcaller

end Clockwork

end LightShow
