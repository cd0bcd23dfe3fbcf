import LightShow.Bridge.Clockwork
import LightShow.Proofs.Bridge.History
import LightShow.Proofs.Bridge.PendingQueue

/-!
# Commands are carried out by runs of the controller

A clockwork, with its flush task, its ticks, its stops and its scripted bridge, touches its
controller by events only. Carrying out commands takes it from one state to another by some events
on a clock that never goes back, among which the updates are those of the commands
(`exists_follows_foldl_execute`). So what holds of every run of a controller on such a clock holds
of everything a clockwork can be told to do.

The answers among these events are those of the script. A request calls forth the next reply for its
light, and an answer is taken in only if it is the reply on its way and has arrived
(`Post.Delivers`).
-/

set_option autoImplicit false

namespace LightShow

/-- The updates that come with a command. -/
def Command.updates {κ : Type} : Command κ → List (Update κ)
  | .update updates => updates
  | _ => []

/-- The side of the bridge: the replies to come, per light, and the one on its way with the instant
it arrives. -/
structure Post where
  script : LightTable (List Reply)
  inFlight : Option (Option ℕ × Answer)

namespace Post

variable {κ : Type} [Scalar κ]

/-- A request calls forth the next reply for its light. The reply on its way is gone when an answer
is taken in, or when the flush that waits for it is cut off. -/
def step (post : Post) (controller : Controller κ) (now : ℕ) (event : ControllerEvent κ) : Post :=
  match (controller.step now event).2, event with
  | some request, _ =>
    let (reply, script) := Clockwork.takeReply post.script request.light
    ⟨script, some (reply.delay.map (now + ·), reply.answer)⟩
  | none, .answer _ => { post with inFlight := none }
  | none, .cutOff owner =>
    { post with
      inFlight := if controller.flushing.any fun flush ↦ flush.owner = owner then none
        else post.inFlight }
  | none, _ => post

def run (post : Post) (controller : Controller κ) : List (ℕ × ControllerEvent κ) → Post
  | [] => post
  | (now, event) :: rest =>
    (post.step controller now event).run (controller.step now event).1 rest

/-- An event takes in no answer but the reply on its way, which has arrived by then. -/
def Permits (post : Post) (now : ℕ) (event : ControllerEvent κ) : Prop :=
  ∀ answer, event = .answer answer →
    ∃ arrival, arrival ≤ now ∧ post.inFlight = some (some arrival, answer)

omit [Scalar κ] in
/-- What is no answer is permitted. -/
theorem permits_of_ne (post : Post) (now : ℕ) {event : ControllerEvent κ}
    (hevent : ∀ answer, event ≠ .answer answer) : post.Permits now event :=
  fun answer heq ↦ absurd heq (hevent answer)

/-- Every answer of a run is the reply on its way, which has arrived by then. -/
def Delivers (post : Post) (controller : Controller κ) : List (ℕ × ControllerEvent κ) → Prop
  | [] => True
  | (now, event) :: rest =>
    post.Permits now event ∧
      (post.step controller now event).Delivers (controller.step now event).1 rest

theorem run_append (post : Post) (controller : Controller κ)
    (before after : List (ℕ × ControllerEvent κ)) :
    post.run controller (before ++ after) =
      (post.run controller before).run (controller.run before).1 after := by
  induction before generalizing post controller with
  | nil => rfl
  | cons timed rest ih => exact ih _ _

theorem delivers_append {post : Post} {controller : Controller κ}
    {before after : List (ℕ × ControllerEvent κ)} :
    post.Delivers controller (before ++ after) ↔
      post.Delivers controller before ∧
        (post.run controller before).Delivers (controller.run before).1 after := by
  induction before generalizing post controller with
  | nil => exact (iff_of_eq (true_and _)).symm
  | cons timed rest ih => exact (and_congr_right' ih).trans and_assoc.symm

end Post

namespace Clockwork

variable {κ : Type}

/-- What a clockwork knows of the bridge. -/
def post (work : Clockwork κ) : Post :=
  ⟨work.script, work.inFlight⟩

theorem clock_le_of_nextActivity {work : Clockwork κ} {instant : ℕ} {activity : Activity}
    (hnext : work.nextActivity = some (instant, activity)) : work.clock ≤ instant := by
  have hflush (t : ℕ) (a : Activity) (h : work.nextFlushActivity = some (t, a)) :
      work.clock ≤ t := by
    unfold nextFlushActivity at h
    grind
  have htick (t : ℕ) (a : Activity) (h : work.nextTickActivity = some (t, a)) :
      work.clock ≤ t := by
    unfold nextTickActivity at h
    grind
  unfold nextActivity at hnext
  grind

/-- An answer is due when the reply on its way has arrived. -/
theorem exists_arrival_of_nextActivity {work : Clockwork κ} {instant : ℕ}
    (hnext : work.nextActivity = some (instant, .answer)) :
    ∃ arrival answer, arrival ≤ instant ∧ work.inFlight = some (some arrival, answer) := by
  have hflush (h : work.nextFlushActivity = some (instant, .answer)) :
      ∃ arrival answer, arrival ≤ instant ∧ work.inFlight = some (some arrival, answer) := by
    unfold nextFlushActivity at h
    grind
  have htick : work.nextTickActivity ≠ some (instant, .answer) := by
    unfold nextTickActivity
    grind
  unfold nextActivity at hnext
  grind

variable [Scalar κ]

/-- One clockwork goes over into another by events of its controller, which happen in order and
between the two clocks, bring these updates and take in what the bridge has delivered. -/
structure Follows (work next : Clockwork κ) (updates : List (Update κ))
    (events : List (ℕ × ControllerEvent κ)) : Prop where
  clock_le : work.clock ≤ next.clock
  chronological : Chronological events
  after : ∀ timed ∈ events, work.clock ≤ timed.1
  before : ∀ timed ∈ events, timed.1 ≤ next.clock
  controller : next.controller = (work.controller.run events).1
  requests : next.requests = (work.controller.run events).2.reverse ++ work.requests
  queued : events.flatMap (·.2.updates) = updates
  post : next.post = work.post.run work.controller events
  delivered : work.post.Delivers work.controller events

/-- Nothing happens but that time passes. -/
theorem follows_nil {work next : Clockwork κ} (hclock : work.clock ≤ next.clock)
    (hcontroller : next.controller = work.controller) (hrequests : next.requests = work.requests)
    (hpost : next.post = work.post) : work.Follows next [] [] :=
  ⟨hclock, List.Pairwise.nil, by simp, by simp, hcontroller, hrequests, rfl, hpost, trivial⟩

/-- One event happens at the present instant of the clockwork that comes out of it. -/
theorem follows_singleton {work next : Clockwork κ} (event : ControllerEvent κ)
    (hclock : work.clock ≤ next.clock)
    (hcontroller : next.controller = (work.controller.step next.clock event).1)
    (hrequests : next.requests =
      (work.controller.step next.clock event).2.toList ++ work.requests)
    (hpost : next.post = work.post.step work.controller next.clock event)
    (hpermits : work.post.Permits next.clock event) :
    work.Follows next event.updates [(next.clock, event)] := by
  refine ⟨hclock, List.pairwise_singleton _ _, by simpa using hclock, by simp, hcontroller, ?_,
    by simp, hpost, hpermits, trivial⟩
  rw [hrequests, Controller.run_cons]
  cases (work.controller.step next.clock event).2 <;> rfl

theorem Follows.trans {first second third : Clockwork κ} {updates more : List (Update κ)}
    {events others : List (ℕ × ControllerEvent κ)} (hfirst : first.Follows second updates events)
    (hsecond : second.Follows third more others) :
    first.Follows third (updates ++ more) (events ++ others) where
  clock_le := hfirst.clock_le.trans hsecond.clock_le
  chronological := by
    refine List.pairwise_append.mpr ⟨hfirst.chronological, hsecond.chronological, ?_⟩
    intro earlier hearlier later hlater
    exact (hfirst.before earlier hearlier).trans (hsecond.after later hlater)
  after := by
    intro timed htimed
    rcases List.mem_append.mp htimed with hmem | hmem
    · exact hfirst.after timed hmem
    · exact hfirst.clock_le.trans (hsecond.after timed hmem)
  before := by
    intro timed htimed
    rcases List.mem_append.mp htimed with hmem | hmem
    · exact (hfirst.before timed hmem).trans hsecond.clock_le
    · exact hsecond.before timed hmem
  controller := by rw [hsecond.controller, hfirst.controller, Controller.run_append]
  requests := by
    rw [hsecond.requests, hfirst.requests, hfirst.controller, Controller.run_append,
      List.reverse_append, List.append_assoc]
  queued := by rw [List.flatMap_append, hfirst.queued, hsecond.queued]
  post := by rw [hsecond.post, hfirst.post, hfirst.controller, Post.run_append]
  delivered := by
    refine Post.delivers_append.mpr ⟨hfirst.delivered, ?_⟩
    rw [← hfirst.post, ← hfirst.controller]
    exact hsecond.delivered

/-! ### What goes on by itself -/

@[simp]
theorem clock_perform (work : Clockwork κ) (activity : Activity) :
    (work.perform activity).clock = work.clock := by
  cases activity with
  | drain => rfl
  | slot =>
    simp only [perform]
    cases (work.controller.step work.clock .slot).2 <;> rfl
  | answer =>
    simp only [perform]
    cases work.inFlight <;> rfl
  | tick => rfl

/-- An activity is an event of the controller. An answer is taken in when it has arrived. -/
theorem exists_follows_perform (work : Clockwork κ) {activity : Activity}
    (harrived : activity = .answer →
      ∃ arrival answer, arrival ≤ work.clock ∧ work.inFlight = some (some arrival, answer)) :
    ∃ events, work.Follows (work.perform activity) [] events := by
  cases activity with
  | drain =>
    refine ⟨_, follows_singleton .drain le_rfl rfl rfl rfl ?_⟩
    exact work.post.permits_of_ne _ (by simp)
  | slot =>
    cases hrequest : (work.controller.step work.clock .slot).2 with
    | none =>
      refine ⟨_, follows_singleton .slot (clock_perform work .slot).ge ?_ ?_ ?_
        (work.post.permits_of_ne _ (by simp))⟩
      · simp [perform, hrequest]
      · simp [perform, hrequest]
      · simp [perform, hrequest, Post.step, post]
    | some request =>
      refine ⟨_, follows_singleton .slot (clock_perform work .slot).ge ?_ ?_ ?_
        (work.post.permits_of_ne _ (by simp))⟩
      · simp [perform, hrequest, dispatch]
      · simp [perform, hrequest, dispatch]
      · simp [perform, hrequest, dispatch, Post.step, post]
  | answer =>
    obtain ⟨arrival, answer, harrival, hflight⟩ := harrived rfl
    refine ⟨_, follows_singleton (.answer answer) (clock_perform work .answer).ge ?_ ?_ ?_ ?_⟩
    · simp [perform, hflight]
    · simp [perform, hflight, Controller.step]
    · simp [perform, hflight, Post.step, post, Controller.step]
    · rintro other ⟨⟩
      rw [clock_perform]
      exact ⟨arrival, harrival, hflight⟩
  | tick =>
    refine ⟨_, follows_singleton (.ask .task) le_rfl rfl rfl rfl ?_⟩
    exact work.post.permits_of_ne _ (by simp)

theorem exists_follows_advance (limit : Option ℕ) (done : Clockwork κ → Bool) (fuel : ℕ)
    (work : Clockwork κ) : ∃ events, work.Follows (work.advance limit done fuel) [] events := by
  induction fuel generalizing work with
  | zero => exact ⟨[], follows_nil le_rfl rfl rfl rfl⟩
  | succ fuel ih =>
    unfold advance
    split_ifs with hdone
    · exact ⟨[], follows_nil le_rfl rfl rfl rfl⟩
    · split
      next instant activity hnext =>
        split_ifs with hlimit
        · have hwait : work.Follows { work with clock := instant } [] [] :=
            follows_nil (clock_le_of_nextActivity hnext) rfl rfl rfl
          have harrived : activity = .answer → ∃ arrival answer, arrival ≤ instant ∧
              work.inFlight = some (some arrival, answer) := by
            rintro rfl
            exact exists_arrival_of_nextActivity hnext
          obtain ⟨events, hperform⟩ :=
            exists_follows_perform { work with clock := instant } harrived
          obtain ⟨others, hadvance⟩ := ih ({ work with clock := instant }.perform activity)
          exact ⟨_, (hwait.trans hperform).trans hadvance⟩
        · exact ⟨[], follows_nil le_rfl rfl rfl rfl⟩
      next => exact ⟨[], follows_nil le_rfl rfl rfl rfl⟩

/-- With a limit, the clock does not come to it. -/
theorem clock_advance_lt {limit : ℕ} (done : Clockwork κ → Bool) (fuel : ℕ) {work : Clockwork κ}
    (hclock : work.clock < limit) : (work.advance (some limit) done fuel).clock < limit := by
  induction fuel generalizing work with
  | zero => exact hclock
  | succ fuel ih =>
    unfold advance
    split_ifs with hdone
    · exact hclock
    · split
      next instant activity hnext =>
        split_ifs with hlimit
        · refine ih ?_
          rw [clock_perform]
          simpa using hlimit
        · exact hclock
      next => exact hclock

/-! ### Commands -/

theorem exists_follows_flush (work : Clockwork κ) :
    ∃ events, work.Follows work.flush [] events := by
  let asked : Clockwork κ :=
    { work with controller := (work.controller.step work.clock (.ask .caller)).1 }
  have hasked : work.Follows asked [] [(work.clock, .ask .caller)] :=
    follows_singleton (.ask .caller) le_rfl rfl rfl rfl nofun
  obtain ⟨events, hadvance⟩ := exists_follows_advance none
    (fun w ↦ !w.controller.isBusy .caller) asked.flushWork asked
  exact ⟨_, hasked.trans hadvance⟩

theorem exists_follows_sleep (work : Clockwork κ) (instant : ℕ) :
    ∃ events, work.Follows (work.sleep instant) [] events := by
  obtain ⟨events, hadvance⟩ := exists_follows_advance (some instant) (fun _ ↦ false)
    (work.workUntil instant) work
  have hwait : (work.advance (some instant) (fun _ ↦ false) (work.workUntil instant)).Follows
      (work.sleep instant) [] [] := follows_nil (le_max_left _ _) rfl rfl rfl
  exact ⟨_, hadvance.trans hwait⟩

theorem exists_follows_windDown (limit overdue : ℕ) (work : Clockwork κ) :
    ∃ events, work.Follows (work.windDown limit overdue) [] events := by
  induction overdue generalizing work with
  | zero => exact exists_follows_advance _ _ _ work
  | succ overdue ih =>
    obtain ⟨events, hwaited⟩ : ∃ events, work.Follows (work.awaitTask limit) [] events :=
      exists_follows_advance _ _ _ work
    unfold windDown
    dsimp only
    split_ifs with hoverdue
    · obtain ⟨others, htick⟩ :=
        (work.awaitTask limit).exists_follows_perform (nofun : Activity.tick = .answer → _)
      obtain ⟨rest, hlater⟩ := ih ((work.awaitTask limit).perform .tick)
      exact ⟨_, (hwaited.trans htick).trans hlater⟩
    · exact ⟨events, hwaited⟩

theorem clock_windDown_lt {limit : ℕ} (overdue : ℕ) {work : Clockwork κ}
    (hclock : work.clock < limit) : (work.windDown limit overdue).clock < limit := by
  induction overdue generalizing work with
  | zero => exact clock_advance_lt _ _ hclock
  | succ overdue ih =>
    have hwaited : (work.awaitTask limit).clock < limit := clock_advance_lt _ _ hclock
    unfold windDown
    dsimp only
    split_ifs with hoverdue
    · refine ih ?_
      rwa [clock_perform]
    · exact hwaited

theorem lt_add_stopTimeout (clock : ℕ) : clock < clock + stopTimeout :=
  Nat.lt_add_of_pos_right (by decide)

theorem clock_retire_le (work : Clockwork κ) (overdue : ℕ) :
    (work.retire overdue).clock ≤ work.clock + stopTimeout := by
  unfold retire
  dsimp only
  split_ifs
  · exact le_rfl
  · refine (clock_windDown_lt overdue ?_).le
    exact lt_add_stopTimeout work.clock

/-- Until a stop returns, answers are taken in before the limit only. -/
theorem exists_follows_retire (work : Clockwork κ) (overdue : ℕ) :
    ∃ events, work.Follows (work.retire overdue) [] events ∧
      ∀ now answer, (now, ControllerEvent.answer answer) ∈ events →
        now < work.clock + stopTimeout := by
  let limit := work.clock + stopTimeout
  let told : Clockwork κ := { work with running := false }
  have htold : work.Follows told [] [] := follows_nil le_rfl rfl rfl rfl
  obtain ⟨events, hwaited⟩ := told.exists_follows_windDown limit overdue
  have hearly : (told.windDown limit overdue).clock < limit :=
    told.clock_windDown_lt overdue (lt_add_stopTimeout work.clock)
  have hclock : (told.windDown limit overdue).clock ≤ (work.retire overdue).clock := by
    show _ ≤ if (told.windDown limit overdue).controller.isBusy .task then limit
      else (told.windDown limit overdue).clock
    split_ifs
    · exact hearly.le
    · exact le_rfl
  refine ⟨_, (htold.trans hwaited).trans (follows_singleton .discard hclock rfl rfl rfl nofun), ?_⟩
  intro now answer hmem
  have hbefore : (now, ControllerEvent.answer answer) ∈ events := by simpa using hmem
  exact (hwaited.before _ hbefore).trans_lt hearly

theorem clock_straggle (work : Clockwork κ) (late : ℕ) :
    (work.straggle late).clock = work.clock := by
  obtain ⟨events, hfollows⟩ := exists_follows_advance (some (work.clock + 1))
    (fun w ↦ !w.controller.isBusy .task) late work
  exact le_antisymm (Nat.le_of_lt_succ (clock_advance_lt _ _ (Nat.lt_succ_self _)))
    hfollows.clock_le

theorem follows_cutOffTask (work : Clockwork κ) :
    work.Follows work.cutOffTask [] [(work.clock, .cutOff .task)] :=
  follows_singleton (.cutOff .task) le_rfl rfl rfl rfl nofun

/-- A stop takes in answers up to the limit, and before it only where an abort takes effect at
once. -/
theorem exists_follows_stop (work : Clockwork κ) (overdue late : ℕ) :
    ∃ events, work.Follows (work.stop overdue late) [] events ∧
      ∀ now answer, (now, ControllerEvent.answer answer) ∈ events →
        now ≤ work.clock + stopTimeout ∧ (late = 0 → now < work.clock + stopTimeout) := by
  unfold stop
  split_ifs with hinstalled
  · obtain ⟨events, hretired, hearly⟩ := work.exists_follows_retire overdue
    obtain ⟨others, hlate, hnone⟩ : ∃ others,
        (work.retire overdue).Follows ((work.retire overdue).straggle late) [] others ∧
          (late = 0 → others = []) := by
      cases late with
      | zero => exact ⟨[], follows_nil le_rfl rfl rfl rfl, fun _ ↦ rfl⟩
      | succ late =>
        obtain ⟨others, hothers⟩ := exists_follows_advance _ _ (late + 1) (work.retire overdue)
        exact ⟨others, hothers, nofun⟩
    refine ⟨_, (hretired.trans hlate).trans (follows_cutOffTask _), fun now answer hmem ↦ ?_⟩
    have hclock := work.clock_retire_le overdue
    have hsplit : (now, ControllerEvent.answer answer) ∈ events ∨
        (now, ControllerEvent.answer answer) ∈ others := by simpa using hmem
    rcases hsplit with hbefore | hafter
    · have hnow := hearly now answer hbefore
      exact ⟨hnow.le, fun _ ↦ hnow⟩
    · have hnow := hlate.before _ hafter
      rw [clock_straggle] at hnow
      refine ⟨hnow.trans hclock, fun hzero ↦ ?_⟩
      rw [hnone hzero] at hafter
      exact absurd hafter List.not_mem_nil
  · exact ⟨[], follows_nil le_rfl rfl rfl rfl, by simp⟩

theorem exists_follows_execute (work : Clockwork κ) (command : Command κ) :
    ∃ events, work.Follows (work.execute command) command.updates events := by
  cases command with
  | start runtime =>
    refine ⟨[], ?_⟩
    simp only [execute, start]
    split_ifs
    · exact follows_nil le_rfl rfl rfl rfl
    · exact follows_nil le_rfl rfl rfl rfl
    · exact follows_nil le_rfl rfl rfl rfl
  | stop overdue late =>
    obtain ⟨events, hfollows, -⟩ := work.exists_follows_stop overdue late
    exact ⟨events, hfollows⟩
  | flush => exact work.exists_follows_flush
  | update updates => exact ⟨_, follows_singleton (.queue updates) le_rfl rfl rfl rfl nofun⟩
  | sleep instant => exact work.exists_follows_sleep instant

/-- Commands are carried out by a run of the controller on a clock that never goes back. -/
theorem exists_follows_foldl_execute (work : Clockwork κ) (commands : List (Command κ)) :
    ∃ events, work.Follows (commands.foldl execute work) (commands.flatMap Command.updates)
      events := by
  induction commands generalizing work with
  | nil => exact ⟨[], follows_nil le_rfl rfl rfl rfl⟩
  | cons command rest ih =>
    obtain ⟨events, hexecute⟩ := work.exists_follows_execute command
    obtain ⟨others, hrest⟩ := ih (work.execute command)
    exact ⟨_, hexecute.trans hrest⟩

end Clockwork

end LightShow
