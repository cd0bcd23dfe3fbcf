import LightShow.Proofs.Bridge.CommandRun

/-!
# Closed lights stay closed

A rate-limited answer closes its light until an instant. Whatever happens in between, answers for
other lights, later flushes, new updates of the light, flushes that are cut off, no request for the
light is started before that instant (`ShutUntil.expiry_le_now_of_mem_history`). The entry of a
light is touched by answers for that light only, an answer needs a request that is on its way, and a
request for a closed light is not started; so the entry stands until the light is open again.

What the table holds of a light is a fold over the answers received for that light
(`get?_backoff_run`), and with it whether an update of the light is sent or dropped when its slot
opens (`sent_iff_isOpen`).
-/

set_option autoImplicit false

namespace LightShow

namespace Backoff

/-- What is kept for a light after one more answer. -/
def afterAnswer (kept : Option Backoff) (timed : ℕ × Answer) : Option Backoff :=
  match timed.2 with
  | .failed => kept
  | .response response =>
    if response.isSuccess then none
    else if response.isRateLimited then
      let chosen := choose (kept.bind (·.lastStep)) response.retryAfter
      some ⟨timed.1 + millis chosen.1, chosen.2⟩
    else kept

/-- Whether a light with these answers so far is open at an instant. -/
def IsOpen (answers : List (ℕ × Answer)) (now : ℕ) : Prop :=
  ∀ backoff ∈ answers.foldl afterAnswer none, backoff.expiry ≤ now

end Backoff

namespace BackoffTable

theorem allows_iff (table : BackoffTable) (light : String) (now : ℕ) :
    table.allows light now = true ↔ ∀ backoff ∈ table.get? light, backoff.expiry ≤ now := by
  unfold allows
  cases table.get? light <;> simp

theorem allows_eq_false_iff (table : BackoffTable) (light : String) (now : ℕ) :
    table.allows light now = false ↔ ∃ backoff ∈ table.get? light, now < backoff.expiry := by
  unfold allows
  cases table.get? light <;> simp

theorem get?_record_self (table : BackoffTable) (light : String) (answer : Answer) (now : ℕ) :
    (table.record light answer now).get? light =
      Backoff.afterAnswer (table.get? light) (now, answer) := by
  cases answer with
  | failed => rfl
  | response response =>
    simp only [record, Backoff.afterAnswer, clear, limit]
    split_ifs
    · exact LightTable.get?_erase_self table light
    · exact LightTable.get?_insert_self table light _
    · rfl

theorem get?_record_of_ne (table : BackoffTable) {light other : String} (hother : other ≠ light)
    (answer : Answer) (now : ℕ) :
    (table.record light answer now).get? other = table.get? other := by
  cases answer with
  | failed => rfl
  | response response =>
    simp only [record, clear, limit]
    split_ifs
    · exact LightTable.get?_erase_of_ne table hother
    · exact LightTable.get?_insert_of_ne table _ hother
    · rfl

/-- A rate-limited answer closes its light for the chosen duration. -/
theorem get?_record_of_isRateLimited (table : BackoffTable) (light : String) {response : Response}
    (hlimited : response.isRateLimited = true) (now : ℕ) :
    ∃ backoff, (table.record light (.response response) now).get? light = some backoff ∧
      backoff.expiry = now + millis (table.duration light response.retryAfter) := by
  have hfailure : response.isSuccess = false := by
    have hstatus : response.status = 429 := by simpa [Response.isRateLimited] using hlimited
    simp [Response.isSuccess, hstatus]
  rw [get?_record_self]
  simp only [Backoff.afterAnswer, hfailure, hlimited, if_true, Bool.false_eq_true, if_false]
  exact ⟨_, rfl, rfl⟩

end BackoffTable

namespace Controller

variable {κ : Type} [Scalar κ]

/-- An event changes what the table holds of a light only by an answer for that light. -/
theorem get?_backoff_step (controller : Controller κ) (light : String) (now : ℕ)
    (event : ControllerEvent κ) :
    (controller.step now event).1.backoff.get? light =
      (((controller.deed? now event).map (Moment.mk now controller)).toList.filterMap
        (Moment.answerOf? light)).foldl Backoff.afterAnswer (controller.backoff.get? light) := by
  generalize hdeed : controller.deed? now event = deed
  cases outcome hdeed with
  | idle pending waiting flushing hflushing hstep => rw [hstep]; rfl
  | turn owner waiting hfree hstep => rw [hstep, backoff_settle]; rfl
  | sent owner update rest hflushing hslot hopen hstep => rw [hstep]; rfl
  | dropped owner update rest hflushing hslot hclosed hstep => rw [hstep, backoff_settle]; rfl
  | answered owner answered batch answer hflushing hstep =>
    rw [hstep, backoff_settle]
    by_cases hlight : answered = light
    · simp [Moment.answerOf?, hlight, BackoffTable.get?_record_self]
    · simp [Moment.answerOf?, hlight, BackoffTable.get?_record_of_ne _ (Ne.symm hlight)]

/-- What the table holds of a light is a fold over the answers received for it. -/
theorem get?_backoff_run (controller : Controller κ) (light : String)
    (events : List (ℕ × ControllerEvent κ)) :
    (controller.run events).1.backoff.get? light =
      ((controller.history events).filterMap (Moment.answerOf? light)).foldl Backoff.afterAnswer
        (controller.backoff.get? light) := by
  induction events generalizing controller with
  | nil => rfl
  | cons timed rest ih =>
    obtain ⟨now, event⟩ := timed
    rw [run_cons, history_cons, List.filterMap_append, List.foldl_append, ← get?_backoff_step]
    exact ih (controller.step now event).1

/-- The table keeps a light closed until an instant, and no answer for it is awaited that could
change that. -/
structure ShutUntil (controller : Controller κ) (light : String) (expiry : ℕ) : Prop where
  closed : ∃ backoff, controller.backoff.get? light = some backoff ∧ backoff.expiry = expiry
  unawaited : controller.agenda.awaited ≠ some light

/-- A request for a light that is shut is not started before it opens again. -/
theorem ShutUntil.expiry_le_now {controller : Controller κ} {light : String} {expiry : ℕ}
    (hshut : controller.ShutUntil light expiry) {now : ℕ} {event : ControllerEvent κ}
    {update : Update κ} (hsent : controller.deed? now event = some (.sent update))
    (hlight : update.light = light) : expiry ≤ now := by
  obtain ⟨backoff, hbackoff, rfl⟩ := hshut.closed
  cases outcome hsent with
  | sent owner update rest hflushing hslot hopen hstep =>
    rw [BackoffTable.allows_iff, hlight, hbackoff] at hopen
    exact hopen backoff rfl

/-- A light that is shut stays so until a request for it is started. -/
theorem ShutUntil.step {controller : Controller κ} {light : String} {expiry : ℕ}
    (hshut : controller.ShutUntil light expiry) (now : ℕ) (event : ControllerEvent κ)
    (hunsent : ∀ update, controller.deed? now event = some (.sent update) → update.light ≠ light) :
    (controller.step now event).1.ShutUntil light expiry := by
  generalize hdeed : controller.deed? now event = deed at hunsent
  cases outcome hdeed with
  | idle pending waiting flushing hflushing hstep =>
    rw [hstep]
    refine ⟨hshut.closed, ?_⟩
    rcases hflushing with rfl | ⟨rfl, -⟩
    · exact hshut.unawaited
    · simp [agenda_of_free]
  | turn owner waiting hfree hstep =>
    rw [hstep]
    refine ⟨by simpa using hshut.closed, ?_⟩
    simp [agenda_of_flushing]
  | sent owner first rest hflushing hslot hopen hstep =>
    rw [hstep]
    refine ⟨hshut.closed, ?_⟩
    rw [agenda_of_flushing rfl]
    exact fun hawaited ↦ hunsent first rfl (Option.some.inj hawaited)
  | dropped owner first rest hflushing hslot hclosed hstep =>
    rw [hstep]
    refine ⟨by simpa using hshut.closed, ?_⟩
    simp [agenda_of_flushing]
  | answered owner answered batch answer hflushing hstep =>
    have hother : light ≠ answered := by
      rintro rfl
      exact hshut.unawaited (by rw [agenda_of_flushing hflushing])
    rw [hstep]
    refine ⟨?_, ?_⟩
    · rw [backoff_settle, BackoffTable.get?_record_of_ne _ hother]
      exact hshut.closed
    · simp [agenda_of_flushing]

/-- In a run from a controller at which a light is shut, no request for the light is started before
it opens again. After a request for it the entry may go, but then the instant has passed. -/
theorem ShutUntil.expiry_le_now_of_mem_history {controller : Controller κ} {light : String}
    {expiry : ℕ} (hshut : controller.ShutUntil light expiry)
    {events : List (ℕ × ControllerEvent κ)} (hclock : Chronological events) {moment : Moment κ}
    (hmoment : moment ∈ controller.history events) {update : Update κ}
    (hsent : moment.deed = .sent update) (hlight : update.light = light) :
    expiry ≤ moment.now := by
  induction events generalizing controller with
  | nil => simp [history] at hmoment
  | cons timed rest ih =>
    obtain ⟨now, event⟩ := timed
    obtain ⟨hnow, hrest⟩ := List.pairwise_cons.mp hclock
    have hlater (hmem : moment ∈ (controller.step now event).1.history rest) :
        expiry ≤ moment.now := by
      by_cases hstarted : ∃ first, controller.deed? now event = some (.sent first) ∧
          first.light = light
      · obtain ⟨first, hdeed, hfirst⟩ := hstarted
        exact Nat.le_trans (hshut.expiry_le_now hdeed hfirst) (le_now_of_mem_history hnow hmem)
      · refine ih (hshut.step now event fun first hdeed hfirst ↦ ?_) hrest hmem
        exact hstarted ⟨first, hdeed, hfirst⟩
    cases hdeed : controller.deed? now event with
    | none =>
      rw [history_cons_of_idle hdeed] at hmoment
      exact hlater hmoment
    | some deed =>
      rw [history_cons_of_deed hdeed] at hmoment
      rcases List.mem_cons.mp hmoment with rfl | hmem
      · obtain rfl : deed = .sent update := hsent
        exact hshut.expiry_le_now hdeed hlight
      · exact hlater hmem

/-- A rate-limited answer shuts its light for the chosen duration. -/
theorem shutUntil_of_answered {controller : Controller κ} {now : ℕ} {event : ControllerEvent κ}
    {light : String} {response : Response}
    (hdeed : controller.deed? now event = some (.answered light (.response response)))
    (hlimited : response.isRateLimited = true) :
    (controller.step now event).1.ShutUntil light
      (now + millis (controller.backoff.duration light response.retryAfter)) := by
  cases outcome hdeed with
  | answered owner light batch answer hflushing hstep =>
    rw [hstep]
    refine ⟨?_, ?_⟩
    · rw [backoff_settle]
      exact BackoffTable.get?_record_of_isRateLimited controller.backoff light hlimited now
    · simp [agenda_of_flushing]

/-- Whether an update is sent when its slot opens is decided by the answers received for its light
before. -/
theorem sent_iff_isOpen {interval : ℕ} {events : List (ℕ × ControllerEvent κ)}
    {earlier later : List (Moment κ)} {moment : Moment κ}
    (hhistory : ({ interval } : Controller κ).history events = earlier ++ moment :: later)
    {update : Update κ} (hupdate : moment.update? = some update) :
    moment.deed = .sent update ↔
      Backoff.IsOpen (earlier.filterMap (Moment.answerOf? update.light)) moment.now := by
  obtain ⟨before, event, after, -, rfl, hcontroller, hdeed, -⟩ := history_split hhistory
  have hkept : moment.controller.backoff.get? update.light =
      ((({ interval } : Controller κ).history before).filterMap
        (Moment.answerOf? update.light)).foldl Backoff.afterAnswer none := by
    rw [hcontroller]
    exact get?_backoff_run { interval } update.light before
  obtain ⟨-, hverdict⟩ := slot_of_update? moment hdeed hupdate
  rw [Backoff.IsOpen, ← hkept, ← BackoffTable.allows_iff, hverdict]
  split_ifs with hopen <;> simp [hopen]

/-- On a clock that never goes back, no request for a light is started before the instant until
which a rate-limited answer has closed it, and whether an update is sent or dropped when its slot
opens is decided by the answers that were received for its light. Whatever a clockwork is told to
do, starts and stops of its flush task included, is such a run. -/
theorem backoff_respected (interval : ℕ) :
    let start : Controller κ := { interval }
    (∀ events, Chronological events →
      (start.run events).2 = (start.history events).filterMap Moment.request? ∧
      ∀ earlier moment later, start.history events = earlier ++ moment :: later →
        (∀ light response, moment.deed = .answered light (.response response) →
          response.isRateLimited = true →
          ∀ request ∈ later.filterMap Moment.request?, request.light = light →
            moment.now + millis (moment.controller.backoff.duration light response.retryAfter) ≤
              request.start) ∧
        ∀ update, moment.update? = some update →
          (moment.deed = .sent update ↔
            Backoff.IsOpen (earlier.filterMap (Moment.answerOf? update.light)) moment.now)) ∧
    ∀ (window : ℕ) (script : LightTable (List Reply)) (commands : List (Command κ)),
      let work := commands.foldl Clockwork.execute { window, controller := start, script }
      ∃ events, Chronological events ∧ work.controller = (start.run events).1 ∧
        work.requests.reverse = (start.run events).2 := by
  intro start
  refine ⟨fun events hclock ↦ ⟨requests_run start events, ?_⟩, ?_⟩
  · intro earlier moment later hhistory
    refine ⟨?_, fun update hupdate ↦ sent_iff_isOpen hhistory hupdate⟩
    intro light response hanswered hlimited request hrequest hlight
    obtain ⟨before, event, after, rfl, -, -, hdeed, rfl⟩ := history_split hhistory
    obtain ⟨next, hnext, hstarted⟩ := List.mem_filterMap.mp hrequest
    obtain ⟨update, hsent, rfl⟩ := Moment.request?_eq_some_iff.mp hstarted
    have hafter : Chronological after :=
      (List.pairwise_cons.mp (List.pairwise_append.mp hclock).2.1).2
    rw [hanswered] at hdeed
    have hshut := shutUntil_of_answered hdeed hlimited
    exact hshut.expiry_le_now_of_mem_history hafter hnext hsent hlight
  · intro window script commands work
    obtain ⟨events, hfollows⟩ := Clockwork.exists_follows_foldl_execute
      { window, controller := start, script } commands
    refine ⟨events, hfollows.chronological, hfollows.controller, ?_⟩
    rw [hfollows.requests, List.append_nil, List.reverse_reverse]

/-- Light `a` is rate-limited a nanosecond after five milliseconds, for a second. Its next update
comes too early and is dropped, the one after that has its slot at the instant at which the light
opens again. -/
def limitedRun : List (ℕ × ControllerEvent Rat) :=
  [(0, .queue [{ light := "a" }, { light := "b" }]), (0, .ask .caller), (0, .drain), (0, .slot),
    (millis 5 + 1, .answer (.response { status := 429 })), (millis 100, .slot),
    (millis 110, .answer (.response { status := 200 })),
    (millis 120, .queue [{ light := "a" }]), (millis 120, .ask .task), (millis 120, .drain),
    (millis 200, .slot), (millis 1005, .queue [{ light := "a" }]), (millis 1005, .ask .task),
    (millis 1005, .drain), (millis 1005 + 1, .slot)]

theorem chronological_limitedRun : Chronological limitedRun := by
  unfold Chronological
  decide

theorem backoff_respected_limitedRun :
    let history := ({ interval := 100 } : Controller Rat).history limitedRun
    (∃ earlier moment later response, history = earlier ++ moment :: later ∧
      moment.deed = .answered "a" (.response response) ∧ response.isRateLimited = true ∧
      ∃ request ∈ later.filterMap Moment.request?, request.light = "a" ∧
        moment.now + millis (moment.controller.backoff.duration "a" response.retryAfter) ≤
          request.start) ∧
    ∃ earlier moment later, history = earlier ++ moment :: later ∧
      moment.deed = .dropped { light := "a" } ∧
      ¬ Backoff.IsOpen (earlier.filterMap (Moment.answerOf? "a")) moment.now := by
  intro history
  have hrespected := ((backoff_respected 100).1 limitedRun chronological_limitedRun).2
  have hlimited := hrespected (history.take 2) _ (history.drop 3) rfl
  have hdropped := hrespected (history.take 6) _ (history.drop 7) rfl
  refine ⟨⟨history.take 2, _, history.drop 3, { status := 429 }, rfl, rfl, rfl,
    ⟨"a", millis 1005 + 1, {}⟩, by decide, rfl, ?_⟩, history.take 6, _, history.drop 7, rfl, rfl,
    ?_⟩
  · exact hlimited.1 "a" { status := 429 } rfl rfl ⟨"a", millis 1005 + 1, {}⟩ (by decide) rfl
  · rw [← hdropped.2 { light := "a" } rfl]
    simp

end Controller

end LightShow
