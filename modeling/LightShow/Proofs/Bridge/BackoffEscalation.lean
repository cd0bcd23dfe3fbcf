import LightShow.Proofs.Bridge.BackoffSafety
import Mathlib.Algebra.Group.Nat.Defs
import Mathlib.Data.List.DropRight

/-!
# How backoff escalates

The bridge answers requests for many lights, one answer after another, and all of them are taken in
by one table (`BackoffTable.recordAll`; the table of a controller is made of the answers in its
history, `Controller.backoff_run`). What the table keeps of a light is told by that light's own
answers since its last success (`Reception.sinceSuccess`): there is an entry if one of them is a
rate limit, and the step it remembers is the first one doubled as often as rate limits without a
valid header came after the first such, cut off at ten seconds (`Keeps`). Rate limits with a valid
header stand between them without advancing the step or setting it back.
-/

set_option autoImplicit false

namespace LightShow

namespace Answer

def isSuccess : Answer → Bool
  | .response received => received.isSuccess
  | .failed => false

def isRateLimited : Answer → Bool
  | .response received => received.isRateLimited
  | .failed => false

/-- The `Retry-After` header as it came. -/
def header? : Answer → Option String
  | .response received => received.retryAfter
  | .failed => none

/-- The seconds of a valid `Retry-After` header. -/
def seconds? (answer : Answer) : Option ℕ :=
  answer.header?.bind retryAfterSeconds

theorem isSuccess_eq_false {answer : Answer} (hlimited : answer.isRateLimited = true) :
    answer.isSuccess = false := by
  cases answer with
  | failed => rfl
  | response received =>
    have hstatus : received.status = 429 := by
      simpa [isRateLimited, Response.isRateLimited] using hlimited
    simp [isSuccess, Response.isSuccess, hstatus]

end Answer

namespace Backoff

/-- The step remembered after a number of rate limits without a valid header. -/
def stepAfter : ℕ → Option ℕ
  | 0 => none
  | count + 1 => some (min (1000 * 2 ^ count) 10000)

theorem nextStep_stepAfter (count : ℕ) :
    nextStep (stepAfter count) = min (1000 * 2 ^ count) 10000 := by
  cases count with
  | zero => rfl
  | succ count =>
    simp only [stepAfter, nextStep, maxStep, Nat.pow_succ]
    omega

theorem choose_of_seconds {answer : Answer} {seconds : ℕ}
    (hseconds : answer.seconds? = some seconds) (lastStep : Option ℕ) :
    choose lastStep answer.header? = (min (1000 * seconds) (2 ^ 64 - 1), lastStep) := by
  rw [Answer.seconds?] at hseconds
  rw [choose, hseconds, Nat.mul_comm]
  rfl

theorem choose_of_no_seconds {answer : Answer} (hseconds : answer.seconds? = none)
    (lastStep : Option ℕ) :
    choose lastStep answer.header? = (nextStep lastStep, some (nextStep lastStep)) := by
  rw [Answer.seconds?] at hseconds
  rw [choose, hseconds]

theorem afterAnswer_of_isSuccess (kept : Option Backoff) (now : ℕ) {answer : Answer}
    (hsuccess : answer.isSuccess = true) : afterAnswer kept (now, answer) = none := by
  cases answer with
  | failed => cases hsuccess
  | response received => exact if_pos hsuccess

theorem afterAnswer_of_isRateLimited (kept : Option Backoff) (now : ℕ) {answer : Answer}
    (hlimited : answer.isRateLimited = true) :
    afterAnswer kept (now, answer) =
      some ⟨now + millis (choose (kept.bind (·.lastStep)) answer.header?).1,
        (choose (kept.bind (·.lastStep)) answer.header?).2⟩ := by
  have hfailure := Answer.isSuccess_eq_false hlimited
  cases answer with
  | failed => cases hlimited
  | response received => exact (if_neg (ne_true_of_eq_false hfailure)).trans (if_pos hlimited)

theorem afterAnswer_of_neutral (kept : Option Backoff) (now : ℕ) {answer : Answer}
    (hfailure : answer.isSuccess = false) (hunlimited : answer.isRateLimited = false) :
    afterAnswer kept (now, answer) = kept := by
  cases answer with
  | failed => rfl
  | response received =>
    exact (if_neg (ne_true_of_eq_false hfailure)).trans
      (if_neg (ne_true_of_eq_false hunlimited))

end Backoff

/-- An answer of the bridge for a light, with the instant at which it is taken in. -/
structure Reception where
  light : String
  now : ℕ
  answer : Answer
  deriving DecidableEq

namespace Reception

/-- The answers for a light since its last success. -/
def sinceSuccess (light : String) (receptions : List Reception) : List Reception :=
  (receptions.filter fun reception ↦ reception.light = light).rtakeWhile fun reception ↦
    !reception.answer.isSuccess

/-- Whether the answer is a rate limit without a valid header. -/
def escalates (reception : Reception) : Bool :=
  reception.answer.isRateLimited && reception.answer.seconds?.isNone

/-- How many rate limits without a valid header a light got since its last success. -/
def escalations (light : String) (receptions : List Reception) : ℕ :=
  (sinceSuccess light receptions).countP escalates

theorem sinceSuccess_concat_of_ne {light : String} {reception : Reception}
    (hother : reception.light ≠ light) (receptions : List Reception) :
    sinceSuccess light (receptions ++ [reception]) = sinceSuccess light receptions := by
  simp [sinceSuccess, hother]

theorem sinceSuccess_concat (receptions : List Reception) (reception : Reception) :
    sinceSuccess reception.light (receptions ++ [reception]) =
      if reception.answer.isSuccess then []
      else sinceSuccess reception.light receptions ++ [reception] := by
  rw [sinceSuccess, List.filter_append, List.filter_singleton, decide_eq_true rfl, cond_true,
    List.rtakeWhile_concat]
  cases reception.answer.isSuccess <;> rfl

theorem escalations_concat (receptions : List Reception) {reception : Reception}
    (hfailure : reception.answer.isSuccess = false) :
    escalations reception.light (receptions ++ [reception]) =
      escalations reception.light receptions + if reception.escalates then 1 else 0 := by
  rw [escalations, sinceSuccess_concat, hfailure, if_neg Bool.false_ne_true, List.countP_append,
    List.countP_singleton]
  rfl

end Reception

namespace BackoffTable

/-- The table after answers for any lights, one after another. -/
def recordAll (receptions : List Reception) : BackoffTable :=
  receptions.foldl
    (fun table reception ↦ table.record reception.light reception.answer reception.now)
    LightTable.empty

theorem recordAll_concat (receptions : List Reception) (reception : Reception) :
    recordAll (receptions ++ [reception]) =
      (recordAll receptions).record reception.light reception.answer reception.now := by
  simp [recordAll]

/-- What is kept for a light, told by the answers for it since its last success: whether there is
an entry, and the step it remembers. -/
structure Keeps (light : String) (receptions : List Reception) (kept : Option Backoff) : Prop where
  isSome_iff : kept.isSome = true ↔
    ∃ reception ∈ Reception.sinceSuccess light receptions, reception.answer.isRateLimited = true
  lastStep_eq : kept.bind (·.lastStep) =
    Backoff.stepAfter (Reception.escalations light receptions)

theorem Keeps.concat {receptions : List Reception} {reception : Reception} {kept : Option Backoff}
    (hkeeps : Keeps reception.light receptions kept) :
    Keeps reception.light (receptions ++ [reception])
      (Backoff.afterAnswer kept (reception.now, reception.answer)) := by
  have hsince := Reception.sinceSuccess_concat receptions reception
  by_cases hsuccess : reception.answer.isSuccess = true
  · rw [if_pos hsuccess] at hsince
    rw [Backoff.afterAnswer_of_isSuccess kept reception.now hsuccess]
    constructor
    · simp [hsince]
    · simp [Reception.escalations, hsince, Backoff.stepAfter]
  · rw [if_neg hsuccess] at hsince
    have hcount := Reception.escalations_concat receptions (eq_false_of_ne_true hsuccess)
    by_cases hlimited : reception.answer.isRateLimited = true
    · rw [Backoff.afterAnswer_of_isRateLimited kept reception.now hlimited]
      constructor
      · simp [hsince, hlimited]
      · rw [hcount, hkeeps.lastStep_eq]
        cases hseconds : reception.answer.seconds? with
        | some seconds =>
          have hcalm : reception.escalates = false := by simp [Reception.escalates, hseconds]
          rw [Backoff.choose_of_seconds hseconds, hcalm]
          rfl
        | none =>
          have hescalates : reception.escalates = true := by
            simp [Reception.escalates, hseconds, hlimited]
          rw [Backoff.choose_of_no_seconds hseconds, Backoff.nextStep_stepAfter, hescalates]
          rfl
    · rw [Bool.not_eq_true] at hsuccess hlimited
      rw [Backoff.afterAnswer_of_neutral kept reception.now hsuccess hlimited]
      have hcalm : reception.escalates = false := by simp [Reception.escalates, hlimited]
      constructor
      · simpa [hsince, hlimited] using hkeeps.isSome_iff
      · simpa [hcount, hcalm] using hkeeps.lastStep_eq

/-- What the table keeps of each light follows that light's answers. -/
theorem keeps_recordAll (light : String) (receptions : List Reception) :
    Keeps light receptions ((recordAll receptions).get? light) := by
  induction receptions using List.reverseRecOn with
  | nil => exact ⟨by simp [recordAll, Reception.sinceSuccess], rfl⟩
  | append_singleton receptions reception ih =>
    rw [recordAll_concat]
    by_cases hlight : reception.light = light
    · subst hlight
      rw [get?_record_self]
      exact ih.concat
    · rw [get?_record_of_ne _ (Ne.symm hlight)]
      have hsince := Reception.sinceSuccess_concat_of_ne hlight receptions
      constructor
      · rw [hsince]
        exact ih.isSome_iff
      · rw [Reception.escalations, hsince]
        exact ih.lastStep_eq

/-- The entry of a light is that of its own answers alone. -/
theorem get?_recordAll (light : String) (receptions : List Reception) :
    (recordAll receptions).get? light =
      (recordAll (receptions.filter fun reception ↦ reception.light = light)).get? light := by
  induction receptions using List.reverseRecOn with
  | nil => rfl
  | append_singleton receptions reception ih =>
    rw [List.filter_append, recordAll_concat]
    by_cases hlight : reception.light = light
    · subst hlight
      rw [List.filter_singleton, decide_eq_true rfl, cond_true, recordAll_concat,
        get?_record_self, get?_record_self, ih]
    · rw [get?_record_of_ne _ (Ne.symm hlight), ih]
      simp [hlight]

/-- How a table becomes another by an answer for a light, which is the `count`-th rate limit without
a valid header that the light got since its last success, if it is such a one. -/
structure TakesIn (table next : BackoffTable) (reception : Reception) (count : ℕ) : Prop where
  others : ∀ light ≠ reception.light, next.get? light = table.get? light
  success : reception.answer.isSuccess = true → next.get? reception.light = none
  neutral : reception.answer.isSuccess = false → reception.answer.isRateLimited = false →
    next.get? reception.light = table.get? reception.light
  escalated : reception.answer.isRateLimited = true → reception.answer.seconds? = none →
    let step := min (1000 * 2 ^ (count - 1)) 10000
    table.duration reception.light reception.answer.header? = step ∧
      next.get? reception.light = some ⟨reception.now + millis step, some step⟩
  headed : ∀ seconds, reception.answer.isRateLimited = true →
    reception.answer.seconds? = some seconds →
    let duration := min (1000 * seconds) (2 ^ 64 - 1)
    table.duration reception.light reception.answer.header? = duration ∧
      next.get? reception.light =
        some ⟨reception.now + millis duration, (table.get? reception.light).bind (·.lastStep)⟩

theorem takesIn_recordAll (receptions : List Reception) (reception : Reception) :
    TakesIn (recordAll receptions) (recordAll (receptions ++ [reception])) reception
      (Reception.escalations reception.light (receptions ++ [reception])) := by
  have hkeeps := keeps_recordAll reception.light receptions
  rw [recordAll_concat]
  constructor
  case others =>
    intro light hlight
    exact get?_record_of_ne _ hlight reception.answer reception.now
  case success =>
    intro hsuccess
    rw [get?_record_self, Backoff.afterAnswer_of_isSuccess _ _ hsuccess]
  case neutral =>
    intro hfailure hunlimited
    rw [get?_record_self, Backoff.afterAnswer_of_neutral _ _ hfailure hunlimited]
  case escalated =>
    intro hlimited hseconds
    have hescalates : reception.escalates = true := by
      simp [Reception.escalates, hlimited, hseconds]
    have hcount := Reception.escalations_concat receptions (Answer.isSuccess_eq_false hlimited)
    rw [hescalates, if_pos rfl] at hcount
    rw [get?_record_self, Backoff.afterAnswer_of_isRateLimited _ _ hlimited, duration,
      Backoff.choose_of_no_seconds hseconds, hkeeps.lastStep_eq, Backoff.nextStep_stepAfter,
      hcount, Nat.add_sub_cancel]
    exact ⟨rfl, rfl⟩
  case headed =>
    intro seconds hlimited hseconds
    rw [get?_record_self, Backoff.afterAnswer_of_isRateLimited _ _ hlimited, duration,
      Backoff.choose_of_seconds hseconds]
    exact ⟨rfl, rfl⟩

end BackoffTable

/-- The answer that is taken in, with its light. -/
def Moment.reception? {κ : Type} (moment : Moment κ) : Option Reception :=
  match moment.deed with
  | .answered light answer => some ⟨light, moment.now, answer⟩
  | _ => none

namespace Controller

variable {κ : Type} [Scalar κ]

theorem backoff_step (controller : Controller κ) (now : ℕ) (event : ControllerEvent κ) :
    (controller.step now event).1.backoff =
      (((controller.deed? now event).map (Moment.mk now controller)).toList.filterMap
        Moment.reception?).foldl
          (fun table reception ↦ table.record reception.light reception.answer reception.now)
          controller.backoff := by
  generalize hdeed : controller.deed? now event = deed
  cases outcome hdeed with
  | idle pending waiting flushing hflushing hstep => rw [hstep]; rfl
  | turn owner waiting hfree hstep => rw [hstep, backoff_settle]; rfl
  | sent owner update rest hflushing hslot hopen hstep => rw [hstep]; rfl
  | dropped owner update rest hflushing hslot hclosed hstep => rw [hstep, backoff_settle]; rfl
  | answered owner light batch answer hflushing hstep => rw [hstep, backoff_settle]; rfl

/-- The table of a controller is made of the answers in its history. -/
theorem backoff_run (controller : Controller κ) (events : List (ℕ × ControllerEvent κ)) :
    (controller.run events).1.backoff =
      ((controller.history events).filterMap Moment.reception?).foldl
        (fun table reception ↦ table.record reception.light reception.answer reception.now)
        controller.backoff := by
  induction events generalizing controller with
  | nil => rfl
  | cons timed rest ih =>
    obtain ⟨now, event⟩ := timed
    rw [run_cons, history_cons, List.filterMap_append, List.foldl_append, ← backoff_step]
    exact ih (controller.step now event).1

/-- Whatever answers come for whatever lights, a light has an entry if and only if it got a rate
limit since its last success, its entry is that of its own answers alone, and one more answer
changes no entry but that of its light: a success removes it, a rate limit with a valid header
closes the light for the seconds named and leaves the remembered step, and the `k`-th rate limit
without one since the last success closes it for `1000 * 2 ^ (k - 1)` milliseconds, at most ten
seconds, and remembers that. The table of a controller is such a table, of the answers its requests
got, whatever a clockwork is told to do with it. -/
theorem backoff_escalates :
    (∀ (receptions : List Reception) (light : String),
      let kept := (BackoffTable.recordAll receptions).get? light
      (kept.isSome = true ↔ ∃ reception ∈ Reception.sinceSuccess light receptions,
        reception.answer.isRateLimited = true) ∧
      kept = (BackoffTable.recordAll
        (receptions.filter fun reception ↦ reception.light = light)).get? light) ∧
    (∀ (receptions : List Reception) (reception : Reception),
      BackoffTable.TakesIn (BackoffTable.recordAll receptions)
        (BackoffTable.recordAll (receptions ++ [reception])) reception
        (Reception.escalations reception.light (receptions ++ [reception]))) ∧
    ∀ interval : ℕ,
      let start : Controller κ := { interval }
      (∀ events, (start.run events).1.backoff =
        BackoffTable.recordAll ((start.history events).filterMap Moment.reception?)) ∧
      ∀ (window : ℕ) (script : LightTable (List Reply)) (commands : List (Command κ)),
        let work := commands.foldl Clockwork.execute { window, controller := start, script }
        ∃ events, Chronological events ∧ work.controller = (start.run events).1 ∧
          work.requests.reverse = (start.run events).2 := by
  refine ⟨fun receptions light ↦ ?_, BackoffTable.takesIn_recordAll, fun interval ↦ ?_⟩
  · exact ⟨(BackoffTable.keeps_recordAll light receptions).isSome_iff,
      BackoffTable.get?_recordAll light receptions⟩
  · refine ⟨fun events ↦ backoff_run { interval } events, fun window script commands ↦ ?_⟩
    obtain ⟨events, hfollows⟩ := Clockwork.exists_follows_foldl_execute
      { window, controller := ({ interval } : Controller κ), script } commands
    refine ⟨events, hfollows.chronological, hfollows.controller, ?_⟩
    rw [hfollows.requests, List.append_nil, List.reverse_reverse]

/-- Light `a` is rate-limited, then so again with a header, then not answered at all; light `b` is
rate-limited in between. -/
def mixedReceptions : List Reception :=
  [⟨"a", millis 10, .response { status := 429 }⟩, ⟨"b", millis 20, .response { status := 429 }⟩,
    ⟨"a", millis 1500, .response { status := 429, retryAfter := some " 2 " }⟩,
    ⟨"a", millis 4000, .failed⟩]

/-- The next rate limit of light `a` without a valid header is its second one, though its fourth
answer, and light `b` is left as it was. -/
theorem backoff_escalates_mixed :
    let table := BackoffTable.recordAll mixedReceptions
    let limited : Answer := .response { status := 429, retryAfter := some "soon" }
    let next := BackoffTable.recordAll (mixedReceptions ++ [⟨"a", millis 5000, limited⟩])
    limited.isRateLimited = true ∧ limited.seconds? = none ∧
    table.get? "a" = some ⟨millis 3500, some 1000⟩ ∧
    table.get? "b" = some ⟨millis 1020, some 1000⟩ ∧
    table.duration "a" limited.header? = 2000 ∧ next.get? "a" = some ⟨millis 7000, some 2000⟩ ∧
    next.get? "b" = table.get? "b" := by
  intro table limited next
  have hnext := (@backoff_escalates Rat _).2.1 mixedReceptions ⟨"a", millis 5000, limited⟩
  have hsecond :
      Reception.escalations "a" (mixedReceptions ++ [⟨"a", millis 5000, limited⟩]) = 2 := by
    decide
  rw [hsecond] at hnext
  have hlimited : limited.isRateLimited = true := by decide
  have hinvalid : limited.seconds? = none := by decide
  obtain ⟨hduration, hentry⟩ := hnext.escalated hlimited hinvalid
  have hexpiry : millis 5000 + millis (min (1000 * 2 ^ (2 - 1)) 10000) = millis 7000 := by decide
  refine ⟨hlimited, hinvalid, by decide, by decide, hduration, ?_, hnext.others "b" (by decide)⟩
  rw [← hexpiry]
  exact hentry

end Controller

end LightShow
