import LightShow.Proofs.Bridge.CommandRun
import LightShow.Proofs.Bridge.FlushDiscipline
import LightShow.Proofs.Number.WholeQuotient
import LightShow.Settings.Bridge

/-!
# How many requests start within a second

Requests start at least one interval apart, so a limit on the requests within any second holds once
that many intervals make a second (`Request.length_withinSecond_le`). A controller that is flushed
whenever a slot opens shows that it does not hold before (`run_rounds`).

The interval is the quotient of a second by the rate, cut to whole milliseconds. It is no shorter
than the exact quotient cut to whole milliseconds (`BridgeSettings.le_interval`), and above a
thousand requests a second it is zero (`BridgeSettings.interval_eq_zero`). Because of what is cut
off the limit can be above the rate: at three requests a second the interval is 333, and four
requests start within one second.
-/

set_option autoImplicit false

namespace LightShow

theorem mul_millis (factor count : ℕ) : factor * millis count = millis (factor * count) :=
  Nat.mul_left_comm ..

theorem millis_le_millis {a b : ℕ} (hle : a ≤ b) : millis a ≤ millis b :=
  Nat.mul_le_mul_left _ hle

theorem millis_lt_millis {a b : ℕ} (hlt : a < b) : millis a < millis b :=
  Nat.mul_lt_mul_of_pos_left hlt (by decide)

/-! ### Requests that keep their distance -/

namespace Request

/-- The requests that start within the second from an instant on. -/
def withinSecond (instant : ℕ) (requests : List Request) : List Request :=
  requests.filter fun request ↦ instant ≤ request.start && request.start < instant + millis 1000

/-- Requests that keep their distance take that distance each. -/
theorem exists_start_ge {distance : ℕ} {first : Request} {rest : List Request}
    (hspaced : (first :: rest).Pairwise fun earlier later ↦
      earlier.start + distance ≤ later.start) :
    ∃ last ∈ first :: rest, first.start + rest.length * distance ≤ last.start := by
  induction rest generalizing first with
  | nil => exact ⟨first, by simp⟩
  | cons second rest ih =>
    obtain ⟨hfirst, hrest⟩ := List.pairwise_cons.mp hspaced
    obtain ⟨last, hlast, hstart⟩ := ih hrest
    refine ⟨last, List.mem_cons_of_mem first hlast, ?_⟩
    have hsecond := hfirst second List.mem_cons_self
    rw [List.length_cons, Nat.succ_mul]
    omega

/-- As many intervals as make a second are a limit on the requests within one. -/
theorem length_withinSecond_le {interval limit : ℕ} {requests : List Request}
    (hspaced : requests.Pairwise fun earlier later ↦
      earlier.start + millis interval ≤ later.start)
    (hlimit : 1000 ≤ limit * interval) (instant : ℕ) :
    (withinSecond instant requests).length ≤ limit := by
  have hsecond : millis 1000 ≤ limit * millis interval := by
    rw [mul_millis]
    exact millis_le_millis hlimit
  have hmember (request : Request) (hrequest : request ∈ withinSecond instant requests) :
      instant ≤ request.start ∧ request.start < instant + millis 1000 := by
    simpa using (List.mem_filter.mp hrequest).2
  have hkept : (withinSecond instant requests).Pairwise fun earlier later ↦
      earlier.start + millis interval ≤ later.start := hspaced.sublist List.filter_sublist
  cases hwithin : withinSecond instant requests with
  | nil => exact Nat.zero_le limit
  | cons first rest =>
    rw [hwithin] at hmember hkept
    obtain ⟨last, hlast, hstart⟩ := exists_start_ge hkept
    have hbegin := hmember first List.mem_cons_self
    have hend := hmember last hlast
    have hfewer : rest.length * millis interval < limit * millis interval := by omega
    exact Nat.lt_of_mul_lt_mul_right hfewer

end Request

/-! ### A controller that is flushed whenever a slot opens -/

namespace Controller

variable {κ : Type}

/-- An update is queued, flushed, sent and answered at one instant. -/
def round (now : ℕ) : List (ℕ × ControllerEvent κ) :=
  [(now, .queue [{ light := "" }]), (now, .ask .caller), (now, .drain), (now, .slot),
    (now, .answer (.response { status := 200 }))]

/-- Rounds that follow one another as fast as the interval allows. -/
def rounds (interval count : ℕ) : List (ℕ × ControllerEvent κ) :=
  (List.range count).flatMap fun index ↦ round (index * millis interval)

theorem chronological_rounds (interval count : ℕ) :
    Chronological (rounds (κ := κ) interval count) := by
  refine List.pairwise_flatMap.mpr ⟨fun index _ ↦ by simp [round], ?_⟩
  refine List.pairwise_lt_range.imp fun {earlier later} hlt first hfirst second hsecond ↦ ?_
  have hwhen (now : ℕ) (timed : ℕ × ControllerEvent κ) (htimed : timed ∈ round now) :
      timed.1 = now := by
    simp only [round, List.mem_cons, List.not_mem_nil, or_false] at htimed
    rcases htimed with rfl | rfl | rfl | rfl | rfl <;> rfl
  rw [hwhen _ _ hfirst, hwhen _ _ hsecond]
  exact Nat.mul_le_mul_right (millis interval) hlt.le

variable [Scalar κ]

/-- A round that starts with an open slot sends its request, and leaves nothing behind but its
instant. -/
theorem run_round {interval now : ℕ} {lastRequest : Option ℕ}
    (hslot : ({ interval, lastRequest } : Controller κ).nextSlot ≤ now) :
    ({ interval, lastRequest } : Controller κ).run (round now) =
      ({ interval, lastRequest := some now },
        [⟨"", now, Body.ofUpdate ({ light := "" } : Update κ)⟩]) := by
  let flushing : Controller κ :=
    { interval, lastRequest, flushing := some ⟨.caller, [{ light := "" }], none⟩ }
  have hround : ({ interval, lastRequest } : Controller κ).run (round now) =
      ((flushing.slot now).1.answer now (.response { status := 200 }),
        (flushing.slot now).2.toList ++ []) := rfl
  have hsent : flushing.slot now =
      ({ interval, lastRequest := some now, flushing := some ⟨.caller, [], some ""⟩ },
        some ⟨"", now, Body.ofUpdate { light := "" }⟩) :=
    (if_neg (Nat.not_lt.mpr hslot)).trans (if_pos rfl)
  rw [hround, hsent]
  rfl

/-- Each of the rounds sends its request. -/
theorem run_rounds (interval count : ℕ) :
    (({ interval } : Controller κ).run (rounds interval count)).2 =
      (List.range count).map fun index ↦
        ⟨"", index * millis interval, Body.ofUpdate ({ light := "" } : Update κ)⟩ := by
  suffices hrounds : ∃ lastRequest, ({ interval } : Controller κ).run (rounds interval count) =
      ({ interval, lastRequest }, (List.range count).map fun index ↦
        ⟨"", index * millis interval, Body.ofUpdate ({ light := "" } : Update κ)⟩) ∧
      ({ interval, lastRequest } : Controller κ).nextSlot ≤ count * millis interval by
    obtain ⟨lastRequest, hrun, -⟩ := hrounds
    rw [hrun]
  induction count with
  | zero => exact ⟨none, rfl, Nat.zero_le _⟩
  | succ count ih =>
    obtain ⟨lastRequest, hrun, hslot⟩ := ih
    have hnext : rounds interval (count + 1) =
        rounds interval count ++ round (κ := κ) (count * millis interval) := by
      rw [rounds, List.range_succ, List.flatMap_append, List.flatMap_singleton, rounds]
    refine ⟨some (count * millis interval), ?_, ?_⟩
    · rw [hnext, run_append, hrun, run_round hslot, List.range_succ, List.map_append]
      rfl
    · rw [Nat.succ_mul]
      exact le_rfl

/-- A limit on the requests within a second holds of every run exactly if that many intervals make a
second. -/
theorem forall_length_withinSecond_le_iff (interval limit : ℕ) :
    (∀ events : List (ℕ × ControllerEvent κ), Chronological events → ∀ instant,
      (Request.withinSecond instant (({ interval } : Controller κ).run events).2).length ≤ limit) ↔
      1000 ≤ limit * interval := by
  constructor
  · intro hlimit
    by_contra hshort
    have hall := hlimit _ (chronological_rounds interval (limit + 1)) 0
    have hwithin : Request.withinSecond 0
        (({ interval } : Controller κ).run (rounds interval (limit + 1))).2 =
          (({ interval } : Controller κ).run (rounds interval (limit + 1))).2 := by
      refine List.filter_eq_self.mpr fun request hrequest ↦ ?_
      rw [run_rounds] at hrequest
      obtain ⟨index, hindex, rfl⟩ := List.mem_map.mp hrequest
      have hle : index * interval ≤ limit * interval :=
        Nat.mul_le_mul_right interval (Nat.le_of_lt_succ (List.mem_range.mp hindex))
      have hlt : millis (index * interval) < millis 1000 := millis_lt_millis (by omega)
      simp only [Bool.and_eq_true, decide_eq_true_eq, mul_millis]
      omega
    rw [hwithin, run_rounds, List.length_map, List.length_range] at hall
    omega
  · intro hlimit events _ instant
    exact Request.length_withinSecond_le (pairwise_requests { interval } events).2 hlimit instant

end Controller

/-! ### The interval of a rate -/

namespace BridgeSettings

/-- The rate as an exact number. -/
def rate (settings : BridgeSettings) : ℚ :=
  (Dyadic64.ofBits settings.requestsPerSecond.toBits).value

theorem rate_of_check {settings : BridgeSettings} (haccepted : settings.check = .ok ()) :
    0 < settings.requestsPerSecond ∧ settings.requestsPerSecond.isFinite = true := by
  unfold check at haccepted
  split_ifs at haccepted with hhost hwindow hrate
  simpa using hrate

theorem rate_pos {settings : BridgeSettings} (haccepted : settings.check = .ok ()) :
    0 < settings.rate :=
  Binary64.value_pos (rate_of_check haccepted).1 (rate_of_check haccepted).2

theorem value_thousand : (Dyadic64.ofBits (1000 : Float).toBits).value = 1000 := by
  have hbits : Dyadic64.ofBits (1000 : Float).toBits = ⟨false, 1000 * 2 ^ 43, -43⟩ := by
    decide +kernel
  norm_num [hbits, Dyadic64.value]

/-- The interval is at least as long as the whole milliseconds between requests at the rate. -/
theorem le_interval {settings : BridgeSettings} (haccepted : settings.check = .ok ())
    {bound : ℕ} (hbound : bound ≤ 2 ^ 53) (hle : bound * settings.rate ≤ 1000) :
    bound ≤ settings.interval.toNat := by
  obtain ⟨hpositive, hfinite⟩ := rate_of_check haccepted
  refine Binary64.le_toUInt64_div (by decide +kernel) (by decide +kernel) hpositive hfinite
    hbound ?_
  rwa [value_thousand]

/-- Above a thousand requests a second there is no interval at all: the rates next to a thousand are
far enough from it, because it is not a power of two. -/
theorem interval_eq_zero {settings : BridgeSettings} (haccepted : settings.check = .ok ())
    (hrate : 1000 < settings.rate) : settings.interval.toNat = 0 := by
  obtain ⟨hpositive, hfinite⟩ := rate_of_check haccepted
  refine Binary64.toUInt64_div_eq_zero (by decide +kernel) (by decide +kernel) hpositive hfinite ?_
  change _ < (2 ^ 53 - 1) * settings.rate
  obtain ⟨count, hcount⟩ : ∃ count : ℕ, settings.rate = count / 2 ^ 43 :=
    Binary64.exists_value_eq_div hpositive hfinite (by change 512 ≤ settings.rate; linarith)
  rw [hcount, lt_div_iff₀ (by positivity)] at hrate
  have hnext : 1000 * 2 ^ 43 + 1 ≤ count := by exact_mod_cast hrate
  have hcast : (1000 * 2 ^ 43 + 1 : ℚ) ≤ count := by exact_mod_cast hnext
  rw [value_thousand, hcount]
  linarith

theorem thousand_le_mul_interval {settings : BridgeSettings} (haccepted : settings.check = .ok ())
    (hrate : settings.rate ≤ 1000) :
    1000 ≤ ⌈(1000 : ℚ) / ⌊1000 / settings.rate⌋₊⌉₊ * settings.interval.toNat := by
  have hpositive := rate_pos haccepted
  have hone : 1 ≤ ⌊1000 / settings.rate⌋₊ :=
    Nat.le_floor (by rwa [Nat.cast_one, one_le_div hpositive])
  have hfloor : ⌊1000 / settings.rate⌋₊ * settings.rate ≤ 1000 :=
    (le_div_iff₀ hpositive).mp (Nat.floor_le (by positivity))
  generalize ⌊1000 / settings.rate⌋₊ = whole at hone hfloor ⊢
  have hceil : 1000 ≤ ⌈(1000 : ℚ) / whole⌉₊ * whole := by
    have hle := (div_le_iff₀ (by exact_mod_cast hone)).mp (Nat.le_ceil ((1000 : ℚ) / whole))
    exact_mod_cast hle
  rcases le_total whole 1000 with hsmall | hlarge
  · have hinterval := le_interval haccepted (hsmall.trans (by decide)) hfloor
    exact hceil.trans (Nat.mul_le_mul_left _ hinterval)
  · have hfloor' : (1000 : ℕ) * settings.rate ≤ 1000 :=
      (mul_le_mul_of_nonneg_right (by exact_mod_cast hlarge) hpositive.le).trans hfloor
    have hinterval := le_interval haccepted (by decide) hfloor'
    have hceil' : 0 < ⌈(1000 : ℚ) / whole⌉₊ :=
      Nat.ceil_pos.mpr (div_pos (by norm_num) (by exact_mod_cast hone))
    exact Nat.mul_le_mul hceil' hinterval

/-- At a rate of at most a thousand requests a second, no second has more requests than fit in with
the whole milliseconds that lie between requests at that rate. That is true of every run of a
controller with the settings and of every clockwork, whatever the bridge answers. A limit holds of
every run exactly if that many intervals make a second. Above a thousand requests a second there is
no limit. -/
theorem requests_within_second {κ : Type} [Scalar κ] (settings : BridgeSettings)
    (haccepted : settings.check = .ok ()) :
    let start : Controller κ := { interval := settings.interval.toNat }
    0 < settings.rate ∧
    (settings.rate ≤ 1000 →
      (∀ events instant, (Request.withinSecond instant (start.run events).2).length ≤
        ⌈(1000 : ℚ) / ⌊1000 / settings.rate⌋₊⌉₊) ∧
      ∀ (work : Clockwork κ) (commands : List (Command κ)) instant, work.controller = start →
        work.requests = [] →
        (Request.withinSecond instant (commands.foldl Clockwork.execute work).requests).length ≤
          ⌈(1000 : ℚ) / ⌊1000 / settings.rate⌋₊⌉₊) ∧
    (∀ limit, (∀ events, Chronological events → ∀ instant,
      (Request.withinSecond instant (start.run events).2).length ≤ limit) ↔
        1000 ≤ limit * settings.interval.toNat) ∧
    (1000 < settings.rate → ∀ limit, ∃ events, Chronological events ∧ ∃ instant,
      limit < (Request.withinSecond instant (start.run events).2).length) := by
  intro start
  have hsharp (limit : ℕ) := Controller.forall_length_withinSecond_le_iff (κ := κ)
    settings.interval.toNat limit
  refine ⟨rate_pos haccepted, fun hrate ↦ ?_, hsharp, fun hrate limit ↦ ?_⟩
  · have hruns (events : List (ℕ × ControllerEvent κ)) (instant : ℕ) :
        (Request.withinSecond instant (start.run events).2).length ≤
          ⌈(1000 : ℚ) / ⌊1000 / settings.rate⌋₊⌉₊ :=
      Request.length_withinSecond_le (start.pairwise_requests events).2
        (thousand_le_mul_interval haccepted hrate) instant
    refine ⟨hruns, fun work commands instant hcontroller hrequests ↦ ?_⟩
    obtain ⟨events, hfollows⟩ := work.exists_follows_foldl_execute commands
    rw [hfollows.requests, hcontroller, hrequests, List.append_nil, Request.withinSecond,
      List.filter_reverse, List.length_reverse]
    exact hruns events instant
  · have hnone : ¬ 1000 ≤ limit * settings.interval.toNat := by
      rw [interval_eq_zero haccepted hrate]
      omega
    rw [← hsharp limit] at hnone
    push Not at hnone
    exact hnone

/-- Settings with a rate that does not divide a second into whole milliseconds. -/
def threePerSecond : BridgeSettings :=
  { bridgeHost := "bridge", requestsPerSecond := 3 }

theorem check_threePerSecond : threePerSecond.check = .ok () := by
  rfl

theorem rate_threePerSecond : threePerSecond.rate = 3 := by
  have hbits : Dyadic64.ofBits threePerSecond.requestsPerSecond.toBits =
      ⟨false, 3 * 2 ^ 51, -51⟩ := by decide +kernel
  norm_num [rate, hbits, Dyadic64.value]

theorem interval_threePerSecond : threePerSecond.interval.toNat = 333 := by
  decide +kernel

theorem requests_within_second_three :
    (∀ events instant, (Request.withinSecond instant
      (({ interval := threePerSecond.interval.toNat } : Controller Float).run events).2).length ≤
        4) ∧
    ¬ ∀ events, Chronological events → ∀ instant, (Request.withinSecond instant
      (({ interval := threePerSecond.interval.toNat } : Controller Float).run events).2).length ≤
        3 := by
  obtain ⟨-, hlimit, hsharp, -⟩ := requests_within_second (κ := Float) threePerSecond
    check_threePerSecond
  have hwhole : ⌊(1000 : ℚ) / 3⌋₊ = 333 := by
    rw [Nat.floor_eq_iff (by norm_num)]
    norm_num
  have hfour : ⌈(1000 : ℚ) / (333 : ℕ)⌉₊ = 4 := by
    rw [Nat.ceil_eq_iff (by norm_num)]
    norm_num
  rw [rate_threePerSecond, hwhole, hfour] at hlimit
  refine ⟨(hlimit (by norm_num)).1, ?_⟩
  rw [hsharp, interval_threePerSecond]
  decide

/-- At three requests a second, one flush of four lights starts four requests within a second. -/
theorem four_requests_within_second_three :
    threePerSecond.check = .ok () ∧ ⌈threePerSecond.rate⌉₊ = 3 ∧
    (Request.withinSecond 0 (([.update [{ light := "a" }, { light := "b" }, { light := "c" },
      { light := "d" }], .flush] : List (Command Float)).foldl Clockwork.execute
        { window := 100
          controller := { interval := threePerSecond.interval.toNat } }).requests).map (·.start) =
      [millis 999, millis 666, millis 333, 0] := by
  refine ⟨check_threePerSecond, ?_, by decide +kernel⟩
  rw [rate_threePerSecond, Nat.ceil_ofNat]

end BridgeSettings

end LightShow
