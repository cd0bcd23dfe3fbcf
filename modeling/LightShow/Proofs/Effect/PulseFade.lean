import LightShow.Effect.Pulse
import LightShow.Proofs.Effect.EffectLights
import LightShow.Proofs.Number.ExactArithmetic

/-!
# How a pulse fades

After a flash the level falls by one factor per call, and only changes of some size are sent, and
the end. In exact arithmetic the level stays between zero and one (`Bounded`), so what it rounds to
never rises while fading. The rule for sending keeps what was sent latest less than 16 above what
the level rounds to, and equal to it once that is zero (`Settled`). From this, one fade either sends
nothing or something lower, by at least 16 or down to zero (`Settled.fade`). A chain of such drops
from full brightness has at most 16 of them (`length_le_of_isChain`).

Every run ends either before its first flash or some calls without a beat after its last one, so the
laws are stated for the calls since then.
-/

set_option autoImplicit false

namespace LightShow

/-- The update without what it says about the colour. -/
def Update.uncoloured {κ : Type} (update : Update κ) : Update κ :=
  { update with hue := none, saturation := none }

/-- One call of the effect. -/
structure PulseCall where
  beat : Bool
  lights : List String

/-- A call without a beat. -/
def PulseCall.quiet (lights : List String) : PulseCall :=
  ⟨false, lights⟩

namespace Pulse

/-! ### What is sent while fading -/

theorem toInt_abs {word : Int32} (hword : word ≠ Int32.minValue) :
    word.abs.toInt = word.toInt.natAbs := by
  have hbits : word.toBitVec ≠ BitVec.intMin 32 := fun hbits ↦ hword (Int32.toBitVec_inj.mp hbits)
  exact BitVec.toInt_abs_eq_natAbs_of_ne_intMin hbits

/-- Brightnesses whose distance fits in a word are compared by it. -/
theorem isWorthSending_iff {last brightness : Int32}
    (hfits : (last.toInt - brightness.toInt).natAbs < 2 ^ 31) :
    isWorthSending last brightness = true ↔
      16 ≤ (last.toInt - brightness.toInt).natAbs ∨ brightness.toInt = 0 ∧ last.toInt ≠ 0 := by
  have hsub : (last - brightness).toInt = last.toInt - brightness.toInt := by
    rw [Int32.toInt_sub]
    exact Int.bmod_eq_of_le (by omega) (by omega)
  have hleast : last - brightness ≠ Int32.minValue := by
    intro heq
    have hmin : Int32.minValue.toInt = -2 ^ 31 := by decide
    rw [← heq, hsub] at hmin
    omega
  have hstep : leastStep.toInt = 16 := by decide
  have hworth : leastStep ≤ (last - brightness).abs ↔
      16 ≤ (last.toInt - brightness.toInt).natAbs := by
    rw [Int32.le_iff_toInt_le, toInt_abs hleast, hsub, hstep]
    omega
  rw [isWorthSending, Bool.or_eq_true, decide_eq_true_iff, hworth]
  simp [← Int32.toInt_inj]

/-- What may be sent while fading: less than before, by at least 16 or down to zero. -/
def Drops (earlier later : Int32) : Prop :=
  0 ≤ later.toInt ∧ later.toInt < earlier.toInt ∧
    (later.toInt = 0 ∨ later.toInt + 16 ≤ earlier.toInt)

/-- The drops from a brightness are at most one for every 16 of it, for nothing drops below zero and
a drop to zero is the last one. -/
theorem length_le_of_isChain {last : Int32} {sent : List Int32}
    (hchain : (last :: sent).IsChain Drops) :
    (sent.length : ℤ) ≤ max 0 ((last.toInt + 15) / 16) := by
  induction sent generalizing last with
  | nil => simp
  | cons brightness rest ih =>
    obtain ⟨⟨hnonneg, hlower, hstep⟩, hrest⟩ := List.isChain_cons_cons.mp hchain
    have hlength := ih hrest
    rw [List.length_cons]
    push_cast
    omega

/-! ### Runs -/

section Runs

variable {α : Type} [Scalar α]

/-- A whole run: the pulse afterwards and the updates of each call. -/
def run (pulse : Pulse α) : List PulseCall → Pulse α × List (List (Update α))
  | [] => (pulse, [])
  | call :: rest =>
    let (next, updates) := pulse.step call.beat call.lights
    let (last, later) := next.run rest
    (last, updates :: later)

/-- The brightness that the updates of a call send, if there are any. -/
def sent? (updates : List (Update α)) : Option Int32 :=
  updates.head?.bind (·.brightness)

/-- What a call can come to: the pulse afterwards and the updates. -/
inductive Outcome (pulse : Pulse α) (lights : List String) :
    Bool → Pulse α × List (Update α) → Prop where
  | flash (baseHue : α) :
      pulse.Outcome lights true
        ({ pulse with
            level := Scalar.one, baseHue, lastSent := some (Int32.ofNat fullBrightness) },
          flash baseHue lights)
  | fade (last : Int32) (hlast : pulse.lastSent = some last)
      (hworth : isWorthSending last (brightnessOf (pulse.level * pulse.decay)) = true) :
      pulse.Outcome lights false
        ({ pulse with
            level := pulse.level * pulse.decay
            lastSent := some (brightnessOf (pulse.level * pulse.decay)) },
          lights.map fun light =>
            { light
              brightness := some (brightnessOf (pulse.level * pulse.decay))
              transition := some 1 })
  | still
      (hlast : ∀ last ∈ pulse.lastSent,
        isWorthSending last (brightnessOf (pulse.level * pulse.decay)) = false) :
      pulse.Outcome lights false ({ pulse with level := pulse.level * pulse.decay }, [])

theorem outcome (pulse : Pulse α) (beat : Bool) (lights : List String) :
    pulse.Outcome lights beat (pulse.step beat lights) := by
  cases beat with
  | true => exact .flash _
  | false =>
    simp only [step, Bool.false_eq_true, if_false]
    split_ifs with hworth
    · obtain ⟨last, hlast, hworth⟩ := (Option.any_eq_true _ _).mp hworth
      exact .fade last hlast hworth
    · refine .still fun last hlast ↦ Bool.eq_false_iff.mpr fun hlate ↦ hworth ?_
      exact (Option.any_eq_true _ _).mpr ⟨last, hlast, hlate⟩

theorem sent?_flash (baseHue : α) {lights : List String} (hlights : lights ≠ []) :
    sent? (flash baseHue lights) = some (Int32.ofNat fullBrightness) := by
  obtain ⟨light, rest, rfl⟩ := List.exists_cons_of_ne_nil hlights
  simp [sent?, flash, List.mapIdx_cons]

theorem decay_step (pulse : Pulse α) (beat : Bool) (lights : List String) :
    (pulse.step beat lights).1.decay = pulse.decay := by
  have houtcome := pulse.outcome beat lights
  generalize pulse.step beat lights = result at houtcome ⊢
  cases houtcome <;> rfl

theorem decay_run (pulse : Pulse α) (calls : List PulseCall) :
    (pulse.run calls).1.decay = pulse.decay := by
  induction calls generalizing pulse with
  | nil => rfl
  | cons call rest ih =>
    exact (ih (pulse.step call.beat call.lights).1).trans (pulse.decay_step call.beat call.lights)

theorem level_step_quiet (pulse : Pulse α) (lights : List String) :
    (pulse.step false lights).1.level = pulse.level * pulse.decay := by
  have houtcome := pulse.outcome false lights
  generalize pulse.step false lights = result at houtcome ⊢
  cases houtcome <;> rfl

/-- Before the first flash nothing is sent. -/
theorem run_quiet_of_lastSent_eq_none {pulse : Pulse α} (hnone : pulse.lastSent = none)
    (quiet : List (List String)) : ∀ updates ∈ (pulse.run (quiet.map .quiet)).2, updates = [] := by
  induction quiet generalizing pulse with
  | nil => simp [run]
  | cons lights rest ih =>
    have hstill : pulse.step false lights =
        ({ pulse with level := pulse.level * pulse.decay }, []) := by
      simp [step, hnone]
    simp only [List.map_cons, run, PulseCall.quiet, hstill, List.forall_mem_cons, true_and]
    exact ih hnone

/-! ### Colours have no part in it -/

/-- Two pulses that differ at most in their colours. -/
structure SameFade (first second : Pulse α) : Prop where
  decay : second.decay = first.decay
  level : second.level = first.level
  lastSent : second.lastSent = first.lastSent

theorem uncoloured_flash (baseHue : α) (lights : List String) :
    (flash baseHue lights).map Update.uncoloured =
      lights.map fun light ↦
        { light, brightness := some (Int32.ofNat fullBrightness), transition := some 0 } := by
  apply List.ext_getElem
  · simp [flash]
  · intro index _ _
    simp [flash, Update.uncoloured]

theorem SameFade.step {first second : Pulse α} (hsame : first.SameFade second) (beat : Bool)
    (lights : List String) :
    (first.step beat lights).1.SameFade (second.step beat lights).1 ∧
      (second.step beat lights).2.map Update.uncoloured =
        (first.step beat lights).2.map Update.uncoloured := by
  obtain ⟨hdecay, hlevel, hlast⟩ := hsame
  cases beat with
  | true =>
    refine ⟨⟨hdecay, rfl, rfl⟩, ?_⟩
    simp only [Pulse.step, if_true, uncoloured_flash]
  | false =>
    simp only [Pulse.step, Bool.false_eq_true, if_false, hdecay, hlevel, hlast]
    split_ifs
    · exact ⟨⟨rfl, rfl, rfl⟩, rfl⟩
    · exact ⟨⟨rfl, rfl, rfl⟩, rfl⟩

theorem SameFade.run {first second : Pulse α} (hsame : first.SameFade second)
    (calls : List PulseCall) :
    (second.run calls).2.map (·.map Update.uncoloured) =
      (first.run calls).2.map (·.map Update.uncoloured) := by
  induction calls generalizing first second with
  | nil => rfl
  | cons call rest ih =>
    obtain ⟨hnext, hupdates⟩ := hsame.step call.beat call.lights
    simp only [Pulse.run, List.map_cons, hupdates, ih hnext]

end Runs

/-! ### The level and the decay -/

open scoped ExactArithmetic

attribute [-instance] Scalar.toAdd Scalar.toSub Scalar.toMul Scalar.toDiv

section Exact

variable {K : Type} [Field K] [LinearOrder K] [FloorRing K]

/-- The decay and the level are shares. -/
structure Bounded (pulse : Pulse K) : Prop where
  decay : pulse.decay ∈ Set.Icc 0 1
  level : pulse.level ∈ Set.Icc 0 1

theorem decay_create (decay hueStep : K) :
    (create decay hueStep).decay = max 0 (min 1 decay) := by
  rw [← Scalar.clamp_eq zero_le_one, ← Scalar.zero_eq, ← Scalar.one_eq]
  rfl

theorem bounded_create (decay hueStep : K) : (create decay hueStep).Bounded := by
  refine ⟨?_, ?_⟩
  · rw [decay_create]
    exact ⟨le_max_left _ _, max_le zero_le_one (min_le_left _ _)⟩
  · simp [create]

theorem level_run (pulse : Pulse K) (quiet : List (List String)) :
    (pulse.run (quiet.map .quiet)).1.level = pulse.level * pulse.decay ^ quiet.length := by
  induction quiet generalizing pulse with
  | nil => simp [run]
  | cons lights rest ih =>
    have hnext := ih (pulse.step false lights).1
    rw [decay_step, level_step_quiet] at hnext
    refine hnext.trans ?_
    rw [List.length_cons, pow_succ']
    exact mul_assoc _ _ _

/-! ### What a level rounds to -/

/-- The brightness that a level rounds to. -/
def rounded (level : K) : ℤ :=
  round (level * (fullBrightness : K))

variable [IsStrictOrderedRing K]

theorem rounded_eq (level : K) : rounded level = ⌊level * 254 + 1 / 2⌋ := by
  rw [rounded, round_eq, fullBrightness, Nat.cast_ofNat]

theorem rounded_mono {lower higher : K} (hle : lower ≤ higher) :
    rounded lower ≤ rounded higher := by
  rw [rounded_eq, rounded_eq]
  exact Int.floor_mono (by linarith)

theorem rounded_zero : rounded (0 : K) = 0 := by
  rw [rounded_eq, Int.floor_eq_zero_iff]
  constructor <;> norm_num

theorem rounded_one : rounded (1 : K) = 254 := by
  rw [rounded_eq, Int.floor_eq_iff]
  constructor <;> norm_num

theorem rounded_mem {level : K} (hlevel : level ∈ Set.Icc 0 1) :
    rounded level ∈ Set.Icc (0 : ℤ) 254 := by
  have hlow := rounded_mono hlevel.1
  have hhigh := rounded_mono hlevel.2
  rw [rounded_zero] at hlow
  rw [rounded_one] at hhigh
  exact ⟨hlow, hhigh⟩

theorem toInt_brightnessOf {level : K} (hlevel : level ∈ Set.Icc 0 1) :
    (brightnessOf level).toInt = rounded level := by
  obtain ⟨hlow, hhigh⟩ := rounded_mem hlevel
  have hround : Scalar.round (level * Scalar.ofNat fullBrightness) = rounded level := by
    have hscaled : level * Scalar.ofNat fullBrightness = level * 254 := by
      simp [fullBrightness]
    rw [hscaled, Scalar.round_of_nonneg (mul_nonneg hlevel.1 (by norm_num)), rounded_eq]
  have hmin : Int32.minValue.toInt = -2147483648 := by decide
  have hmax : Int32.maxValue.toInt = 2147483647 := by decide
  simp only [brightnessOf, hround, hmin, hmax]
  rw [min_eq_left (by omega), max_eq_right (by omega)]
  exact Int32.toInt_ofInt_of_le (by omega) (by omega)

/-! ### One call -/

omit [FloorRing K] in
theorem Bounded.level_mul_decay {pulse : Pulse K} (hbounded : pulse.Bounded) :
    pulse.level * pulse.decay ∈ Set.Icc 0 1 :=
  ⟨mul_nonneg hbounded.level.1 hbounded.decay.1,
    mul_le_one₀ hbounded.level.2 hbounded.decay.1 hbounded.decay.2⟩

theorem Bounded.step {pulse : Pulse K} (hbounded : pulse.Bounded) (beat : Bool)
    (lights : List String) : (pulse.step beat lights).1.Bounded := by
  have hlevel := hbounded.level_mul_decay
  have houtcome := pulse.outcome beat lights
  generalize pulse.step beat lights = result at houtcome ⊢
  cases houtcome with
  | flash baseHue => exact ⟨hbounded.decay, by simp⟩
  | fade last hlast hworth => exact ⟨hbounded.decay, hlevel⟩
  | still hlast => exact ⟨hbounded.decay, hlevel⟩

theorem Bounded.run {pulse : Pulse K} (hbounded : pulse.Bounded) (calls : List PulseCall) :
    (pulse.run calls).1.Bounded := by
  induction calls generalizing pulse with
  | nil => exact hbounded
  | cons call rest ih => exact ih (hbounded.step call.beat call.lights)

/-- All lights of a call are sent one brightness. -/
theorem Bounded.exists_brightness {pulse : Pulse K} (hbounded : pulse.Bounded) (beat : Bool)
    (lights : List String) :
    (pulse.step beat lights).2 = [] ∨ ∃ brightness : Int32,
      brightness.toInt ∈ Set.Icc (0 : ℤ) 254 ∧
      ∀ update ∈ (pulse.step beat lights).2, update.brightness = some brightness := by
  have hlevel := hbounded.level_mul_decay
  have houtcome := pulse.outcome beat lights
  generalize pulse.step beat lights = result at houtcome ⊢
  cases houtcome with
  | flash baseHue =>
    refine .inr ⟨Int32.ofNat fullBrightness, by decide, fun update hmem ↦ ?_⟩
    obtain ⟨index, hindex, rfl⟩ := List.mem_mapIdx.mp hmem
    rfl
  | fade last hlast hworth =>
    refine .inr ⟨brightnessOf (pulse.level * pulse.decay), ?_, fun update hmem ↦ ?_⟩
    · exact toInt_brightnessOf hlevel ▸ rounded_mem hlevel
    · obtain ⟨light, -, rfl⟩ := List.mem_map.mp hmem
      rfl
  | still hlast => exact .inl rfl

/-! ### Fading -/

/-- What was sent latest stands for the level: it is at most 15 above what the level rounds to, and
zero once that is zero. -/
structure Settled (pulse : Pulse K) (last : Int32) : Prop where
  lastSent : pulse.lastSent = some last
  le_last : rounded pulse.level ≤ last.toInt
  last_lt : last.toInt < rounded pulse.level + 16
  dark : rounded pulse.level = 0 → last.toInt = 0

theorem settled_flash (pulse : Pulse K) (lights : List String) :
    (pulse.step true lights).1.Settled (Int32.ofNat fullBrightness) := by
  have hrounded : rounded (pulse.step true lights).1.level = 254 := by
    simp [step, rounded_one]
  have hfull : (Int32.ofNat fullBrightness).toInt = 254 := by decide
  refine ⟨rfl, ?_, ?_, ?_⟩ <;> omega

/-- One fade sends nothing, or something that drops, and the rule is kept. The level only falls, so
what it rounds to stays below what was sent. -/
theorem Settled.fade {pulse : Pulse K} {last : Int32} (hsettled : pulse.Settled last)
    (hbounded : pulse.Bounded) {lights : List String} (hlights : lights ≠ []) :
    let faded := pulse.step false lights
    sent? faded.2 = none ∧ faded.1.Settled last ∨
      ∃ brightness, sent? faded.2 = some brightness ∧ Drops last brightness ∧
        faded.1.Settled brightness := by
  obtain ⟨hlastSent, hle, hlt, hdark⟩ := hsettled
  have hlevel := hbounded.level_mul_decay
  have hfallen : rounded (pulse.level * pulse.decay) ≤ rounded pulse.level :=
    rounded_mono (mul_le_of_le_one_right hbounded.level.1 hbounded.decay.2)
  have hbrightness := toInt_brightnessOf hlevel
  obtain ⟨hnonneg, -⟩ := rounded_mem hlevel
  obtain ⟨-, hfull⟩ := rounded_mem hbounded.level
  have hfits : (last.toInt - (brightnessOf (pulse.level * pulse.decay)).toInt).natAbs < 2 ^ 31 := by
    rw [hbrightness]
    omega
  intro faded
  have houtcome : pulse.Outcome lights false faded := pulse.outcome false lights
  generalize faded = result at houtcome ⊢
  cases houtcome with
  | fade other hother hworth =>
    obtain rfl : last = other := Option.some.inj (hlastSent.symm.trans hother)
    have hworth := (isWorthSending_iff hfits).mp hworth
    refine .inr ⟨_, ?_, ⟨?_, ?_, ?_⟩, rfl, ?_, ?_, ?_⟩
    · obtain ⟨light, rest, rfl⟩ := List.exists_cons_of_ne_nil hlights
      rfl
    all_goals simp only [hbrightness] at hworth ⊢; omega
  | still hother =>
    have hworth := (isWorthSending_iff hfits).not.mp (Bool.eq_false_iff.mp (hother last hlastSent))
    refine .inl ⟨rfl, hlastSent, ?_, ?_, ?_⟩
    all_goals simp only [hbrightness] at hworth ⊢; omega

/-- Any number of fades. -/
theorem Settled.fades {pulse : Pulse K} {last : Int32} (hsettled : pulse.Settled last)
    (hbounded : pulse.Bounded) {quiet : List (List String)}
    (hquiet : ∀ lights ∈ quiet, lights ≠ []) :
    let faded := pulse.run (quiet.map .quiet)
    (last :: faded.2.filterMap sent?).IsChain Drops ∧
      ∃ latest, (last :: faded.2.filterMap sent?).getLast? = some latest ∧
        faded.1.Settled latest := by
  induction quiet generalizing pulse last with
  | nil => exact ⟨.singleton last, last, rfl, hsettled⟩
  | cons lights rest ih =>
    have hrest : ∀ lights ∈ rest, lights ≠ [] :=
      fun others hmem ↦ hquiet others (List.mem_cons_of_mem _ hmem)
    have hnext := hbounded.step false lights
    simp only [List.map_cons, Pulse.run, PulseCall.quiet, List.filterMap_cons]
    rcases hsettled.fade hbounded (hquiet lights List.mem_cons_self) with
      ⟨hsent, hkept⟩ | ⟨brightness, hsent, hdrops, hkept⟩
    · simp only [hsent]
      exact ih hkept hnext hrest
    · simp only [hsent]
      obtain ⟨hchain, latest, hlatest, hfinal⟩ := ih hkept hnext hrest
      refine ⟨List.isChain_cons_cons.mpr ⟨hdrops, hchain⟩, latest, ?_, hfinal⟩
      rw [List.getLast?_cons_cons]
      exact hlatest

end Exact

/-- What a pulse sends, its colours apart, does not depend on the hue step, in any arithmetic. In
exact arithmetic, over any ordered field and for any decay, it sends nothing before the first beat,
and all lights of a call one brightness between 0 and 254. From a beat until the next one, the
brightnesses that are sent begin with 254 and fall, each of them to zero or by at least 16, so there
are at most 16 after the first. The level is then a power of the decay. What it rounds to is always
less than 16 away from the brightness sent latest, and zero only if that one is zero. -/
theorem fade_descends_in_steps :
    (∀ (α : Type) [Scalar α] (decay hueStep otherStep : α) (calls : List PulseCall),
      ((create decay otherStep).run calls).2.map (·.map Update.uncoloured) =
        ((create decay hueStep).run calls).2.map (·.map Update.uncoloured)) ∧
    ∀ (K : Type) [Field K] [LinearOrder K] [IsStrictOrderedRing K] [FloorRing K]
      (decay hueStep : K),
      let start := create decay hueStep
      (∀ quiet : List (List String),
        ∀ updates ∈ (start.run (quiet.map .quiet)).2, updates = []) ∧
      (∀ (before : List PulseCall) (call : PulseCall),
        let updates := ((start.run before).1.step call.beat call.lights).2
        updates = [] ∨ ∃ brightness : Int32,
          brightness.toInt ∈ Set.Icc (0 : ℤ) 254 ∧
          updates.map (·.light) = call.lights ∧
          ∀ update ∈ updates, update.brightness = some brightness) ∧
      ∀ (before : List PulseCall) (lights : List String) (quiet : List (List String)),
        lights ≠ [] → (∀ others ∈ quiet, others ≠ []) →
        let flashed := (start.run before).1.step true lights
        let faded := flashed.1.run (quiet.map .quiet)
        let sent := (flashed.2 :: faded.2).filterMap sent?
        let nearest := ⌊faded.1.level * 254 + 1 / 2⌋
        sent.head? = some 254 ∧
        sent.IsChain (fun earlier later : Int32 ↦ later.toInt < earlier.toInt ∧
          (later.toInt = 0 ∨ later.toInt + 16 ≤ earlier.toInt)) ∧
        (faded.2.filterMap sent?).length ≤ 16 ∧
        faded.1.level = max 0 (min 1 decay) ^ quiet.length ∧
        ∃ last, sent.getLast? = some last ∧ |nearest - last.toInt| < 16 ∧
          (nearest = 0 → last.toInt = 0) := by
  refine ⟨?_, ?_⟩
  · intro α _ decay hueStep otherStep calls
    have hsame : (create decay hueStep).SameFade (create decay otherStep) := ⟨rfl, rfl, rfl⟩
    exact hsame.run calls
  · intro K _ _ _ _ decay hueStep start
    have hstart : start.Bounded := bounded_create decay hueStep
    refine ⟨run_quiet_of_lastSent_eq_none rfl, fun before call ↦ ?_, ?_⟩
    · have hbounded := hstart.run before
      rcases hbounded.exists_brightness call.beat call.lights with
        hnone | ⟨brightness, hrange, hall⟩
      · exact .inl hnone
      · rcases lights_step (start.run before).1 call.beat call.lights with hnone | hlights
        · exact .inl hnone
        · exact .inr ⟨brightness, hrange, hlights, hall⟩
    · intro before lights quiet hlights hquiet flashed faded sent nearest
      have hflashed : flashed.1.Settled 254 := settled_flash (start.run before).1 lights
      have hbounded : flashed.1.Bounded := (hstart.run before).step true lights
      have hfirst : sent? flashed.2 = some 254 := sent?_flash _ hlights
      have hsent : sent = 254 :: faded.2.filterMap sent? := List.filterMap_cons_some hfirst
      obtain ⟨hchain, last, hlast, hsettled⟩ := hflashed.fades hbounded hquiet
      have hcount := length_le_of_isChain hchain
      have hfull : (254 : Int32).toInt = 254 := by decide
      rw [hfull] at hcount
      rw [hsent]
      refine ⟨rfl, hchain.imp fun earlier later hdrops ↦ hdrops.2, ?_, ?_, last, hlast, ?_, ?_⟩
      · exact_mod_cast hcount
      · have hlevel := flashed.1.level_run quiet
        have hdecay : flashed.1.decay = max 0 (min 1 decay) :=
          ((start.run before).1.decay_step true lights).trans
            ((start.decay_run before).trans (decay_create decay hueStep))
        have hone : flashed.1.level = 1 := Scalar.one_eq
        rw [hdecay, hone, one_mul] at hlevel
        exact hlevel
      · have hle : nearest ≤ last.toInt := (rounded_eq faded.1.level).ge.trans hsettled.le_last
        have hlt : last.toInt < nearest + 16 := by
          simpa only [rounded_eq] using hsettled.last_lt
        rw [abs_lt]
        omega
      · intro hzero
        exact hsettled.dark ((rounded_eq _).trans hzero)

/-- A flash while the one before still fades, and nine calls in which the level is halved: of the
brightnesses 8, 4, 2 and 1 none is far enough below the 16 before them, and zero is sent. -/
theorem fade_descends_in_steps_halving :
    let lights := ["1", "2"]
    let start : Pulse ℚ := create (1 / 2) (13 / 100)
    let before : List PulseCall := [⟨false, lights⟩, ⟨true, lights⟩, ⟨false, lights⟩]
    let flashed := (start.run before).1.step true lights
    let faded := flashed.1.run ((List.replicate 9 lights).map .quiet)
    let sent := (flashed.2 :: faded.2).filterMap sent?
    sent = [254, 127, 64, 32, 16, 0] ∧
    sent.IsChain (fun earlier later : Int32 ↦ later.toInt < earlier.toInt ∧
      (later.toInt = 0 ∨ later.toInt + 16 ≤ earlier.toInt)) ∧
    faded.1.level = 1 / 512 := by
  intro lights start before flashed faded sent
  have hexact := fade_descends_in_steps.2 ℚ (1 / 2) (13 / 100)
  rw [Scalar.scalarOfField_rat] at hexact
  have hquiet : ∀ others ∈ List.replicate 9 lights, others ≠ [] := by
    intro others hmem
    rw [List.eq_of_mem_replicate hmem]
    simp [lights]
  obtain ⟨-, hchain, -, hlevel, -⟩ :=
    hexact.2.2 before lights (List.replicate 9 lights) (by simp [lights]) hquiet
  refine ⟨by decide +kernel, hchain, ?_⟩
  rw [hlevel]
  norm_num

end Pulse

end LightShow
