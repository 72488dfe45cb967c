import DisplayPowerMgr.Library.Approach
import Mathlib.Data.Int.Order.Basic
import Mathlib.Tactic.Linarith
import Mathlib.Tactic.Ring

/-! `BrightnessDimming`: the fade that moves the level from one value to another in steps of
`mUpdateTime` milliseconds. Unsigned 32-bit arithmetic wraps as in the code. -/
namespace DisplayPowerMgr

/-- A 32-bit unsigned value of the two's complement integer. -/
def wrap32 (x : ℤ) : ℕ := (x % 2 ^ 32).toNat

def toInt32 (x : ℕ) : ℤ := if x < 2 ^ 31 then x else x - 2 ^ 32

theorem wrap32_of_lt {x : ℤ} (h₀ : 0 ≤ x) (h : x < 2 ^ 32) : wrap32 x = x.toNat := by
  rw [wrap32, Int.emod_eq_of_lt h₀ h]

theorem toInt32_of_lt {x : ℕ} (h : x < 2 ^ 31) : toInt32 x = x := if_pos h

structure BrightnessDimming where
  isDimming : Bool := false
  fromBrightness : ℕ := 0
  toBrightness : ℕ := 0
  currentBrightness : ℕ := 0
  duration : ℕ := 0
  totalSteps : ℕ := 0
  stride : ℤ := 0
  currentStep : ℕ := 0
  hasQueue : Bool := true
  deriving DecidableEq, Repr

namespace BrightnessDimming

def DEFAULT_UPDATE_TIME : ℕ := 32
def STRIDE_ABSOLUTE_MIN : ℤ := 1

/-- The number of steps that the duration allows. -/
def stepsOf (duration : ℕ) : ℕ :=
  if duration / DEFAULT_UPDATE_TIME < 1 then 1 else duration / DEFAULT_UPDATE_TIME

def strideOf (changeBrightness : ℤ) (totalSteps : ℕ) : ℤ :=
  let stride := changeBrightness.tdiv (toInt32 totalSteps)
  if |stride| < STRIDE_ABSOLUTE_MIN then
    changeBrightness.tdiv |changeBrightness| * STRIDE_ABSOLUTE_MIN
  else stride

/-- The steps that the stride really needs; the subtraction wraps when the stride was
raised to `STRIDE_ABSOLUTE_MIN`, and the addition wraps back. -/
def adjustedSteps (changeBrightness stride : ℤ) (totalSteps : ℕ) : ℕ :=
  if totalSteps > 1 ∧ |stride| ≥ 1 then
    wrap32 (wrap32 (changeBrightness.natAbs - stride.natAbs * totalSteps) / stride.natAbs
      + totalSteps)
  else totalSteps

/-- The boolean tells whether a `NextStep` task was submitted. -/
def startDimming (d : BrightnessDimming) (fromBrightness toBrightness duration : ℕ) :
    BrightnessDimming × Bool :=
  if d.isDimming then (d, false)
  else if !d.hasQueue then (d, false)
  else
    let totalSteps := stepsOf duration
    let changeBrightness := toInt32 toBrightness - toInt32 fromBrightness
    let d :=
      { d with
        fromBrightness := fromBrightness
        toBrightness := toBrightness
        currentBrightness := fromBrightness
        duration := duration
        totalSteps := totalSteps }
    if changeBrightness = 0 then (d, false)
    else
      let stride := strideOf changeBrightness totalSteps
      ({ d with
          stride := stride
          totalSteps := adjustedSteps changeBrightness stride totalSteps
          currentStep := 0
          isDimming := true }, true)

/-- What one `NextStep` does: the new state, the value handed to `OnChanged`, and whether
the next step was submitted. -/
structure StepOutcome where
  dimming : BrightnessDimming
  changed : Option ℕ
  again : Bool
  deriving DecidableEq, Repr

def finish (d : BrightnessDimming) : StepOutcome :=
  ⟨{ d with currentBrightness := d.toBrightness, isDimming := false }, some d.toBrightness, false⟩

def nextStep (d : BrightnessDimming) : StepOutcome :=
  if !d.isDimming then ⟨d, none, false⟩
  else if !d.hasQueue then ⟨d, none, false⟩
  else
    let d := { d with currentStep := d.currentStep + 1 }
    if d.currentStep ≤ d.totalSteps then
      let nextBrightness := wrap32 (d.currentBrightness + d.stride)
      let isOutRange :=
        if d.stride > 0 then nextBrightness ≥ d.toBrightness else nextBrightness ≤ d.toBrightness
      if isOutRange then d.finish
      else ⟨{ d with currentBrightness := nextBrightness }, some nextBrightness, true⟩
    else d.finish

/-- The first level a fade shows: one even share of the change on, at least one level. -/
def firstLevel (start target duration : ℕ) : ℕ :=
  if start < target then start + max 1 ((target - start) / stepsOf duration)
  else start - max 1 ((start - target) / stepsOf duration)

def distance (d : BrightnessDimming) : ℕ := ((d.toBrightness : ℤ) - d.fromBrightness).natAbs

/-- A fade between its start and its end. `room` is why no step passes the target or wraps:
the steps that are counted cover at most the whole distance. -/
structure Running (d : BrightnessDimming) : Prop where
  active : d.isDimming = true
  queue : d.hasQueue = true
  from_lt : d.fromBrightness < 2 ^ 31
  to_lt : d.toBrightness < 2 ^ 31
  direction : (0 < d.stride ∧ d.fromBrightness < d.toBrightness) ∨
    (d.stride < 0 ∧ d.toBrightness < d.fromBrightness)
  room : d.stride.natAbs * d.totalSteps ≤ d.distance
  position : (d.currentBrightness : ℤ) = d.fromBrightness + d.stride * d.currentStep
  unfinished : d.stride.natAbs * d.currentStep < d.distance

theorem nextStep_idle {d : BrightnessDimming} (h : d.isDimming = false) :
    d.nextStep = ⟨d, none, false⟩ := by
  simp [nextStep, h]

theorem nextStep_noQueue {d : BrightnessDimming} (h : d.hasQueue = false) :
    d.nextStep = ⟨d, none, false⟩ := by
  simp [nextStep, h]

/-- Every step of an active fade hands some level to `OnChanged`. -/
theorem nextStep_shows {d : BrightnessDimming} (h : d.isDimming = true) (hq : d.hasQueue = true) :
    ∃ v, d.nextStep.changed = some v := by
  rw [nextStep]
  simp only [h, hq, Bool.not_true, Bool.false_eq_true, if_false]
  repeat' split
  all_goals exact ⟨_, rfl⟩

theorem startDimming_hasQueue (d : BrightnessDimming) (f t duration : ℕ) :
    (d.startDimming f t duration).1.hasQueue = d.hasQueue := by
  rw [startDimming]
  dsimp only
  repeat' split
  all_goals rfl

theorem nextStep_hasQueue (d : BrightnessDimming) : d.nextStep.dimming.hasQueue = d.hasQueue := by
  rw [nextStep]
  dsimp only
  repeat' split
  all_goals rfl

theorem stepsOf_pos (duration : ℕ) : 0 < stepsOf duration := by
  rw [stepsOf]
  split <;> omega

theorem stepsOf_lt {duration : ℕ} (h : duration < 2 ^ 32) : stepsOf duration < 2 ^ 31 := by
  rw [stepsOf, DEFAULT_UPDATE_TIME]
  split <;> omega

private theorem tdiv_abs_self {c : ℤ} (hc : c ≠ 0) : c.tdiv |c| = c.sign := by
  rcases lt_or_gt_of_ne hc with h | h
  · rw [abs_of_neg h, Int.sign_eq_neg_one_of_neg h, Int.tdiv_neg, Int.tdiv_self hc]
  · rw [abs_of_pos h, Int.sign_eq_one_of_pos h, Int.tdiv_self hc]

private theorem strideOf_eq {c : ℤ} {n : ℕ} (hlt : n < 2 ^ 31) (hc : c ≠ 0) :
    strideOf c n = if (c.tdiv n).natAbs < 1 then c.sign else c.tdiv n := by
  simp only [strideOf, toInt32_of_lt hlt, STRIDE_ABSOLUTE_MIN, mul_one, tdiv_abs_self hc]
  congr 1
  rw [Int.abs_eq_natAbs]
  norm_cast

theorem natAbs_strideOf {c : ℤ} {n : ℕ} (hlt : n < 2 ^ 31) (hc : c ≠ 0) :
    (strideOf c n).natAbs = max 1 (c.natAbs / n) := by
  have habs : (c.tdiv n).natAbs = c.natAbs / n := Int.natAbs_tdiv c n
  rw [strideOf_eq hlt hc]
  split
  · have hsign : c.sign.natAbs = 1 := Int.natAbs_sign_of_ne_zero hc
    omega
  · omega

theorem strideOf_pos {c : ℤ} {n : ℕ} (hlt : n < 2 ^ 31) (hc : 0 < c) : 0 < strideOf c n := by
  have hdiv : 0 ≤ c.tdiv n := Int.tdiv_nonneg (by omega) (by omega)
  rw [strideOf_eq hlt (by omega)]
  split
  · rw [Int.sign_eq_one_of_pos hc]
    omega
  · omega

theorem strideOf_neg {c : ℤ} {n : ℕ} (hlt : n < 2 ^ 31) (hc : c < 0) : strideOf c n < 0 := by
  have hdiv : 0 ≤ (-c).tdiv n := Int.tdiv_nonneg (by omega) (by omega)
  rw [Int.neg_tdiv] at hdiv
  rw [strideOf_eq hlt (by omega)]
  split
  · rw [Int.sign_eq_neg_one_of_neg hc]
    omega
  · omega

/-- The counted steps are the strides that fit into the change, also where the subtraction
wraps. -/
theorem adjustedSteps_eq {c stride : ℤ} {n : ℕ} (hn : 0 < n) (hlt : n < 2 ^ 31) (hc : c ≠ 0)
    (hlim : c.natAbs < 2 ^ 31) (hk : stride.natAbs = max 1 (c.natAbs / n)) :
    adjustedSteps c stride n = c.natAbs / stride.natAbs := by
  have hstride : |stride| ≥ 1 := by
    rw [Int.abs_eq_natAbs, hk]
    omega
  rw [adjustedSteps]
  by_cases hone : n > 1
  · rw [if_pos ⟨hone, hstride⟩]
    rcases Nat.eq_zero_or_pos (c.natAbs / n) with hz | hz
    · -- the stride was raised to one: the difference is negative and wraps
      have hsmall : c.natAbs < n := (Nat.div_eq_zero_iff.mp hz).resolve_left (by omega)
      have hone : stride.natAbs = 1 := by omega
      rw [hone]
      simp only [wrap32]
      omega
    · have heq : stride.natAbs = c.natAbs / n := by omega
      have hle : stride.natAbs * n ≤ c.natAbs := heq ▸ Nat.div_mul_le_self _ _
      have hpos : 0 < stride.natAbs := by omega
      have hsub : wrap32 (c.natAbs - stride.natAbs * n) = c.natAbs - stride.natAbs * n := by
        rw [wrap32_of_lt (by omega) (by omega)]
        omega
      have hsum :
          (c.natAbs - stride.natAbs * n) / stride.natAbs + n = c.natAbs / stride.natAbs := by
        rw [Nat.sub_mul_div_of_le _ _ _ hle]
        have : n ≤ c.natAbs / stride.natAbs := by
          rw [Nat.le_div_iff_mul_le hpos, mul_comm]
          exact hle
        omega
      have hcast : ((c.natAbs - stride.natAbs * n : ℕ) : ℤ) / stride.natAbs + n =
          (c.natAbs / stride.natAbs : ℕ) := by exact_mod_cast hsum
      have hdiv : c.natAbs / stride.natAbs < 2 ^ 32 :=
        lt_of_le_of_lt (Nat.div_le_self _ _) (by omega)
      rw [hsub, hcast, wrap32_of_lt (Int.natCast_nonneg _) (by exact_mod_cast hdiv)]
      exact Int.toNat_natCast _
  · have hn : n = 1 := by omega
    have hpos : 0 < c.natAbs := Int.natAbs_pos.mpr hc
    rw [if_neg (fun h => hone h.1), hk, hn, Nat.div_one, max_eq_right hpos, Nat.div_self hpos]

/-! ## Strides

A level `cur` that lies `j` strides from `f` on the way to `t`. -/

section Strides

variable {f t cur j : ℕ} {stride : ℤ}

theorem stride_ahead (hdir : (0 < stride ∧ f < t) ∨ (stride < 0 ∧ t < f))
    (hpos : (cur : ℤ) = f + stride * j) (hun : stride.natAbs * j < ((t : ℤ) - f).natAbs) :
    (0 < stride ∧ cur < t) ∨ (stride < 0 ∧ t < cur) := by
  have hun : (stride.natAbs : ℤ) * j < ((t : ℤ) - f).natAbs := by exact_mod_cast hun
  rcases hdir with ⟨hs, hft⟩ | ⟨hs, hft⟩
  · have habs : (stride.natAbs : ℤ) = stride := by omega
    rw [habs] at hun
    exact Or.inl ⟨hs, by omega⟩
  · have habs : (stride.natAbs : ℤ) = -stride := by omega
    rw [habs, neg_mul] at hun
    exact Or.inr ⟨hs, by omega⟩

/-- One stride more within the distance neither wraps nor passes the end. -/
theorem stride_inside (hf : f < 2 ^ 31) (ht : t < 2 ^ 31)
    (hdir : (0 < stride ∧ f < t) ∨ (stride < 0 ∧ t < f)) (hpos : (cur : ℤ) = f + stride * j)
    (hcover : stride.natAbs * (j + 1) ≤ ((t : ℤ) - f).natAbs) :
    (wrap32 (cur + stride) : ℤ) = cur + stride ∧
      ((0 < stride ∧ cur + stride ≤ t) ∨ (stride < 0 ∧ t ≤ cur + stride)) := by
  have hcover : (stride.natAbs : ℤ) * j + stride.natAbs ≤ ((t : ℤ) - f).natAbs := by
    rw [Nat.mul_succ] at hcover
    omega
  rcases hdir with ⟨hs, hft⟩ | ⟨hs, hft⟩
  · have habs : (stride.natAbs : ℤ) = stride := by omega
    rw [habs] at hcover
    refine ⟨?_, Or.inl ⟨hs, by omega⟩⟩
    rw [wrap32_of_lt (by omega) (by omega)]
    omega
  · have habs : (stride.natAbs : ℤ) = -stride := by omega
    have hback : stride * j ≤ 0 := mul_nonpos_of_nonpos_of_nonneg (by omega) (by omega)
    rw [habs, neg_mul] at hcover
    refine ⟨?_, Or.inr ⟨hs, by omega⟩⟩
    rw [wrap32_of_lt (by omega) (by omega)]
    omega

theorem stride_unfinished {v : ℕ} (hdir : (0 < stride ∧ f < t) ∨ (stride < 0 ∧ t < f))
    (hpos : (cur : ℤ) = f + stride * j) (hv : (v : ℤ) = cur + stride) (hend : v ≠ t)
    (hcover : stride.natAbs * (j + 1) ≤ ((t : ℤ) - f).natAbs) :
    stride.natAbs * (j + 1) < ((t : ℤ) - f).natAbs := by
  refine lt_of_le_of_ne hcover fun hall => hend ?_
  have hall : (stride.natAbs : ℤ) * j + stride.natAbs = ((t : ℤ) - f).natAbs := by
    rw [Nat.mul_succ] at hall
    omega
  rcases hdir with ⟨hs, hft⟩ | ⟨hs, hft⟩
  · have habs : (stride.natAbs : ℤ) = stride := by omega
    rw [habs] at hall
    omega
  · have habs : (stride.natAbs : ℤ) = -stride := by omega
    rw [habs, neg_mul] at hall
    omega

end Strides

/-- Without a queue, or without a change as `int32_t`, no fade is started. -/
theorem startDimming_level {d : BrightnessDimming} {f t : ℕ} (hd : d.isDimming = false)
    (h : d.hasQueue = false ∨ toInt32 t - toInt32 f = 0) (duration : ℕ) :
    (d.startDimming f t duration).2 = false ∧
      (d.startDimming f t duration).1.isDimming = false := by
  rw [startDimming, if_neg (by simp [hd])]
  rcases h with hqueue | hzero
  · rw [if_pos (by simp [hqueue])]
    exact ⟨rfl, hd⟩
  · split
    · exact ⟨rfl, hd⟩
    · dsimp only
      rw [if_pos hzero]
      exact ⟨rfl, hd⟩

theorem startDimming_stays {d : BrightnessDimming} {f t : ℕ} (hd : d.isDimming = false)
    (h : d.hasQueue = false ∨ f = t) (duration : ℕ) :
    (d.startDimming f t duration).2 = false ∧
      (d.startDimming f t duration).1.isDimming = false := by
  refine startDimming_level hd (h.imp_right ?_) duration
  rintro rfl
  exact sub_self _

theorem startDimming_eq {d : BrightnessDimming} {f t : ℕ} (duration : ℕ)
    (hd : d.isDimming = false) (hq : d.hasQueue = true) (hf : f < 2 ^ 31) (ht : t < 2 ^ 31)
    (hne : f ≠ t) :
    d.startDimming f t duration =
      ({ d with
          fromBrightness := f
          toBrightness := t
          currentBrightness := f
          duration := duration
          stride := strideOf (t - f) (stepsOf duration)
          totalSteps := adjustedSteps (t - f) (strideOf (t - f) (stepsOf duration))
            (stepsOf duration)
          currentStep := 0
          isDimming := true }, true) := by
  have hc : (t : ℤ) - f ≠ 0 := by omega
  simp only [startDimming, hd, hq, toInt32_of_lt hf, toInt32_of_lt ht, hc]
  rfl

/-- Between different levels the fade starts, one `NextStep` is submitted and the fade is
`Running`. -/
theorem startDimming_running {d : BrightnessDimming} {f t duration : ℕ}
    (hd : d.isDimming = false) (hq : d.hasQueue = true) (hf : f < 2 ^ 31) (ht : t < 2 ^ 31)
    (hne : f ≠ t) (hdur : duration < 2 ^ 32) :
    (d.startDimming f t duration).2 = true ∧ (d.startDimming f t duration).1.Running := by
  have hc : (t : ℤ) - f ≠ 0 := by omega
  have hlim : ((t : ℤ) - f).natAbs < 2 ^ 31 := by omega
  have hsteps := stepsOf_pos duration
  have hsteps_lt := stepsOf_lt hdur
  have hk := natAbs_strideOf hsteps_lt hc
  rw [startDimming_eq duration hd hq hf ht hne]
  refine ⟨rfl, rfl, hq, hf, ht, ?_, ?_, ?_, ?_⟩
  · rcases lt_or_gt_of_ne hc with h | h
    · exact Or.inr ⟨strideOf_neg hsteps_lt h, by show t < f; omega⟩
    · exact Or.inl ⟨strideOf_pos hsteps_lt h, by show f < t; omega⟩
  · rw [adjustedSteps_eq hsteps hsteps_lt hc hlim hk]
    exact Nat.mul_div_le _ _
  · simp
  · simp only [mul_zero, distance]
    omega

/-- What one step of a running fade does: it shows a level closer to the target and either
goes on as a running fade from that level or has reached the target and is over. -/
structure Advances (d : BrightnessDimming) (v : ℕ) (o : StepOutcome) : Prop where
  shown : o.changed = some v
  closer : Approach.StrictlyToward d.toBrightness d.currentBrightness v
  target : o.dimming.toBrightness = d.toBrightness
  outcome : (o.again = true ∧ o.dimming.Running ∧ o.dimming.currentBrightness = v ∧
      o.dimming.distance - o.dimming.currentStep < d.distance - d.currentStep) ∨
    (o.again = false ∧ o.dimming.isDimming = false ∧ v = d.toBrightness)

theorem Running.ahead {d : BrightnessDimming} (h : d.Running) :
    (0 < d.stride ∧ d.currentBrightness < d.toBrightness) ∨
      (d.stride < 0 ∧ d.toBrightness < d.currentBrightness) :=
  stride_ahead h.direction h.position h.unfinished

theorem Running.finish_advances {d : BrightnessDimming} (h : d.Running) (step : ℕ) :
    d.Advances d.toBrightness (finish { d with currentStep := step }) := by
  refine ⟨rfl, ?_, rfl, Or.inr ⟨rfl, rfl, rfl⟩⟩
  rcases h.ahead with ⟨_, hlt⟩ | ⟨_, hlt⟩
  · exact Or.inl ⟨hlt, le_rfl⟩
  · exact Or.inr ⟨le_rfl, hlt⟩

/-- While counted steps are left, the next level is one stride on: it is neither wrapped nor
past the target. -/
theorem Running.next_inside {d : BrightnessDimming} (h : d.Running)
    (hleft : d.currentStep + 1 ≤ d.totalSteps) :
    d.stride.natAbs * (d.currentStep + 1) ≤ d.distance ∧
      (wrap32 (d.currentBrightness + d.stride) : ℤ) = d.currentBrightness + d.stride ∧
      ((0 < d.stride ∧ d.currentBrightness + d.stride ≤ d.toBrightness) ∨
        (d.stride < 0 ∧ d.toBrightness ≤ d.currentBrightness + d.stride)) := by
  have hcover : d.stride.natAbs * (d.currentStep + 1) ≤ d.distance :=
    le_trans (Nat.mul_le_mul_left _ hleft) h.room
  exact ⟨hcover, stride_inside h.from_lt h.to_lt h.direction h.position hcover⟩

theorem Running.nextStep_inside {d : BrightnessDimming} (h : d.Running) {v : ℕ}
    (hleft : d.currentStep + 1 ≤ d.totalSteps) (hv : wrap32 (d.currentBrightness + d.stride) = v) :
    d.nextStep =
      if v = d.toBrightness then finish { d with currentStep := d.currentStep + 1 }
      else ⟨{ d with currentStep := d.currentStep + 1, currentBrightness := v }, some v, true⟩ := by
  obtain ⟨_, hwrap, hside⟩ := h.next_inside hleft
  rw [hv] at hwrap
  by_cases hend : v = d.toBrightness
  · simp [nextStep, h.active, h.queue, hleft, hv, hend]
  · have hin : ¬ (if d.stride > 0 then v ≥ d.toBrightness else v ≤ d.toBrightness) := by
      rcases hside with ⟨hs, hle⟩ | ⟨hs, hle⟩
      · rw [if_pos hs]
        omega
      · rw [if_neg (by omega)]
        omega
    simp [nextStep, h.active, h.queue, hleft, hv, hin, hend]

theorem Running.nextStep_advances {d : BrightnessDimming} (h : d.Running) :
    ∃ v, d.Advances v d.nextStep := by
  by_cases hleft : d.currentStep + 1 ≤ d.totalSteps
  · obtain ⟨hcover, hwrap, hside⟩ := h.next_inside hleft
    generalize hv : wrap32 (d.currentBrightness + d.stride) = v at hwrap
    have hstep := h.nextStep_inside hleft hv
    by_cases hend : v = d.toBrightness
    · rw [if_pos hend] at hstep
      exact ⟨_, hstep ▸ h.finish_advances _⟩
    · rw [if_neg hend] at hstep
      have hpos := h.position
      have hun := h.unfinished
      refine ⟨v, hstep ▸ ⟨rfl, ?_, rfl, Or.inl ⟨rfl, ?_, rfl, ?_⟩⟩⟩
      · rcases hside with ⟨hs, hle⟩ | ⟨hs, hle⟩
        · exact Or.inl ⟨by omega, by omega⟩
        · exact Or.inr ⟨by omega, by omega⟩
      · refine ⟨h.active, h.queue, h.from_lt, h.to_lt, h.direction, h.room, ?_, ?_⟩
        · show (v : ℤ) = d.fromBrightness + d.stride * (d.currentStep + 1 : ℕ)
          push_cast
          linarith
        · exact stride_unfinished h.direction hpos hwrap hend hcover
      · show d.distance - (d.currentStep + 1) < d.distance - d.currentStep
        have hle : d.currentStep ≤ d.stride.natAbs * d.currentStep :=
          Nat.le_mul_of_pos_left _ (by rcases h.direction with ⟨hs, _⟩ | ⟨hs, _⟩ <;> omega)
        omega
  · have hstep : d.nextStep = finish { d with currentStep := d.currentStep + 1 } := by
      simp [nextStep, h.active, h.queue, hleft]
    exact ⟨_, hstep ▸ h.finish_advances _⟩

theorem startDimming_firstLevel {d : BrightnessDimming} {f t duration : ℕ}
    (hd : d.isDimming = false) (hq : d.hasQueue = true) (hf : f < 2 ^ 31) (ht : t < 2 ^ 31)
    (hne : f ≠ t) (hdur : duration < 2 ^ 32) :
    (d.startDimming f t duration).1.nextStep.changed = some (firstLevel f t duration) := by
  have hrun := (startDimming_running hd hq hf ht hne hdur).2
  rw [startDimming_eq duration hd hq hf ht hne] at hrun ⊢
  have hc : (t : ℤ) - f ≠ 0 := by omega
  have hsteps := stepsOf_pos duration
  have hsteps_lt := stepsOf_lt hdur
  have hk := natAbs_strideOf hsteps_lt hc
  have hfit := Nat.div_le_self ((t : ℤ) - f).natAbs (stepsOf duration)
  have hone : 0 + 1 ≤ adjustedSteps (t - f) (strideOf (t - f) (stepsOf duration))
      (stepsOf duration) := by
    rw [adjustedSteps_eq hsteps hsteps_lt hc (by omega) hk]
    exact Nat.div_pos (by omega) (by omega)
  obtain ⟨_, hwrap, hside⟩ := hrun.next_inside hone
  generalize hv : wrap32 ((f : ℤ) + strideOf (t - f) (stepsOf duration)) = v at hwrap
  have hstep := hrun.nextStep_inside hone hv
  have hfirst : v = firstLevel f t duration := by
    simp only at hwrap hside
    rw [firstLevel]
    rcases lt_or_gt_of_ne hne with h | h
    · have habs : ((t : ℤ) - f).natAbs = t - f := by omega
      rw [habs] at hk
      rw [if_pos h]
      omega
    · have habs : ((t : ℤ) - f).natAbs = f - t := by omega
      rw [habs] at hk
      rw [if_neg (by omega)]
      omega
  rw [hstep, ← hfirst]
  split
  · rename_i hend
    rw [hend]
    rfl
  · rfl

def afterSteps : ℕ → BrightnessDimming → BrightnessDimming
  | 0, d => d
  | n + 1, d => afterSteps n d.nextStep.dimming

def fade : ℕ → BrightnessDimming → List ℕ
  | 0, _ => []
  | n + 1, d => d.nextStep.changed.toList ++ fade n d.nextStep.dimming

theorem afterSteps_succ (n : ℕ) (d : BrightnessDimming) :
    afterSteps (n + 1) d = (afterSteps n d).nextStep.dimming := by
  induction n generalizing d with
  | zero => rfl
  | succ n ih => exact ih d.nextStep.dimming

theorem fade_succ (n : ℕ) (d : BrightnessDimming) :
    fade (n + 1) d = fade n d ++ (afterSteps n d).nextStep.changed.toList := by
  induction n generalizing d with
  | zero => simp [fade, afterSteps]
  | succ n ih =>
    rw [fade, ih d.nextStep.dimming, ← List.append_assoc]
    rfl

theorem afterSteps_idle {d : BrightnessDimming} (h : d.isDimming = false) (n : ℕ) :
    afterSteps n d = d := by
  induction n with
  | zero => rfl
  | succ n ih => rw [afterSteps_succ, ih, nextStep_idle h]

theorem fade_idle {d : BrightnessDimming} (h : d.isDimming = false) (n : ℕ) : fade n d = [] := by
  induction n with
  | zero => rfl
  | succ n ih => simp [fade_succ, ih, afterSteps_idle h, nextStep_idle h]

theorem Running.fade_strictlyMonotonic {d : BrightnessDimming} (h : d.Running) (n : ℕ) :
    Approach.StrictlyMonotonic d.toBrightness d.currentBrightness (fade n d) := by
  induction n generalizing d with
  | zero => exact Approach.strictlyMonotonic_nil
  | succ n ih =>
    obtain ⟨v, hadv⟩ := h.nextStep_advances
    rw [fade, hadv.shown, Option.toList_some, List.singleton_append,
      Approach.strictlyMonotonic_cons]
    refine ⟨hadv.closer, ?_⟩
    rcases hadv.outcome with ⟨_, hrun, hcur, _⟩ | ⟨_, hidle, _⟩
    · rw [← hadv.target, ← hcur]
      exact ih hrun
    · rw [fade_idle hidle]
      exact Approach.strictlyMonotonic_nil

theorem Running.fade_getLast {d : BrightnessDimming} (h : d.Running) {n : ℕ}
    (hend : (afterSteps n d).isDimming = false) : (fade n d).getLast? = some d.toBrightness := by
  induction n generalizing d with
  | zero =>
    rw [afterSteps, h.active] at hend
    cases hend
  | succ n ih =>
    obtain ⟨v, hadv⟩ := h.nextStep_advances
    rw [fade, hadv.shown, Option.toList_some, List.singleton_append]
    rcases hadv.outcome with ⟨_, hrun, _, _⟩ | ⟨_, hidle, hv⟩
    · rw [List.getLast?_cons, ih hrun hend, hadv.target]
      rfl
    · rw [fade_idle hidle, hv]
      rfl

theorem fade_head {d : BrightnessDimming} {v : ℕ} (hv : d.nextStep.changed = some v) (n : ℕ) :
    ∃ rest, fade (n + 1) d = v :: rest :=
  ⟨fade n d.nextStep.dimming, by rw [fade, hv]; rfl⟩

end BrightnessDimming

end DisplayPowerMgr
