import DisplayPowerMgr.AdjustBrightness
import DisplayPowerMgr.Library.Repeating

/-! A whole animation of a `GradualAnimator` with nothing in between: the levels it hands to its
callback and how many there are. -/
namespace DisplayPowerMgr

namespace GradualAnimator

/-- The level of `OnChanged`: every step of a running animation hands over the level it leaves. -/
def onChanged (a : GradualAnimator) : Option ℕ :=
  if a.animating then some a.nextStep.1.currentBrightness else none

/-- `NextStep` as a task that submits itself. -/
def turn (a : GradualAnimator) : Repeating.Turn GradualAnimator ℕ :=
  ⟨a.nextStep.1, a.onChanged, a.nextStep.2⟩

def stepsOf (duration : ℕ) : ℕ :=
  if duration / DEFAULT_UPDATE_TIME < 1 then 1 else duration / DEFAULT_UPDATE_TIME

theorem stepsOf_eq (duration : ℕ) : stepsOf duration = max 1 (duration / 30) := by
  rw [stepsOf, DEFAULT_UPDATE_TIME]
  split
  · omega
  · omega

def distance (a : GradualAnimator) : ℕ := ((a.toBrightness : ℤ) - a.fromBrightness).natAbs

/-- An animation between its start and its end. `room` is why no counted step passes the target:
the stride is one, or all the steps together stay within the distance. -/
structure Running (a : GradualAnimator) : Prop where
  active : a.animating = true
  from_lt : a.fromBrightness < 2 ^ 31
  to_lt : a.toBrightness < 2 ^ 31
  direction : (0 < a.stride ∧ a.fromBrightness < a.toBrightness) ∨
    (a.stride < 0 ∧ a.toBrightness < a.fromBrightness)
  room : a.stride.natAbs = 1 ∨ a.stride.natAbs * a.totalSteps ≤ a.distance
  position : (a.currentBrightness : ℤ) = a.fromBrightness + a.stride * a.currentStep
  unfinished : a.stride.natAbs * a.currentStep < a.distance
  counted : a.currentStep < a.totalSteps

theorem startAnimation_eq {a : GradualAnimator} {f t : ℕ} (duration : ℕ)
    (ha : a.animating = false) (hf : f < 2 ^ 31) (ht : t < 2 ^ 31) (hne : f ≠ t) :
    a.startAnimation f t duration =
      ({ a with
          fromBrightness := f
          toBrightness := t
          currentBrightness := f
          duration := duration
          totalSteps := stepsOf duration
          stride := BrightnessDimming.strideOf (t - f) (stepsOf duration)
          currentStep := 0
          animating := true }, true) := by
  have hc : (t : ℤ) - f ≠ 0 := by omega
  simp only [startAnimation, ha, toInt32_of_lt hf, toInt32_of_lt ht, hc]
  rfl

theorem startAnimation_running {a : GradualAnimator} {f t duration : ℕ}
    (ha : a.animating = false) (hf : f < 2 ^ 31) (ht : t < 2 ^ 31) (hne : f ≠ t)
    (hdur : duration < 2 ^ 32) : (a.startAnimation f t duration).1.Running := by
  have hc : (t : ℤ) - f ≠ 0 := by omega
  have hsteps := stepsOf_eq duration
  have hsteps_lt : stepsOf duration < 2 ^ 31 := by omega
  have hk := BrightnessDimming.natAbs_strideOf hsteps_lt hc
  rw [startAnimation_eq duration ha hf ht hne]
  refine ⟨rfl, hf, ht, ?_, ?_, ?_, ?_, ?_⟩
  · rcases lt_or_gt_of_ne hc with h | h
    · exact Or.inr ⟨BrightnessDimming.strideOf_neg hsteps_lt h, by show t < f; omega⟩
    · exact Or.inl ⟨BrightnessDimming.strideOf_pos hsteps_lt h, by show f < t; omega⟩
  · rcases Nat.eq_zero_or_pos (((t : ℤ) - f).natAbs / stepsOf duration) with hz | hpos
    · exact Or.inl (by rw [hk, hz]; rfl)
    · refine Or.inr ?_
      rw [hk, max_eq_right hpos]
      exact Nat.div_mul_le_self _ _
  · simp
  · simp only [mul_zero, distance]
    omega
  · show 0 < stepsOf duration
    omega

theorem Running.ahead {a : GradualAnimator} (h : a.Running) :
    Approach.StrictlyToward a.toBrightness a.currentBrightness a.toBrightness := by
  rcases BrightnessDimming.stride_ahead h.direction h.position h.unfinished with ⟨_, hlt⟩ | ⟨_, hlt⟩
  · exact Or.inl ⟨hlt, le_rfl⟩
  · exact Or.inr ⟨le_rfl, hlt⟩

theorem Running.next_covers {a : GradualAnimator} (h : a.Running)
    (hleft : a.currentStep + 1 < a.totalSteps) :
    a.stride.natAbs * (a.currentStep + 1) ≤ a.distance := by
  have hun := h.unfinished
  rcases h.room with hone | hroom
  · rw [hone] at hun ⊢
    omega
  · exact le_trans (Nat.mul_le_mul_left _ (le_of_lt hleft)) hroom

def finish (a : GradualAnimator) : GradualAnimator × Bool :=
  ({ a with currentBrightness := a.toBrightness, animating := false }, false)

theorem Running.nextStep_inside {a : GradualAnimator} (h : a.Running) {v : ℕ}
    (hleft : a.currentStep + 1 < a.totalSteps) (hv : wrap32 (a.currentBrightness + a.stride) = v) :
    a.nextStep =
      if v = a.toBrightness then finish { a with currentStep := a.currentStep + 1 }
      else ({ a with currentStep := a.currentStep + 1, currentBrightness := v }, true) := by
  obtain ⟨hwrap, hside⟩ := BrightnessDimming.stride_inside h.from_lt h.to_lt h.direction
    h.position (h.next_covers hleft)
  rw [hv] at hwrap
  by_cases hend : v = a.toBrightness
  · simp [nextStep, finish, h.active, hleft, hv, hend]
  · have hin : ¬ (if a.stride > 0 then v ≥ a.toBrightness else v ≤ a.toBrightness) := by
      rcases hside with ⟨hs, hle⟩ | ⟨hs, hle⟩
      · rw [if_pos hs]
        omega
      · rw [if_neg (by omega)]
        omega
    simp [nextStep, h.active, hleft, hv, hin, hend]

theorem Running.nextStep_last {a : GradualAnimator} (h : a.Running)
    (hleft : ¬ a.currentStep + 1 < a.totalSteps) :
    a.nextStep = finish { a with currentStep := a.currentStep + 1 } := by
  simp [nextStep, finish, h.active, hleft]

structure Remaining (n : ℕ) (a : GradualAnimator) : Prop where
  running : a.Running
  reach : a.totalSteps ≤ a.currentStep + n

theorem Running.turn_finish {a : GradualAnimator} (h : a.Running) {n step : ℕ}
    (hstep : a.nextStep = finish { a with currentStep := step }) :
    Repeating.Advances turn toBrightness currentBrightness (fun b => b.animating = false)
      Remaining n a a.toBrightness where
  shown := by simp [turn, onChanged, h.active, hstep, finish]
  closer := h.ahead
  outcome := Or.inr ⟨by simp [turn, hstep, finish], by simp [turn, hstep, finish], rfl⟩

theorem Remaining.advances {n : ℕ} {a : GradualAnimator} (h : Remaining (n + 1) a) :
    ∃ v, Repeating.Advances turn toBrightness currentBrightness (fun b => b.animating = false)
      Remaining n a v := by
  have hrun := h.running
  by_cases hleft : a.currentStep + 1 < a.totalSteps
  · have hcover := hrun.next_covers hleft
    obtain ⟨hwrap, hside⟩ := BrightnessDimming.stride_inside hrun.from_lt hrun.to_lt
      hrun.direction hrun.position hcover
    generalize hv : wrap32 (a.currentBrightness + a.stride) = v at hwrap
    have hstep := hrun.nextStep_inside hleft hv
    by_cases hend : v = a.toBrightness
    · rw [if_pos hend] at hstep
      exact ⟨_, hrun.turn_finish hstep⟩
    · rw [if_neg hend] at hstep
      have hnext : (turn a).next =
          { a with currentStep := a.currentStep + 1, currentBrightness := v } := by
        simp [turn, hstep]
      refine ⟨v, by simp [turn, onChanged, hrun.active, hstep], ?_,
        Or.inl ⟨by simp [turn, hstep], ?_, by rw [hnext], by rw [hnext]⟩⟩
      · rcases hside with ⟨hs, hle⟩ | ⟨hs, hle⟩
        · exact Or.inl ⟨by omega, by omega⟩
        · exact Or.inr ⟨by omega, by omega⟩
      · rw [hnext]
        refine ⟨⟨hrun.active, hrun.from_lt, hrun.to_lt, hrun.direction, hrun.room, ?_, ?_, hleft⟩,
          ?_⟩
        · have hpos := hrun.position
          show (v : ℤ) = a.fromBrightness + a.stride * (a.currentStep + 1 : ℕ)
          push_cast
          linarith
        · exact BrightnessDimming.stride_unfinished hrun.direction hrun.position hwrap hend hcover
        · have hreach := h.reach
          show a.totalSteps ≤ a.currentStep + 1 + n
          omega
  · exact ⟨_, hrun.turn_finish (hrun.nextStep_last hleft)⟩

theorem not_remaining_zero (a : GradualAnimator) : ¬ Remaining 0 a := by
  intro h
  have hcount := h.running.counted
  have hreach := h.reach
  omega

/-- An animation between different levels runs to its end: its levels go strictly from the start
to the target and end there, they are not more than the steps of the duration, and nothing is
animated any more. -/
theorem animation_reaches {a : GradualAnimator} {f t duration : ℕ} (ha : a.animating = false)
    (hf : f < 2 ^ 31) (ht : t < 2 ^ 31) (hne : f ≠ t) (hdur : duration < 2 ^ 32) :
    (a.startAnimation f t duration).2 = true ∧
      ∃ levels ended, Repeating.Executes turn (a.startAnimation f t duration).1 levels ended ∧
        (∀ levels' ended',
          Repeating.Executes turn (a.startAnimation f t duration).1 levels' ended' →
            levels' = levels ∧ ended' = ended) ∧
        ended.animating = false ∧ Repeating.Reaches t f levels (max 1 (duration / 30)) := by
  have heq := startAnimation_eq duration ha hf ht hne
  have hstart : Remaining (stepsOf duration) (a.startAnimation f t duration).1 := by
    refine ⟨startAnimation_running ha hf ht hne hdur, ?_⟩
    rw [heq]
    exact Nat.le_add_left _ _
  obtain ⟨levels, ended, hexec, hover, hreach⟩ :=
    Repeating.executes_of_advances not_remaining_zero (fun _ _ h => h.advances) hstart
  refine ⟨by rw [heq], levels, ended, hexec, ?_, hover, ?_⟩
  · intro levels' ended' hexec'
    exact hexec.unique hexec'
  · rw [← stepsOf_eq]
    rw [heq] at hreach
    exact hreach

/-- From 10 up to 55 in 120 milliseconds. -/
theorem animation_up_reaches :
    ∃ levels ended, Repeating.Executes turn (({} : GradualAnimator).startAnimation 10 55 120).1
        levels ended ∧ Repeating.Reaches 55 10 levels 4 := by
  obtain ⟨_, levels, ended, hexec, _, _, hreach⟩ :=
    @animation_reaches {} 10 55 120 rfl (by decide) (by decide) (by decide) (by decide)
  exact ⟨levels, ended, hexec, hreach⟩

end GradualAnimator

end DisplayPowerMgr
