import DisplayPowerMgr.BrightnessDimming
import DisplayPowerMgr.Library.Repeating

/-! A whole fade of `BrightnessDimming` with nothing in between: the levels it shows and how many
there are. -/
namespace DisplayPowerMgr

namespace BrightnessDimming

def turn (d : BrightnessDimming) : Repeating.Turn BrightnessDimming ℕ :=
  ⟨d.nextStep.dimming, d.nextStep.changed, d.nextStep.again⟩

theorem nextStep_again {d : BrightnessDimming} (h : d.nextStep.again = true) :
    ∃ v, d.nextStep.dimming =
      { d with currentStep := d.currentStep + 1, currentBrightness := v } := by
  revert h
  rw [nextStep]
  dsimp only
  repeat' split
  all_goals intro h
  all_goals first
    | exact ⟨_, rfl⟩
    | exact absurd h (by simp [finish])

structure Remaining (n : ℕ) (d : BrightnessDimming) : Prop where
  running : d.Running
  reach : d.distance ≤ d.stride.natAbs * (d.currentStep + n)

theorem Remaining.advances {n : ℕ} {d : BrightnessDimming} (h : Remaining (n + 1) d) :
    ∃ v, Repeating.Advances turn toBrightness currentBrightness (fun t => t.isDimming = false)
      Remaining n d v := by
  obtain ⟨v, hadv⟩ := h.running.nextStep_advances
  refine ⟨v, hadv.shown, hadv.closer, ?_⟩
  rcases hadv.outcome with ⟨hagain, hrun, hcur, _⟩ | ⟨hend, hidle, hv⟩
  · refine Or.inl ⟨hagain, ⟨hrun, ?_⟩, hadv.target, hcur⟩
    obtain ⟨w, hnext⟩ := nextStep_again hagain
    have hreach := h.reach
    have hcount : d.currentStep + 1 + n = d.currentStep + (n + 1) := by omega
    show (turn d).next.distance ≤ _
    rw [turn, hnext]
    exact hcount ▸ hreach
  · exact Or.inr ⟨hend, hidle, hv⟩

theorem not_remaining_zero (d : BrightnessDimming) : ¬ Remaining 0 d := by
  intro h
  have hun := h.running.unfinished
  have hreach := h.reach
  rw [Nat.add_zero] at hreach
  omega

/-- A stride of the even share needs at most twice the steps of the duration, less one: the rest
of the division is shorter than the duration has steps. -/
theorem share_covers {c n : ℕ} (hn : 0 < n) : c ≤ max 1 (c / n) * (2 * n - 1) := by
  rcases Nat.eq_zero_or_pos (c / n) with hz | hpos
  · have hsmall : c < n := (Nat.div_eq_zero_iff.mp hz).resolve_left (by omega)
    rw [hz, max_eq_left (Nat.zero_le 1)]
    omega
  · have hrest := Nat.mod_lt c hn
    have hdiv := Nat.div_add_mod c n
    have hshare : n - 1 ≤ c / n * (n - 1) := Nat.le_mul_of_pos_left _ hpos
    have hsplit : c / n * (2 * n - 1) = n * (c / n) + c / n * (n - 1) := by
      have hsum : 2 * n - 1 = n + (n - 1) := by omega
      rw [hsum, Nat.mul_add, Nat.mul_comm (c / n) n]
    rw [max_eq_right hpos]
    omega

theorem startDimming_remaining {d : BrightnessDimming} {f t duration : ℕ}
    (hd : d.isDimming = false) (hq : d.hasQueue = true) (hf : f < 2 ^ 31) (ht : t < 2 ^ 31)
    (hne : f ≠ t) (hdur : duration < 2 ^ 32) :
    Remaining (2 * stepsOf duration - 1) (d.startDimming f t duration).1 := by
  refine ⟨(startDimming_running hd hq hf ht hne hdur).2, ?_⟩
  have hc : (t : ℤ) - f ≠ 0 := by omega
  rw [startDimming_eq duration hd hq hf ht hne]
  dsimp only [distance]
  rw [natAbs_strideOf (stepsOf_lt hdur) hc, Nat.zero_add]
  exact share_covers (stepsOf_pos duration)

theorem stepsOf_eq (duration : ℕ) : stepsOf duration = max 1 (duration / 32) := by
  rw [stepsOf, DEFAULT_UPDATE_TIME]
  split
  · omega
  · omega

/-- A fade between different levels runs to its end: its levels go strictly from the start to the
target and end there, their number is bounded by the duration, and no fade is left. -/
theorem fade_reaches {d : BrightnessDimming} {f t duration : ℕ} (hd : d.isDimming = false)
    (hq : d.hasQueue = true) (hf : f < 2 ^ 31) (ht : t < 2 ^ 31) (hne : f ≠ t)
    (hdur : duration < 2 ^ 32) :
    (d.startDimming f t duration).2 = true ∧
      ∃ levels ended, Repeating.Executes turn (d.startDimming f t duration).1 levels ended ∧
        (∀ levels' ended', Repeating.Executes turn (d.startDimming f t duration).1 levels' ended' →
          levels' = levels ∧ ended' = ended) ∧
        ended.isDimming = false ∧
        Repeating.Reaches t f levels (2 * max 1 (duration / 32) - 1) := by
  have hstart := startDimming_remaining hd hq hf ht hne hdur
  obtain ⟨levels, ended, hexec, hover, hreach⟩ :=
    Repeating.executes_of_advances not_remaining_zero (fun _ _ h => h.advances) hstart
  refine ⟨(startDimming_running hd hq hf ht hne hdur).1, levels, ended, hexec, ?_, hover, ?_⟩
  · intro levels' ended' hexec'
    exact hexec.unique hexec'
  · rw [← stepsOf_eq]
    rw [startDimming_eq duration hd hq hf ht hne] at hreach
    exact hreach

/-- From 100 down to 90 in 128 milliseconds. -/
theorem fade_down_reaches :
    ∃ levels ended, Repeating.Executes turn (({} : BrightnessDimming).startDimming 100 90 128).1
        levels ended ∧ Repeating.Reaches 90 100 levels 7 := by
  obtain ⟨_, levels, ended, hexec, _, _, hreach⟩ :=
    @fade_reaches {} 100 90 128 rfl rfl (by decide) (by decide) (by decide) (by decide)
  exact ⟨levels, ended, hexec, hreach⟩

example : fade 9 (({} : BrightnessDimming).startDimming 100 90 128).1 = [98, 96, 94, 92, 90] := by
  decide

end BrightnessDimming

end DisplayPowerMgr
