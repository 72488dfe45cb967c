import DisplayPowerMgr.BrightnessRuns
import Mathlib.Algebra.Order.Field.Basic

/-! The bounds that hold in every reachable state of `BrightnessService`, which keep the signed
and the wrapping arithmetic of a fade away from its limits. -/
namespace DisplayPowerMgr

namespace BrightnessService

/-- Setting, caps and queued setting writes stay within a non-negative 32-bit integer. -/
structure BoundedBy (settings : SettingStore) (valueMax valueMin : ℕ)
    (tasks : Tasks BrightnessTask) : Prop where
  setting : ∀ value ∈ settings.brightness, value < 2 ^ 31
  valueMax : valueMax < 2 ^ 31
  valueMin : valueMin < 2 ^ 31
  queued : ∀ id value, (id, .settingBrightness value) ∈ tasks.pending → value < 2 ^ 31

def Bounded (bs : BrightnessService) : Prop :=
  BoundedBy bs.settings bs.brightnessValueMax bs.brightnessValueMin bs.tasks

theorem BoundedBy.of_subset {settings : SettingStore} {valueMax valueMin : ℕ}
    {tasks tasks' : Tasks BrightnessTask} (h : BoundedBy settings valueMax valueMin tasks)
    (hsub : ∀ p ∈ tasks'.pending, p ∈ tasks.pending) :
    BoundedBy settings valueMax valueMin tasks' :=
  ⟨h.setting, h.valueMax, h.valueMin, fun id value hp => h.queued id value (hsub _ hp)⟩

theorem BoundedBy.submit {settings : SettingStore} {valueMax valueMin : ℕ}
    {tasks : Tasks BrightnessTask} (h : BoundedBy settings valueMax valueMin tasks)
    {task : BrightnessTask} (ht : ∀ value, task = .settingBrightness value → value < 2 ^ 31) :
    BoundedBy settings valueMax valueMin (tasks.submit task) := by
  refine ⟨h.setting, h.valueMax, h.valueMin, ?_⟩
  intro id value hp
  rcases List.mem_append.mp hp with hp | hp
  · exact h.queued id value hp
  · simp only [List.mem_singleton, Prod.mk.injEq] at hp
    exact ht value hp.2.symm

theorem Bounded.getSettingBrightness_lt {bs : BrightnessService} (h : Bounded bs) :
    bs.getSettingBrightness < 2 ^ 31 := by
  rw [getSettingBrightness]
  cases hs : bs.settings.brightness with
  | none => decide
  | some value => exact h.setting value hs

theorem Bounded.getSafeBrightness_lt {bs : BrightnessService} (h : Bounded bs) (value : ℕ) :
    bs.getSafeBrightness value < 2 ^ 31 := by
  have hmax := h.valueMax
  have hmin := h.valueMin
  unfold getSafeBrightness
  dsimp only
  repeat' split
  all_goals omega

theorem Bounded.submit {bs : BrightnessService} (h : Bounded bs) {task : BrightnessTask}
    (ht : ∀ value, task = .settingBrightness value → value < 2 ^ 31) :
    Bounded (bs.submitTask task) :=
  BoundedBy.submit h ht

theorem Bounded.stopIfDimming {bs : BrightnessService} (h : Bounded bs) :
    Bounded bs.stopIfDimming := by
  rw [BrightnessService.stopIfDimming]
  split
  · apply BoundedBy.of_subset h
    intro p hp
    exact mem_ffrtCancel hp
  · exact h

theorem Bounded.submitNextStep {bs : BrightnessService} (h : Bounded bs) :
    Bounded bs.submitNextStep :=
  BoundedBy.submit h (by simp)

theorem Bounded.startDimming {bs : BrightnessService} (h : Bounded bs) (f t duration : ℕ) :
    Bounded (bs.startDimming f t duration) := by
  rw [BrightnessService.startDimming]
  dsimp only
  split
  · exact Bounded.submitNextStep h
  · exact h

theorem Bounded.updateBrightness {bs : BrightnessService} (h : Bounded bs) (value duration : ℕ)
    (updateSetting : Bool) : Bounded (bs.updateBrightness value duration updateSetting).1 := by
  have hh : Bounded bs.halted := Bounded.stopIfDimming h
  rcases Nat.eq_zero_or_pos duration with rfl | hd
  · rw [updateBrightness_now]
    dsimp only
    split
    · refine Bounded.submit hh ?_
      rintro _ ⟨⟩
      exact h.getSafeBrightness_lt value
    · exact hh
  · rw [updateBrightness_gradual bs hd]
    exact hh.startDimming _ _ _

theorem Bounded.of_sensors {a b : BrightnessService} (h : Bounded a) (hab : SameButSensors a b) :
    Bounded b := by
  rw [Bounded]
  rw [hab]
  exact ⟨h.setting, h.valueMax, h.valueMin, h.queued⟩

theorem Bounded.setSettingBrightness {bs : BrightnessService} (h : Bounded bs) {value : ℕ}
    (hv : value < 2 ^ 31) : Bounded (bs.setSettingBrightness value) := by
  refine ⟨?_, h.valueMax, h.valueMin, h.queued⟩
  intro w hw
  obtain ⟨_, _, rfl⟩ := Option.map_eq_some_iff.mp hw
  exact hv

theorem Bounded.setBrightness {bs : BrightnessService} (h : Bounded bs) (value duration : ℕ)
    (continuous : Bool) : Bounded (bs.setBrightness value duration continuous).1 := by
  rw [BrightnessService.setBrightness]
  split
  · exact h
  · apply Bounded.updateBrightness
    split <;> exact h

theorem Bounded.discountBrightness {bs : BrightnessService} (h : Bounded bs) (discount : ℚ)
    (duration : ℕ) : Bounded (bs.discountBrightness discount duration).1 := by
  by_cases hon : bs.isScreenOn = true
  · rw [discountBrightness_eq hon]
    exact Bounded.updateBrightness (by exact h) _ _ _
  · simpa [BrightnessService.discountBrightness, canDiscountBrightness, hon] using h

theorem Bounded.overrideBrightness {bs : BrightnessService} (h : Bounded bs)
    (value duration : ℕ) : Bounded (bs.overrideBrightness value duration).1 := by
  rw [BrightnessService.overrideBrightness]
  split
  · exact h
  · exact Bounded.updateBrightness (by exact h) _ _ _

theorem Bounded.restoreBrightness {bs : BrightnessService} (h : Bounded bs) (duration : ℕ) :
    Bounded (bs.restoreBrightness duration).1 := by
  rw [BrightnessService.restoreBrightness]
  split
  · exact h
  · exact Bounded.updateBrightness (by exact h) _ _ _

theorem Bounded.setSleepBrightness {bs : BrightnessService} (h : Bounded bs) :
    Bounded bs.setSleepBrightness := by
  unfold BrightnessService.setSleepBrightness
  dsimp only
  split
  · exact h
  · exact Bounded.overrideBrightness (by exact h) _ _

theorem Bounded.waitFirstLux {bs : BrightnessService} (h : Bounded bs) :
    Bounded bs.waitFirstLux :=
  BoundedBy.submit (BoundedBy.of_subset h fun _ hp => mem_ffrtCancel hp) (by simp)

theorem Bounded.setScreenOnBrightness {bs : BrightnessService} (h : Bounded bs) :
    Bounded bs.setScreenOnBrightness := by
  have hget : Bounded (bs.getScreenOnBrightness true).1 := by
    rw [getScreenOnBrightness_fst]
    exact h
  rw [BrightnessService.setScreenOnBrightness]
  dsimp only
  split
  · split
    · exact hget
    · exact hget.waitFirstLux
  · exact hget.updateBrightness _ _ _

theorem Bounded.boostBrightness {bs : BrightnessService} (h : Bounded bs) (duration : ℕ) :
    Bounded (bs.boostBrightness duration).1 := by
  rw [BrightnessService.boostBrightness]
  split
  · exact h
  · have hupdate : Bounded (if bs.isBrightnessBoosted then (bs, true)
        else { bs with isBrightnessBoosted := true }.updateBrightness bs.param.maxBrightness
          duration false).1 := by
      split
      · exact h
      · exact Bounded.updateBrightness (by exact h) _ _ _
    exact BoundedBy.submit (BoundedBy.of_subset hupdate fun _ hp => mem_ffrtCancel hp) (by simp)

theorem Bounded.cancelBoostBrightness {bs : BrightnessService} (h : Bounded bs) (duration : ℕ) :
    Bounded (bs.cancelBoostBrightness duration).1 := by
  rw [BrightnessService.cancelBoostBrightness]
  split
  · exact h
  · apply Bounded.updateBrightness
    apply BoundedBy.of_subset h
    intro p hp
    exact mem_ffrtCancel hp

theorem Bounded.storeMaxBrightness {bs : BrightnessService} (h : Bounded bs) (maxValue : ℕ) :
    Bounded (bs.storeMaxBrightness maxValue) := by
  refine ⟨h.setting, ?_, h.valueMin, h.queued⟩
  rw [BrightnessService.storeMaxBrightness, MAX_DEFAULT_BRGIHTNESS_LEVEL]
  dsimp only
  split <;> omega

theorem Bounded.changeMaxBrightness {bs : BrightnessService} (h : Bounded bs) (maxValue : ℕ) :
    Bounded (bs.changeMaxBrightness maxValue).1 := by
  rw [BrightnessService.changeMaxBrightness]
  split
  · exact h
  · have hcap := h.storeMaxBrightness maxValue
    rw [followMaxBrightness]
    split
    · exact hcap.updateBrightness _ _ _
    · split
      · exact hcap
      · exact hcap.updateBrightness _ _ _

theorem Bounded.storeBrightnessLevel {bs : BrightnessService} (h : Bounded bs) (level : ℕ)
    (isFastDuration : Bool) : Bounded (bs.storeBrightnessLevel level isFastDuration) := by
  rw [BrightnessService.storeBrightnessLevel, cancelWaitFirstLux]
  dsimp only
  split
  · apply BoundedBy.of_subset h
    intro p hp
    exact mem_ffrtCancel hp
  · exact h

theorem Bounded.updateCurrentBrightnessLevel {bs : BrightnessService} (h : Bounded bs) (lux : ℚ)
    (isFastDuration : Bool) : Bounded (bs.updateCurrentBrightnessLevel lux isFastDuration) := by
  have hlevel : Bounded (bs.getBrightnessLevel lux).1 := h
  rw [BrightnessService.updateCurrentBrightnessLevel]
  dsimp only
  split
  · exact (hlevel.storeBrightnessLevel _ _).updateBrightness _ _ _
  · exact hlevel

theorem Bounded.processLightLux {bs t : BrightnessService} (h : Bounded bs) {lux : ℚ}
    {currentTime : ℤ} (ht : bs.processLightLux lux currentTime = some t) : Bounded t := by
  rw [BrightnessService.processLightLux] at ht
  split at ht
  · exact Option.some.inj ht ▸ h
  · obtain ⟨⟨lightLuxManager, isNeed⟩, _, hrest⟩ := Option.bind_eq_some_iff.mp ht
    have ht := Option.some.inj hrest
    rw [← ht]
    split
    · exact Bounded.updateCurrentBrightnessLevel (by exact h) _ _
    · exact h

theorem Bounded.onFoldStatusChanged {bs : BrightnessService} (h : Bounded bs)
    (foldStatus : FoldStatus) : Bounded (bs.onFoldStatusChanged foldStatus) := by
  rw [BrightnessService.onFoldStatusChanged]
  split
  · exact h
  · have hfold : Bounded ((bs.setDisplayId
        (bs.calculationManager.curve.getDisplayIdWithFoldstatus foldStatus.toNat)).foldSensors
        foldStatus) := Bounded.of_sensors (by exact h) (foldSensors_same _ _)
    dsimp only
    split
    · exact hfold.updateBrightness _ _ _
    · exact hfold

theorem Bounded.setDisplayState {bs : BrightnessService} (h : Bounded bs)
    (state : DisplayState) : Bounded (bs.setDisplayState state) := by
  have henter : Bounded (bs.enterState state) :=
    Bounded.of_sensors (by exact h) (enterState_same bs state)
  cases state with
  | off =>
    apply Bounded.stopIfDimming
    split <;> exact henter
  | dim => exact henter.setSleepBrightness
  | on =>
    rw [BrightnessService.setDisplayState]
    dsimp only
    split
    · exact Bounded.restoreBrightness (by exact henter) _
    · exact henter
  | suspend => exact henter
  | delayOff => exact henter
  | doze => exact henter
  | dozeSuspend => exact henter
  | unknown => exact henter

theorem Bounded.autoAdjustBrightness {bs : BrightnessService} (h : Bounded bs) (enable : Bool) :
    Bounded (bs.autoAdjustBrightness enable).1 := by
  rw [BrightnessService.autoAdjustBrightness]
  repeat' split
  · exact ⟨h.setting, h.valueMax, h.valueMin, h.queued⟩
  · exact h
  · exact Bounded.of_sensors (by exact h) (activateValidAmbientSensor_same _)
  · exact h
  · have hoff : Bounded bs.deactivateAllAmbientSensor :=
      h.of_sensors (deactivateAllAmbientSensor_same bs)
    exact hoff

theorem Bounded.notifyChanged {bs : BrightnessService} (h : Bounded bs) (changed : Option ℕ) :
    Bounded (bs.notifyChanged changed) := by
  cases changed with
  | none => exact h
  | some value =>
    rw [BrightnessService.notifyChanged, onChanged]
    dsimp only
    split
    · exact h
    · split
      · exact Bounded.submit (by exact h) (by simp)
      · exact h

theorem Bounded.nextStep {bs : BrightnessService} (h : Bounded bs) : Bounded bs.nextStep := by
  have hchanged := h.notifyChanged bs.dimming.nextStep.changed
  rw [BrightnessService.nextStep]
  dsimp only
  split
  · exact Bounded.submitNextStep (by exact hchanged)
  · exact hchanged

private theorem scaled_lt {l a b : ℕ} (hb : 0 < b) (h : l * a ≤ 254 * b) :
    toUint32 ((l : ℚ) * a / b + (1 : ℕ) + 1 / 2) < 256 := by
  have hq : (l : ℚ) * a / b ≤ 254 := by
    rw [div_le_iff₀ (by exact_mod_cast hb)]
    exact_mod_cast h
  apply toUint32_lt (by decide)
  norm_num
  linarith

private theorem clamp_le (l n : ℕ) : (if l > n then n else l) ≤ n := by
  split <;> omega

theorem getMappingBrightnessLevel_lt {minBrightness : ℕ} (hmin : minBrightness < 2 ^ 31)
    (level : ℕ) : getMappingBrightnessLevel minBrightness level < 2 ^ 31 := by
  have hout (x : ℕ) (hx : x < 256) :
      (if x < minBrightness then minBrightness else x) < 2 ^ 31 := by
    split <;> omega
  refine hout _ (scaled_lt (by decide) ?_)
  exact le_trans (Nat.mul_le_mul_right 222 (Nat.sub_le_sub_right (clamp_le _ 255) 1)) (by decide)

theorem deviceLevel_lt (bs : BrightnessService) (value : ℕ) : bs.deviceLevel value < 2 ^ 31 :=
  getMappingBrightnessLevel_lt bs.param.min_lt _

theorem getOrigBrightnessLevel_lt (level : ℕ) : getOrigBrightnessLevel level < 2 ^ 31 := by
  refine lt_trans (scaled_lt (by decide) ?_) (by decide : 256 < 2 ^ 31)
  exact le_trans (Nat.mul_le_mul_right 254 (Nat.sub_le_sub_right (clamp_le _ 223) 1)) (by decide)

theorem Bounded.runTask {bs t : BrightnessService} (h : Bounded bs) {id : ℕ}
    (ht : bs.runTask id = some t) : Bounded t := by
  obtain ⟨task, hfind, rfl⟩ := Option.map_eq_some_iff.mp ht
  have hrest : Bounded { bs with tasks := bs.tasks.remove id } :=
    BoundedBy.of_subset h fun p hp => (Tasks.mem_remove.mp hp).1
  have hpending := Tasks.find?_eq_some.mp hfind
  cases task with
  | nextStep => exact hrest.nextStep
  | settingBrightness value => exact hrest.setSettingBrightness (h.queued id value hpending)
  | dimmingSettingBrightness value =>
    exact hrest.setSettingBrightness (getOrigBrightnessLevel_lt value)
  | cancelBoostBrightness duration => exact hrest.cancelBoostBrightness duration
  | waitForFirstLux value => exact hrest.updateBrightness _ _ _

theorem Bounded.step {bs t : BrightnessService} (h : Bounded bs) {e : BrightnessEvent}
    (ht : bs.step e = some t) : Bounded t := by
  cases e with
  | processLightLux lux currentTime => exact h.processLightLux ht
  | runTask id => exact h.runTask ht
  | setDisplayState state => exact Option.some.inj ht ▸ h.setDisplayState state
  | setScreenOnBrightness => exact Option.some.inj ht ▸ h.setScreenOnBrightness
  | setBrightness value duration continuous =>
    exact Option.some.inj ht ▸ h.setBrightness value duration continuous
  | discountBrightness discount duration =>
    exact Option.some.inj ht ▸ h.discountBrightness discount duration
  | overrideBrightness value duration =>
    exact Option.some.inj ht ▸ h.overrideBrightness value duration
  | restoreBrightness duration => exact Option.some.inj ht ▸ h.restoreBrightness duration
  | boostBrightness duration => exact Option.some.inj ht ▸ h.boostBrightness duration
  | cancelBoostBrightness duration => exact Option.some.inj ht ▸ h.cancelBoostBrightness duration
  | setMaxBrightness value => exact Option.some.inj ht ▸ h.changeMaxBrightness _
  | setMaxBrightnessNit maxNit => exact Option.some.inj ht ▸ h.changeMaxBrightness _
  | autoAdjustBrightness enable => exact Option.some.inj ht ▸ h.autoAdjustBrightness enable
  | clearOffset =>
    have hstop := h.stopIfDimming
    exact Option.some.inj ht ▸ (by exact hstop)
  | onFoldStatusChanged foldStatus => exact Option.some.inj ht ▸ h.onFoldStatusChanged foldStatus
  | foldDisplayModeChanged mode => exact Option.some.inj ht ▸ (by exact h)
  | setDisplayId displayId => exact Option.some.inj ht ▸ (by exact h)

theorem start_bounded (boot : BrightnessBoot) : Bounded boot.start :=
  ⟨boot.settings_lt, boot.param.max_lt, boot.param.min_lt, by simp [BrightnessBoot.start]⟩

theorem Reachable.bounded {bs : BrightnessService} (h : Reachable bs) : Bounded bs := by
  refine Runs.reachable_invariant ?_ (fun s e t hs ht => Bounded.step hs ht) h
  rintro s ⟨boot, rfl⟩
  exact start_bounded boot

end BrightnessService

end DisplayPowerMgr
