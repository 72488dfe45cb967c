import DisplayPowerMgr.Library.Runs
import DisplayPowerMgr.BrightnessService

/-! Runs of `BrightnessService`: the calls it receives and the tasks that fire, in any order,
from any boot state; and what one brightness update or sensor change leaves alone. -/
namespace DisplayPowerMgr

variable {F : Type} [FloatArithmetic F]

structure BrightnessBoot (F : Type := ℚ) [FloatArithmetic F] where
  param : BrightnessParam := default
  isFoldable : Bool := false
  foldDisplayMode : ℕ := 0
  hasQueue : Bool := true
  isSupportLightSensor : Bool := false
  displayId : ℕ := 0
  state : DisplayState := .unknown
  modeArray : List (String × LuxThresholdMode F) := [("DefaultMode", defaultLuxThresholdMode)]
  curve : BrightnessCalculationCurve F := {}
  device : Device := {}
  settings : SettingStore := {}
  settings_lt : ∀ value ∈ settings.brightness, value < 2 ^ 31 := by
    exact defaultSetting_lt

def BrightnessBoot.start (boot : BrightnessBoot F) : BrightnessService F where
  param := boot.param
  isFoldable := boot.isFoldable
  foldDisplayMode := boot.foldDisplayMode
  hasQueue := boot.hasQueue
  isSupportLightSensor := boot.isSupportLightSensor
  displayId := boot.displayId
  state := boot.state
  dimming := { hasQueue := boot.hasQueue }
  lightLuxManager := { modeArray := boot.modeArray }
  calculationManager := { curve := boot.curve }
  brightnessValueMax := boot.param.maxBrightness
  brightnessValueMin := boot.param.minBrightness
  device := boot.device
  settings := boot.settings

/-- The calls, and a task that fires. The timeout of a boost is missing: tasks fire at any time. -/
inductive BrightnessEvent (F : Type := ℚ) where
  | setDisplayState (state : DisplayState)
  | setScreenOnBrightness
  | setBrightness (value gradualDuration : ℕ) (continuous : Bool)
  | discountBrightness (discount : ℚ) (gradualDuration : ℕ)
  | overrideBrightness (value gradualDuration : ℕ)
  | restoreBrightness (gradualDuration : ℕ)
  | boostBrightness (gradualDuration : ℕ)
  | cancelBoostBrightness (gradualDuration : ℕ)
  | setMaxBrightness (value : ℚ)
  | setMaxBrightnessNit (maxNit : ℕ)
  | processLightLux (lux : F) (currentTime : ℤ)
  | autoAdjustBrightness (enable : Bool)
  | clearOffset
  | onFoldStatusChanged (foldStatus : FoldStatus)
  | foldDisplayModeChanged (mode : ℕ)
  | setDisplayId (displayId : ℕ)
  | runTask (id : ℕ)
  deriving DecidableEq, Repr

namespace BrightnessService

def step (bs : BrightnessService F) : BrightnessEvent F → Option (BrightnessService F)
  | .setDisplayState state => some (bs.setDisplayState state)
  | .setScreenOnBrightness => some bs.setScreenOnBrightness
  | .setBrightness value duration continuous =>
    some (bs.setBrightness value duration continuous).1
  | .discountBrightness discount duration => some (bs.discountBrightness discount duration).1
  | .overrideBrightness value duration => some (bs.overrideBrightness value duration).1
  | .restoreBrightness duration => some (bs.restoreBrightness duration).1
  | .boostBrightness duration => some (bs.boostBrightness duration).1
  | .cancelBoostBrightness duration => some (bs.cancelBoostBrightness duration).1
  | .setMaxBrightness value => some (bs.setMaxBrightness value).1
  | .setMaxBrightnessNit maxNit => some (bs.setMaxBrightnessNit maxNit).1
  | .processLightLux lux currentTime => bs.processLightLux lux currentTime
  | .autoAdjustBrightness enable => some (bs.autoAdjustBrightness enable).1
  | .clearOffset => some bs.clearOffset
  | .onFoldStatusChanged foldStatus => some (bs.onFoldStatusChanged foldStatus)
  | .foldDisplayModeChanged mode => some { bs with foldDisplayMode := mode }
  | .setDisplayId displayId => some (bs.setDisplayId displayId)
  | .runTask id => bs.runTask id

theorem runTask_eq {bs : BrightnessService F} {id : ℕ} {task : BrightnessTask}
    (h : bs.tasks.find? id = some task) :
    bs.runTask id = some ({ bs with tasks := bs.tasks.remove id }.perform task) := by
  rw [runTask, h]
  rfl

def Reachable (bs : BrightnessService F) : Prop :=
  Runs.Reachable step (fun s => ∃ boot : BrightnessBoot F, s = boot.start) bs

/-- `b` is `a` but for the fields in which fades, device writes and tasks live. -/
def SameControl (a b : BrightnessService F) : Prop :=
  b = { a with
        waitForFirstLux := b.waitForFirstLux
        dimming := b.dimming
        animatorTaskHandle := b.animatorTaskHandle
        tasks := b.tasks
        device := b.device }

theorem SameControl.trans {a b c : BrightnessService F} (hab : SameControl a b)
    (hbc : SameControl b c) : SameControl a c := by
  rw [SameControl] at *
  rw [hbc, hab]

theorem stopIfDimming_sameControl (bs : BrightnessService F) : SameControl bs bs.stopIfDimming := by
  rw [stopIfDimming]
  split <;> rfl

theorem startDimming_sameControl (bs : BrightnessService F) (f t duration : ℕ) :
    SameControl bs (bs.startDimming f t duration) := by
  rw [startDimming]
  simp only
  split <;> rfl

/-- The state in which an update decides between a fade and a write. -/
def halted (bs : BrightnessService F) : BrightnessService F :=
  { bs with waitForFirstLux := false }.stopIfDimming

theorem halted_sameControl (bs : BrightnessService F) : SameControl bs bs.halted :=
  SameControl.trans (b := { bs with waitForFirstLux := false }) rfl (stopIfDimming_sameControl _)

theorem updateBrightness_sameControl (bs : BrightnessService F) (value duration : ℕ)
    (updateSetting : Bool) :
    SameControl bs (bs.updateBrightness value duration updateSetting).1 := by
  refine bs.halted_sameControl.trans ?_
  rw [updateBrightness]
  simp only
  split
  · exact startDimming_sameControl _ _ _ _
  · split <;> rfl

theorem onChanged_sameControl (bs : BrightnessService F) (currentValue : ℕ) :
    SameControl bs (bs.onChanged currentValue) := by
  rw [onChanged]
  split
  · rfl
  · dsimp only
    split
    · rfl
    · rfl

theorem nextStep_sameControl (bs : BrightnessService F) : SameControl bs bs.nextStep := by
  have hchanged : SameControl bs (bs.notifyChanged bs.dimming.nextStep.changed) := by
    cases bs.dimming.nextStep.changed with
    | none => rfl
    | some value => exact onChanged_sameControl bs value
  refine hchanged.trans ?_
  rw [BrightnessService.nextStep]
  dsimp only
  split
  · rfl
  · rfl

theorem SameControl.deviceLevel {a b : BrightnessService F} (h : SameControl a b) (value : ℕ) :
    b.deviceLevel value = a.deviceLevel value := by
  rw [h]
  rfl

theorem SameControl.getSettingBrightness {a b : BrightnessService F} (h : SameControl a b) :
    b.getSettingBrightness = a.getSettingBrightness := by
  rw [h]
  rfl

theorem ffrtCancel_next {α : Type*} (tasks : Tasks α) (hasQueue : Bool) (handle : Option ℕ) :
    (ffrtCancel tasks hasQueue handle).1.next = tasks.next := by
  simp only [ffrtCancel]
  split
  · rfl
  · split <;> rfl

theorem mem_ffrtCancel {α : Type*} {tasks : Tasks α} {hasQueue : Bool} {handle : Option ℕ}
    {p : ℕ × α} (h : p ∈ (ffrtCancel tasks hasQueue handle).1.pending) : p ∈ tasks.pending := by
  simp only [ffrtCancel] at h
  split at h
  · exact h
  · split at h
    · exact (Tasks.mem_remove.mp h).1
    · exact h

theorem halted_isDimming (bs : BrightnessService F) : bs.halted.dimming.isDimming = false := by
  rw [halted, stopIfDimming]
  split
  · rfl
  · rename_i h
    exact Bool.eq_false_iff.mpr h

theorem halted_hasQueue (bs : BrightnessService F) :
    bs.halted.dimming.hasQueue = bs.dimming.hasQueue := by
  rw [halted, stopIfDimming]
  split <;> rfl

theorem halted_device (bs : BrightnessService F) : bs.halted.device = bs.device := by
  rw [halted, stopIfDimming]
  split <;> rfl

theorem halted_next (bs : BrightnessService F) : bs.halted.tasks.next = bs.tasks.next := by
  rw [halted, stopIfDimming]
  split
  · exact ffrtCancel_next _ _ _
  · rfl

theorem mem_halted {bs : BrightnessService F} {p : ℕ × BrightnessTask}
    (h : p ∈ bs.halted.tasks.pending) : p ∈ bs.tasks.pending := by
  rw [halted, stopIfDimming] at h
  split at h
  · exact mem_ffrtCancel h
  · exact h

theorem updateBrightness_gradual (bs : BrightnessService F) {value duration : ℕ}
    (hd : 0 < duration) (updateSetting : Bool) :
    bs.updateBrightness value duration updateSetting =
      (bs.halted.startDimming bs.getSettingBrightness (bs.deviceLevel value) duration, true) := by
  rw [updateBrightness]
  simp only
  rw [if_pos hd]
  have hs := bs.halted_sameControl.getSettingBrightness
  have hl := bs.halted_sameControl.deviceLevel value
  rw [halted] at hs hl ⊢
  rw [hs, hl]

theorem updateBrightness_now (bs : BrightnessService F) (value : ℕ) (updateSetting : Bool) :
    bs.updateBrightness value 0 updateSetting =
      let (device, isSuccess) := bs.device.setBrightness bs.displayId (bs.deviceLevel value)
      let t := { bs.halted with device := device }
      (if isSuccess && updateSetting then
        t.submitTask (.settingBrightness (bs.getSafeBrightness value)) else t, isSuccess) := by
  rw [updateBrightness]
  simp only [lt_irrefl, if_false]
  have hl := bs.halted_sameControl.deviceLevel value
  have hd := bs.halted_device
  have hi : bs.halted.displayId = bs.displayId := by rw [bs.halted_sameControl]
  rw [halted] at hl hd hi ⊢
  rw [hl, hd, hi]
  rfl

theorem getScreenOnBrightness_fst (bs : BrightnessService F) (isUpdateTarget : Bool) :
    (bs.getScreenOnBrightness isUpdateTarget).1 =
      { bs with
        waitForFirstLux := (bs.getScreenOnBrightness isUpdateTarget).1.waitForFirstLux } := by
  rw [getScreenOnBrightness]
  repeat' split
  all_goals rfl

def brightnessInForce (bs : BrightnessService F) : ℕ :=
  if bs.isBrightnessBoosted then bs.param.maxBrightness
  else if bs.isBrightnessOverridden then bs.overriddenBrightness
  else bs.getSettingBrightness

theorem getScreenOnBrightness_false (bs : BrightnessService F) :
    bs.getScreenOnBrightness false = (bs, bs.brightnessInForce) := by
  rw [getScreenOnBrightness, brightnessInForce]
  simp only [Bool.false_and, Bool.false_eq_true, if_false]
  repeat' split
  all_goals rfl

theorem discountBrightness_eq {bs : BrightnessService F} (h : bs.isScreenOn = true) (discount : ℚ)
    (duration : ℕ) :
    bs.discountBrightness discount duration =
      { bs with discount := safeDiscount discount }.updateBrightness bs.brightnessInForce duration
        false := by
  rw [discountBrightness]
  rw [if_neg (by simp [canDiscountBrightness, h])]
  dsimp only
  rw [getScreenOnBrightness_false]
  rfl

/-- `b` is `a` but for the sensor subscriptions, their readings and the automatic mode that is
persisted. -/
def SameButSensors (a b : BrightnessService F) : Prop :=
  b = { a with
        isLightSensorEnabled := b.isLightSensorEnabled
        isLightSensor1Enabled := b.isLightSensor1Enabled
        currentSensorId := b.currentSensorId
        lightLuxManager := b.lightLuxManager
        settings := { a.settings with autoBrightness := b.settings.autoBrightness } }

theorem SameButSensors.trans {a b c : BrightnessService F} (hab : SameButSensors a b)
    (hbc : SameButSensors b c) : SameButSensors a c := by
  rw [SameButSensors] at *
  rw [hbc, hab]

theorem activateAmbientSensor_same (bs : BrightnessService F) :
    SameButSensors bs bs.activateAmbientSensor := by
  rw [activateAmbientSensor]
  split <;> rfl

theorem activateAmbientSensor1_same (bs : BrightnessService F) :
    SameButSensors bs bs.activateAmbientSensor1 := by
  rw [activateAmbientSensor1]
  split <;> rfl

theorem deactivateAmbientSensor_same (bs : BrightnessService F) :
    SameButSensors bs bs.deactivateAmbientSensor := by
  rw [deactivateAmbientSensor]
  split <;> rfl

theorem deactivateAmbientSensor1_same (bs : BrightnessService F) :
    SameButSensors bs bs.deactivateAmbientSensor1 := by
  rw [deactivateAmbientSensor1]
  split <;> rfl

theorem activateValidAmbientSensor_same (bs : BrightnessService F) :
    SameButSensors bs bs.activateValidAmbientSensor := by
  rw [activateValidAmbientSensor]
  split
  · exact activateAmbientSensor_same bs
  · split
    · exact activateAmbientSensor_same bs
    · split
      · exact activateAmbientSensor1_same bs
      · rfl

theorem deactivateAllAmbientSensor_same (bs : BrightnessService F) :
    SameButSensors bs bs.deactivateAllAmbientSensor := by
  rw [deactivateAllAmbientSensor]
  split
  · exact deactivateAmbientSensor_same bs
  · exact (deactivateAmbientSensor_same bs).trans (deactivateAmbientSensor1_same _)

theorem stateChangedSetAutoBrightness_same (bs : BrightnessService F) (enable : Bool) :
    SameButSensors bs (bs.stateChangedSetAutoBrightness enable).1 := by
  rw [stateChangedSetAutoBrightness]
  split
  · rfl
  · split
    · split
      · rfl
      · exact activateValidAmbientSensor_same bs
    · split
      · rfl
      · exact deactivateAllAmbientSensor_same bs

theorem enterState_same (bs : BrightnessService F) (state : DisplayState) :
    SameButSensors { bs with state := state } (bs.enterState state) :=
  stateChangedSetAutoBrightness_same _ _

theorem foldSensors_same (bs : BrightnessService F) (foldStatus : FoldStatus) :
    SameButSensors bs (bs.foldSensors foldStatus) := by
  have hset (sensorId : ℕ) : SameButSensors bs { bs with currentSensorId := sensorId } := rfl
  have hunfold (sensorId : ℕ) (c d : Bool) : SameButSensors bs
      (if c then { bs with currentSensorId := sensorId }.activateAmbientSensor
      else if d then { bs with currentSensorId := sensorId }.activateAmbientSensor1
      else { bs with currentSensorId := sensorId }) := by
    split
    · exact (hset sensorId).trans (activateAmbientSensor_same _)
    · split
      · exact (hset sensorId).trans (activateAmbientSensor1_same _)
      · exact hset sensorId
  cases foldStatus with
  | unknown => rfl
  | expand => exact hunfold _ _ _
  | folded => exact hunfold _ _ _
  | halfFold =>
    unfold foldSensors
    dsimp only
    split
    · exact deactivateAmbientSensor_same bs
    · split
      · exact deactivateAmbientSensor1_same bs
      · rfl

/-- `b` is `a` but for the fields that keep and carry out the requested levels. -/
def SameButRequests (a b : BrightnessService F) : Prop :=
  b = { a with
        brightnessLevel := b.brightnessLevel
        brightnessTarget := b.brightnessTarget
        isBrightnessOverridden := b.isBrightnessOverridden
        isBrightnessBoosted := b.isBrightnessBoosted
        cachedSettingBrightness := b.cachedSettingBrightness
        overriddenBrightness := b.overriddenBrightness
        beforeOverriddenBrightness := b.beforeOverriddenBrightness
        dimming := b.dimming
        calculationManager := b.calculationManager
        isSleepStatus := b.isSleepStatus
        isDisplayOnWhenFirstLuxReport := b.isDisplayOnWhenFirstLuxReport
        waitForFirstLux := b.waitForFirstLux
        currentBrightness := b.currentBrightness
        cancelBoostTaskHandle := b.cancelBoostTaskHandle
        waitForFirstLuxTaskHandle := b.waitForFirstLuxTaskHandle
        animatorTaskHandle := b.animatorTaskHandle
        tasks := b.tasks
        device := b.device
        settings := b.settings }

theorem SameButRequests.trans {a b c : BrightnessService F} (hab : SameButRequests a b)
    (hbc : SameButRequests b c) : SameButRequests a c := by
  rw [SameButRequests] at *
  rw [hbc, hab]

theorem SameControl.butRequests {a b : BrightnessService F} (h : SameControl a b) :
    SameButRequests a b := by
  rw [h]
  rfl

theorem SameButRequests.update {a b : BrightnessService F} (h : SameButRequests a b)
    (value duration : ℕ) (updateSetting : Bool) :
    SameButRequests a (b.updateBrightness value duration updateSetting).1 :=
  h.trans (updateBrightness_sameControl _ _ _ _).butRequests

theorem setBrightness_butRequests (bs : BrightnessService F) (value duration : ℕ)
    (continuous : Bool) : SameButRequests bs (bs.setBrightness value duration continuous).1 := by
  rw [setBrightness]
  split
  · rfl
  · dsimp only
    split
    · apply SameButRequests.update
      rfl
    · apply SameButRequests.update
      rfl

theorem overrideBrightness_butRequests (bs : BrightnessService F) (value duration : ℕ) :
    SameButRequests bs (bs.overrideBrightness value duration).1 := by
  rw [overrideBrightness]
  split
  · rfl
  · apply SameButRequests.update
    rfl

theorem restoreBrightness_butRequests (bs : BrightnessService F) (duration : ℕ) :
    SameButRequests bs (bs.restoreBrightness duration).1 := by
  rw [restoreBrightness]
  split
  · rfl
  · apply SameButRequests.update
    rfl

theorem boostBrightness_butRequests (bs : BrightnessService F) (duration : ℕ) :
    SameButRequests bs (bs.boostBrightness duration).1 := by
  rw [boostBrightness]
  split
  · rfl
  · dsimp only
    split
    · rfl
    · have hupdate : SameButRequests bs ({ bs with isBrightnessBoosted := true }.updateBrightness
          bs.param.maxBrightness duration false).1 := by
        apply SameButRequests.update
        rfl
      refine hupdate.trans ?_
      rfl

theorem cancelBoostBrightness_butRequests (bs : BrightnessService F) (duration : ℕ) :
    SameButRequests bs (bs.cancelBoostBrightness duration).1 := by
  rw [cancelBoostBrightness]
  split
  · rfl
  · apply SameButRequests.update
    rfl

theorem followMaxBrightness_butRequests (bs : BrightnessService F) :
    SameButRequests bs bs.followMaxBrightness.1 := by
  rw [followMaxBrightness]
  split
  · apply SameButRequests.update
    rfl
  · split
    · rfl
    · apply SameButRequests.update
      rfl

theorem discountBrightness_butRequests (bs : BrightnessService F) (discount : ℚ) (duration : ℕ) :
    SameButRequests
      { bs with discount := if bs.isScreenOn then safeDiscount discount else bs.discount }
      (bs.discountBrightness discount duration).1 := by
  by_cases hon : bs.isScreenOn = true
  · rw [discountBrightness_eq hon, if_pos hon]
    apply SameButRequests.update
    rfl
  · rw [if_neg hon, discountBrightness, canDiscountBrightness, if_pos (by simp [hon])]
    rfl

theorem setScreenOnBrightness_butRequests (bs : BrightnessService F) :
    SameButRequests bs bs.setScreenOnBrightness := by
  have hget : SameButRequests bs (bs.getScreenOnBrightness true).1 := by
    rw [getScreenOnBrightness_fst]
    rfl
  rw [setScreenOnBrightness]
  dsimp only
  split
  · split
    · exact hget
    · refine hget.trans ?_
      rfl
  · exact hget.update _ _ _

theorem setDisplayState_butRequests (bs : BrightnessService F) (state : DisplayState) :
    SameButRequests (bs.enterState state) (bs.setDisplayState state) := by
  cases state with
  | off =>
    rw [setDisplayState]
    refine SameButRequests.trans ?_ (stopIfDimming_sameControl _).butRequests
    split
    · rfl
    · rfl
  | dim =>
    rw [setDisplayState, setSleepBrightness]
    split
    · rfl
    · refine SameButRequests.trans ?_ (overrideBrightness_butRequests _ _ _)
      rfl
  | on =>
    rw [setDisplayState]
    dsimp only
    split
    · have hrestore := restoreBrightness_butRequests
        { bs.enterState .on with isDisplayOnWhenFirstLuxReport := true } 0
      refine SameButRequests.trans ?_ (hrestore.trans ?_)
      · rfl
      · rfl
    · rfl
  | _ => rfl

theorem updateCurrentBrightnessLevel_butRequests (bs : BrightnessService F) (lux : F)
    (isFastDuration : Bool) :
    SameButRequests bs (bs.updateCurrentBrightnessLevel lux isFastDuration) := by
  rw [updateCurrentBrightnessLevel]
  dsimp only
  split
  · apply SameButRequests.update
    rw [storeBrightnessLevel, cancelWaitFirstLux]
    dsimp only
    split
    · rfl
    · rfl
  · rfl

theorem processLightLux_butRequests {bs t : BrightnessService F} {lux : F} {currentTime : ℤ}
    (ht : bs.processLightLux lux currentTime = some t) :
    SameButRequests { bs with lightLuxManager := t.lightLuxManager } t := by
  rw [processLightLux] at ht
  split at ht
  · obtain rfl := Option.some.inj ht
    rfl
  · obtain ⟨⟨m, isNeed⟩, _, hrest⟩ := Option.bind_eq_some_iff.mp ht
    obtain rfl := Option.some.inj hrest
    have hlevel := updateCurrentBrightnessLevel_butRequests { bs with lightLuxManager := m } lux
      m.isFirstLux
    split
    · rw [hlevel]
      rfl
    · rfl

theorem runTask_butRequests {bs t : BrightnessService F} {id : ℕ} (ht : bs.runTask id = some t) :
    SameButRequests bs t := by
  obtain ⟨task, _, rfl⟩ := Option.map_eq_some_iff.mp ht
  cases task with
  | nextStep =>
    refine SameButRequests.trans ?_ (nextStep_sameControl _).butRequests
    rfl
  | settingBrightness value => rfl
  | dimmingSettingBrightness value => rfl
  | cancelBoostBrightness duration =>
    refine SameButRequests.trans ?_ (cancelBoostBrightness_butRequests _ duration)
    rfl
  | waitForFirstLux value =>
    apply SameButRequests.update
    rfl

def OnlyRequests : BrightnessEvent F → Prop
  | .setScreenOnBrightness => True
  | .setBrightness .. => True
  | .overrideBrightness .. => True
  | .restoreBrightness _ => True
  | .boostBrightness _ => True
  | .cancelBoostBrightness _ => True
  | .clearOffset => True
  | .runTask _ => True
  | _ => False

theorem step_butRequests {bs t : BrightnessService F} {e : BrightnessEvent F} (h : OnlyRequests e)
    (ht : bs.step e = some t) : SameButRequests bs t := by
  cases e with
  | setScreenOnBrightness => exact Option.some.inj ht ▸ setScreenOnBrightness_butRequests bs
  | setBrightness value duration continuous =>
    exact Option.some.inj ht ▸ setBrightness_butRequests bs value duration continuous
  | overrideBrightness value duration =>
    exact Option.some.inj ht ▸ overrideBrightness_butRequests bs value duration
  | restoreBrightness duration =>
    exact Option.some.inj ht ▸ restoreBrightness_butRequests bs duration
  | boostBrightness duration =>
    exact Option.some.inj ht ▸ boostBrightness_butRequests bs duration
  | cancelBoostBrightness duration =>
    exact Option.some.inj ht ▸ cancelBoostBrightness_butRequests bs duration
  | clearOffset =>
    have hstop := (stopIfDimming_sameControl bs).butRequests
    refine Option.some.inj ht ▸ hstop.trans ?_
    rfl
  | runTask id => exact runTask_butRequests ht
  | _ => exact h.elim

end BrightnessService

end DisplayPowerMgr
