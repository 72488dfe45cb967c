import DisplayPowerMgr.BoostAndOverride
import DisplayPowerMgr.CapInEffect

/-! `BrightnessService` from its initialisation, which happens once, over stops and starts of the
system ability. `DeInit` takes the two queues away; whatever is asked for after that, no fade and
no boost begins, and a boost that was under way does not end. -/
namespace DisplayPowerMgr

def BrightnessTask.ofService : BrightnessTask → Bool
  | .cancelBoostBrightness _ => true
  | .waitForFirstLux _ => true
  | _ => false

def BrightnessTask.ofDimming : BrightnessTask → Bool
  | .nextStep => true
  | _ => false

namespace BrightnessService

/-- `BrightnessDimming::Reset`. What becomes of the tasks of a queue that is dropped is up to its
implementation: those of `left` still run. -/
def resetDimming (bs : BrightnessService) (left : List ℕ) : BrightnessService :=
  if bs.dimming.hasQueue then
    { bs with
      dimming := { bs.dimming with hasQueue := false }
      animatorTaskHandle := none
      tasks := bs.tasks.retain fun p => !p.2.ofDimming || left.contains p.1 }
  else bs

def resetQueue (bs : BrightnessService) (left : List ℕ) : BrightnessService :=
  if bs.hasQueue then
    { bs with
      hasQueue := false
      cancelBoostTaskHandle := none
      waitForFirstLuxTaskHandle := none
      tasks := bs.tasks.retain fun p => !p.2.ofService || left.contains p.1 }
  else bs

def deInit (bs : BrightnessService) (left : List ℕ) : BrightnessService :=
  (bs.resetQueue left).resetDimming left

/-- What `Init` does when it runs; `boot` tells what it finds. -/
def initOnce (bs : BrightnessService) (boot : BrightnessBoot) (defaultMax defaultMin : ℕ) :
    BrightnessService :=
  if boot.hasQueue then
    { bs with
      hasQueue := true
      dimming := { bs.dimming with hasQueue := true }
      isFoldable := boot.isFoldable
      isSupportLightSensor := boot.isSupportLightSensor
      lightLuxManager := { bs.lightLuxManager with modeArray := boot.modeArray }
      calculationManager := { bs.calculationManager with curve := boot.curve }
      brightnessValueMax := defaultMax
      brightnessValueMin := defaultMin }
  else { bs with hasQueue := false }

structure Stopped (bs : BrightnessService) : Prop where
  queue : bs.hasQueue = false
  dimming : bs.dimming.hasQueue = false

def NoWaitLeft (bs : BrightnessService) : Prop :=
  ∀ id value, (id, .waitForFirstLux value) ∉ bs.tasks.pending

/-- What an event may command to the panel of a stopped service. -/
def AtOnce (bs : BrightnessService) : BrightnessEvent → ℕ → Prop
  | .setDisplayState .on, _ => bs.isSleepStatus = true ∧ bs.isBrightnessOverridden = true
  | .setDisplayState .dim, _ =>
    bs.isBrightnessBoosted = false ∧ bs.param.sleepDarkenTime = 0
  | .setScreenOnBrightness, level => level = bs.deviceLevel (bs.getScreenOnBrightness true).2
  | .setBrightness value duration _, level =>
    duration = 0 ∧ (bs.isBrightnessOverridden = true ∨ bs.canSetBrightness = true) ∧
      level = bs.deviceLevel value
  | .discountBrightness discount duration, level =>
    bs.isScreenOn = true ∧ duration = 0 ∧ level =
      { bs with discount := safeDiscount discount }.deviceLevel bs.brightnessInForce
  | .overrideBrightness value duration, level =>
    duration = 0 ∧ bs.canOverrideBrightness = true ∧ level = bs.deviceLevel value
  | .restoreBrightness duration, level =>
    duration = 0 ∧ bs.isBrightnessOverridden = true ∧
      level = bs.deviceLevel bs.beforeOverriddenBrightness
  | .processLightLux _ _, _ =>
    bs.canSetBrightness = true ∧ bs.isDisplayOnWhenFirstLuxReport = true
  | .onFoldStatusChanged _, _ => bs.canSetBrightness = true
  | .runTask id, level =>
    ∃ value, (id, .waitForFirstLux value) ∈ bs.tasks.pending ∧ level = bs.deviceLevel value
  | _, _ => False

/-! ## One update without a queue -/

/-- Between `a` and `b` no fade began, and no level but one of `V` was commanded. -/
structure Sends (V : ℕ → Prop) (a b : BrightnessService) : Prop where
  queue : b.dimming.hasQueue = a.dimming.hasQueue
  fading : b.dimming.isDimming = true → a.dimming.isDimming = true
  commanded : b.device = a.device ∨ ∃ displayId level, V level ∧
    b.device = (a.device.setBrightness displayId level).1

namespace Sends

variable {V : ℕ → Prop} {a b c : BrightnessService}

theorem same (hdimming : b.dimming = a.dimming) (hdevice : b.device = a.device) : Sends V a b where
  queue := by rw [hdimming]
  fading h := hdimming ▸ h
  commanded := Or.inl hdevice

theorem after (h : Sends V b c) (hdimming : b.dimming = a.dimming)
    (hdevice : b.device = a.device) : Sends V a c where
  queue := h.queue.trans (by rw [hdimming])
  fading hc := hdimming ▸ h.fading hc
  commanded := hdevice ▸ h.commanded

theorem stopIfDimming (bs : BrightnessService) : Sends V bs bs.stopIfDimming := by
  rw [BrightnessService.stopIfDimming]
  split
  · exact ⟨rfl, fun h => absurd h Bool.false_ne_true, Or.inl rfl⟩
  · exact same rfl rfl

theorem update {bs : BrightnessService} (hqueue : bs.dimming.hasQueue = false)
    {value duration : ℕ} {updateSetting : Bool} (hnow : duration = 0 → V (bs.deviceLevel value)) :
    Sends V bs (bs.updateBrightness value duration updateSetting).1 := by
  have hhalted := halted_isDimming bs
  rcases Nat.eq_zero_or_pos duration with rfl | hpos
  · have hlevel := hnow rfl
    have hsend (u : BrightnessService) (hdimming : u.dimming = bs.halted.dimming)
        (hdevice : u.device =
          (bs.device.setBrightness bs.displayId (bs.deviceLevel value)).1) : Sends V bs u := by
      refine ⟨?_, ?_, Or.inr ⟨_, _, hlevel, hdevice⟩⟩
      · rw [hdimming]
        exact halted_hasQueue bs
      · intro hdim
        rw [hdimming, hhalted] at hdim
        cases hdim
    rw [updateBrightness_now]
    dsimp only
    split
    · exact hsend _ rfl rfl
    · exact hsend _ rfl rfl
  · have hnone := (halted_hasQueue bs).trans hqueue
    obtain ⟨hsubmit, hover⟩ := BrightnessDimming.startDimming_level
      (f := bs.getSettingBrightness) (t := bs.deviceLevel value) hhalted (Or.inl hnone) duration
    have hkeep := BrightnessDimming.startDimming_hasQueue bs.halted.dimming
      bs.getSettingBrightness (bs.deviceLevel value) duration
    rw [updateBrightness_gradual bs hpos, startDimming]
    dsimp only
    rw [if_neg (by simp [hsubmit])]
    refine ⟨hkeep.trans (halted_hasQueue bs), ?_, Or.inl (halted_device bs)⟩
    intro hdim
    exact absurd (hover.symm.trans hdim) Bool.false_ne_true

theorem updated {a b : BrightnessService} (hqueue : a.dimming.hasQueue = false)
    (hdimming : b.dimming = a.dimming) (hdevice : b.device = a.device)
    {value duration : ℕ} {updateSetting : Bool} (hnow : duration = 0 → V (b.deviceLevel value)) :
    Sends V a (b.updateBrightness value duration updateSetting).1 :=
  (update (hdimming ▸ hqueue) hnow).after hdimming hdevice

end Sends

/-! ## What each event commands -/

section Requests

variable {V : ℕ → Prop} {bs : BrightnessService}

theorem setBrightness_sends (hqueue : bs.dimming.hasQueue = false) (value duration : ℕ)
    (continuous : Bool)
    (hnow : (bs.isBrightnessOverridden = true ∨ bs.canSetBrightness = true) → duration = 0 →
      V (bs.deviceLevel value)) :
    Sends V bs (bs.setBrightness value duration continuous).1 := by
  rw [setBrightness]
  by_cases hmay : bs.isBrightnessOverridden = true ∨ bs.canSetBrightness = true
  · rw [if_neg (by rcases hmay with h | h <;> simp [h])]
    dsimp only
    split
    · refine .updated hqueue ?_ ?_ ?_
      · rfl
      · rfl
      · exact hnow hmay
    · refine .updated hqueue ?_ ?_ ?_
      · rfl
      · rfl
      · exact hnow hmay
  · rw [not_or, Bool.not_eq_true, Bool.not_eq_true] at hmay
    rw [if_pos (by simp [hmay])]
    exact .same rfl rfl

theorem overrideBrightness_sends (hqueue : bs.dimming.hasQueue = false) (value duration : ℕ)
    (hnow : bs.canOverrideBrightness = true → duration = 0 → V (bs.deviceLevel value)) :
    Sends V bs (bs.overrideBrightness value duration).1 := by
  rw [overrideBrightness]
  by_cases hcan : bs.canOverrideBrightness = true
  · rw [if_neg (by simp [hcan])]
    refine .updated hqueue ?_ ?_ ?_
    · rfl
    · rfl
    · exact hnow hcan
  · rw [if_pos (by simp [hcan])]
    exact .same rfl rfl

theorem restoreBrightness_sends (hqueue : bs.dimming.hasQueue = false) (duration : ℕ)
    (hnow : bs.isBrightnessOverridden = true → duration = 0 →
      V (bs.deviceLevel bs.beforeOverriddenBrightness)) :
    Sends V bs (bs.restoreBrightness duration).1 := by
  rw [restoreBrightness]
  by_cases hover : bs.isBrightnessOverridden = true
  · rw [if_neg (by simp [hover])]
    refine .updated hqueue ?_ ?_ ?_
    · rfl
    · rfl
    · exact hnow hover
  · rw [if_pos (by simp [hover])]
    exact .same rfl rfl

theorem discountBrightness_sends (hqueue : bs.dimming.hasQueue = false) (discount : ℚ)
    (duration : ℕ)
    (hnow : bs.isScreenOn = true → duration = 0 →
      V ({ bs with discount := safeDiscount discount }.deviceLevel bs.brightnessInForce)) :
    Sends V bs (bs.discountBrightness discount duration).1 := by
  by_cases hon : bs.isScreenOn = true
  · rw [discountBrightness_eq hon]
    refine .updated hqueue ?_ ?_ ?_
    · rfl
    · rfl
    · exact hnow hon
  · rw [discountBrightness, canDiscountBrightness, if_pos (by simp [hon])]
    exact .same rfl rfl

theorem setScreenOnBrightness_sends (h : Stopped bs)
    (hnow : V (bs.deviceLevel (bs.getScreenOnBrightness true).2)) :
    Sends V bs bs.setScreenOnBrightness := by
  have hget := getScreenOnBrightness_fst bs true
  have hdimming : (bs.getScreenOnBrightness true).1.dimming = bs.dimming := by rw [hget]
  have hdevice : (bs.getScreenOnBrightness true).1.device = bs.device := by rw [hget]
  have hqueue : (bs.getScreenOnBrightness true).1.hasQueue = false := by
    rw [hget]
    exact h.queue
  have hlevel : (bs.getScreenOnBrightness true).1.deviceLevel (bs.getScreenOnBrightness true).2 =
      bs.deviceLevel (bs.getScreenOnBrightness true).2 := by
    rw [hget]
    rfl
  rw [setScreenOnBrightness]
  dsimp only
  split
  · rw [if_pos (by simp [hqueue])]
    exact .same hdimming hdevice
  · refine .updated h.dimming hdimming hdevice ?_
    intro _
    exact hlevel ▸ hnow

theorem cancelBoostBrightness_noQueue (hqueue : bs.hasQueue = false) (duration : ℕ) :
    bs.cancelBoostBrightness duration = (bs, false) := by
  rw [cancelBoostBrightness, if_pos (by simp [hqueue])]

theorem changeMaxBrightness_sends (hqueue : bs.dimming.hasQueue = false) (maxValue : ℕ) :
    Sends V bs (bs.changeMaxBrightness maxValue).1 := by
  have hlong : DEFAULT_MAX_BRIGHTNESS_DURATION ≠ 0 := by decide
  rw [changeMaxBrightness, followMaxBrightness]
  split
  · exact .same rfl rfl
  · split
    · refine .updated hqueue ?_ ?_ ?_
      · rfl
      · rfl
      · exact fun hzero => absurd hzero hlong
    · split
      · exact .same rfl rfl
      · refine .updated hqueue ?_ ?_ ?_
        · rfl
        · rfl
        · exact fun hzero => absurd hzero hlong

theorem updateCurrentBrightnessLevel_sends (hqueue : bs.dimming.hasQueue = false) (lux : ℚ)
    (isFastDuration : Bool)
    (hnow : bs.isDisplayOnWhenFirstLuxReport = true → ∀ level, V level) :
    Sends V bs (bs.updateCurrentBrightnessLevel lux isFastDuration) := by
  rw [updateCurrentBrightnessLevel]
  dsimp only
  split
  · have hzero (level : ℕ) :
        (bs.getBrightnessLevel lux).1.luxDuration level isFastDuration = 0 →
          bs.isDisplayOnWhenFirstLuxReport = true := by
      rw [luxDuration]
      split
      · rename_i honce
        intro _
        exact (Bool.and_eq_true_iff.mp honce).2
      · split
        · exact fun h => absurd h (by decide)
        · split <;> exact fun h => absurd h (by decide)
    have hstored (level : ℕ) :
        ((bs.getBrightnessLevel lux).1.storeBrightnessLevel level isFastDuration).dimming =
            bs.dimming ∧
          ((bs.getBrightnessLevel lux).1.storeBrightnessLevel level isFastDuration).device =
            bs.device := by
      rw [storeBrightnessLevel, cancelWaitFirstLux]
      dsimp only
      split <;> exact ⟨rfl, rfl⟩
    refine .updated hqueue (hstored _).1 (hstored _).2 ?_
    intro hduration
    exact hnow (hzero _ hduration) _
  · exact .same rfl rfl

theorem processLightLux_sends (hqueue : bs.dimming.hasQueue = false) {t : BrightnessService}
    {lux : ℚ} {currentTime : ℤ}
    (hnow : bs.canSetBrightness = true → bs.isDisplayOnWhenFirstLuxReport = true →
      ∀ level, V level)
    (ht : bs.processLightLux lux currentTime = some t) : Sends V bs t := by
  by_cases hcan : bs.canSetBrightness = true
  · rcases Timers.processLightLux_cases ht with rfl | ⟨m, rfl | rfl⟩
    · exact .same rfl rfl
    · exact .same rfl rfl
    · refine Sends.after (updateCurrentBrightnessLevel_sends ?_ lux m.isFirstLux ?_) rfl rfl
      · exact hqueue
      · exact hnow hcan
  · rw [processLightLux, if_pos (by simp [hcan])] at ht
    obtain rfl := Option.some.inj ht
    exact .same rfl rfl

theorem autoAdjustBrightness_sends (enable : Bool) :
    Sends V bs (bs.autoAdjustBrightness enable).1 := by
  rw [autoAdjustBrightness]
  repeat' split
  · exact .same rfl rfl
  · exact .same rfl rfl
  · apply Sends.same
    · rw [activateValidAmbientSensor_same { bs with isAutoBrightnessEnabled := true }]
    · rw [activateValidAmbientSensor_same { bs with isAutoBrightnessEnabled := true }]
  · exact .same rfl rfl
  · apply Sends.same
    · dsimp only
      rw [deactivateAllAmbientSensor_same bs]
    · dsimp only
      rw [deactivateAllAmbientSensor_same bs]

theorem onFoldStatusChanged_sends (hqueue : bs.dimming.hasQueue = false) (foldStatus : FoldStatus)
    (hnow : bs.canSetBrightness = true → ∀ level, V level) :
    Sends V bs (bs.onFoldStatusChanged foldStatus) := by
  rw [onFoldStatusChanged]
  split
  · exact .same rfl rfl
  · dsimp only
    generalize bs.calculationManager.curve.getDisplayIdWithFoldstatus foldStatus.toNat = displayId
    have hsame := foldSensors_same (bs.setDisplayId displayId) foldStatus
    have hdimming : ((bs.setDisplayId displayId).foldSensors foldStatus).dimming = bs.dimming := by
      rw [hsame]
      rfl
    have hdevice : ((bs.setDisplayId displayId).foldSensors foldStatus).device = bs.device := by
      rw [hsame]
      rfl
    have hcan : ((bs.setDisplayId displayId).foldSensors foldStatus).canSetBrightness =
        bs.canSetBrightness := by
      rw [hsame]
      rfl
    split
    · rename_i hmay
      rw [hcan] at hmay
      have hupdate (value : ℕ) : Sends V bs
          (((bs.setDisplayId displayId).foldSensors foldStatus).updateBrightness value 0 true).1 :=
        .updated hqueue hdimming hdevice fun _ => hnow hmay _
      exact ⟨(hupdate _).queue, (hupdate _).fading, (hupdate _).commanded⟩
    · exact .same hdimming hdevice

end Requests

theorem setDisplayState_sends {bs : BrightnessService} (hqueue : bs.dimming.hasQueue = false)
    (state : DisplayState) :
    Sends (bs.AtOnce (.setDisplayState state)) bs (bs.setDisplayState state) := by
  have henter := enterState_same bs state
  have hdimming : (bs.enterState state).dimming = bs.dimming := by rw [henter]
  have hdevice : (bs.enterState state).device = bs.device := by rw [henter]
  have hidle : (bs.enterState state).dimming.hasQueue = false := hdimming ▸ hqueue
  cases state with
  | off =>
    rw [setDisplayState]
    refine (Sends.stopIfDimming _).after ?_ ?_
    · split <;> exact hdimming
    · split <;> exact hdevice
  | dim =>
    have hboosted : (bs.enterState .dim).isBrightnessBoosted = bs.isBrightnessBoosted := by
      rw [henter]
    have hparam : (bs.enterState .dim).param = bs.param := by rw [henter]
    rw [setDisplayState, setSleepBrightness]
    split
    · exact .same hdimming hdevice
    · refine Sends.after (overrideBrightness_sends ?_ _ _ ?_) hdimming hdevice
      · exact hidle
      · intro hcan hzero
        simp only [canOverrideBrightness, Bool.and_eq_true, Bool.not_eq_true'] at hcan
        exact ⟨hboosted ▸ hcan.2, hparam ▸ hzero⟩
  | on =>
    have hover : (bs.enterState .on).isBrightnessOverridden = bs.isBrightnessOverridden := by
      rw [henter]
    have hsleep : (bs.enterState .on).isSleepStatus = bs.isSleepStatus := by rw [henter]
    rw [setDisplayState]
    dsimp only
    split
    · rename_i hslept
      let lit := { bs.enterState .on with isDisplayOnWhenFirstLuxReport := true }
      have hrestore : Sends (bs.AtOnce (.setDisplayState .on)) lit (lit.restoreBrightness 0).1 := by
        refine restoreBrightness_sends ?_ 0 ?_
        · exact hidle
        · intro hoverridden _
          exact ⟨hsleep ▸ hslept, hover ▸ hoverridden⟩
      have hsends := hrestore.after hdimming hdevice
      exact ⟨hsends.queue, hsends.fading, hsends.commanded⟩
    · exact .same hdimming hdevice
  | _ => exact .same hdimming hdevice

theorem runTask_sends {bs t : BrightnessService} (h : Stopped bs) {id : ℕ}
    (ht : bs.runTask id = some t) : Sends (bs.AtOnce (.runTask id)) bs t := by
  obtain ⟨task, hfind, rfl⟩ := Option.map_eq_some_iff.mp ht
  have hpending := Tasks.find?_eq_some.mp hfind
  cases task with
  | nextStep =>
    have hidle : ({ bs with tasks := bs.tasks.remove id } : BrightnessService).nextStep =
        { bs with tasks := bs.tasks.remove id } := nextStep_idle (Or.inr h.dimming)
    rw [perform, hidle]
    exact .same rfl rfl
  | settingBrightness value => exact .same rfl rfl
  | dimmingSettingBrightness value => exact .same rfl rfl
  | cancelBoostBrightness duration =>
    let taken : BrightnessService := { bs with tasks := bs.tasks.remove id }
    have hrefused : taken.cancelBoostBrightness duration = (taken, false) := by
      apply cancelBoostBrightness_noQueue
      exact h.queue
    rw [perform, hrefused]
    exact .same rfl rfl
  | waitForFirstLux value =>
    refine .updated h.dimming ?_ ?_ ?_
    · rfl
    · rfl
    · intro _
      exact ⟨value, hpending, rfl⟩

/-- A step of a stopped service begins no fade and commands at most what `AtOnce` names. -/
theorem step_sends {bs t : BrightnessService} (h : Stopped bs) {e : BrightnessEvent}
    (ht : bs.step e = some t) : Sends (bs.AtOnce e) bs t := by
  have hqueue := h.dimming
  cases e with
  | setDisplayState state => exact Option.some.inj ht ▸ setDisplayState_sends hqueue state
  | setScreenOnBrightness => exact Option.some.inj ht ▸ setScreenOnBrightness_sends h rfl
  | setBrightness value duration continuous =>
    exact Option.some.inj ht ▸ setBrightness_sends hqueue value duration continuous
      fun hmay hzero => ⟨hzero, hmay, rfl⟩
  | discountBrightness discount duration =>
    exact Option.some.inj ht ▸ discountBrightness_sends hqueue discount duration
      fun hon hzero => ⟨hon, hzero, rfl⟩
  | overrideBrightness value duration =>
    exact Option.some.inj ht ▸ overrideBrightness_sends hqueue value duration
      fun hcan hzero => ⟨hzero, hcan, rfl⟩
  | restoreBrightness duration =>
    exact Option.some.inj ht ▸ restoreBrightness_sends hqueue duration
      fun hover hzero => ⟨hzero, hover, rfl⟩
  | boostBrightness duration =>
    have hrefused : bs.boostBrightness duration = (bs, false) := by
      rw [boostBrightness, if_pos (by simp [h.queue])]
    exact Option.some.inj ht ▸ .same (by rw [hrefused]) (by rw [hrefused])
  | cancelBoostBrightness duration =>
    have hrefused := cancelBoostBrightness_noQueue h.queue duration
    exact Option.some.inj ht ▸ .same (by rw [hrefused]) (by rw [hrefused])
  | setMaxBrightness value => exact Option.some.inj ht ▸ changeMaxBrightness_sends hqueue _
  | setMaxBrightnessNit maxNit => exact Option.some.inj ht ▸ changeMaxBrightness_sends hqueue _
  | processLightLux lux currentTime =>
    exact processLightLux_sends hqueue (fun hcan hfirst _ => ⟨hcan, hfirst⟩) ht
  | autoAdjustBrightness enable => exact Option.some.inj ht ▸ autoAdjustBrightness_sends enable
  | clearOffset =>
    have hstop := Sends.stopIfDimming (V := bs.AtOnce .clearOffset) bs
    exact Option.some.inj ht ▸ ⟨hstop.queue, hstop.fading, hstop.commanded⟩
  | onFoldStatusChanged foldStatus =>
    exact Option.some.inj ht ▸ onFoldStatusChanged_sends hqueue foldStatus fun hcan _ => hcan
  | foldDisplayModeChanged mode => exact Option.some.inj ht ▸ .same rfl rfl
  | setDisplayId displayId => exact Option.some.inj ht ▸ .same rfl rfl
  | runTask id => exact runTask_sends h ht

/-! ## What stays -/

/-- What no step changes once the queue of the service is gone. -/
structure Frozen (a v : Timers) : Prop where
  queue : v.hasQueue = false
  boosted : v.isBrightnessBoosted = a.isBrightnessBoosted
  free : a.isBrightnessBoosted = true → a.isBrightnessOverridden = false →
    v.isBrightnessOverridden = false
  waits : ∀ id value, (id, .waitForFirstLux value) ∈ v.tasks.pending →
    (id, .waitForFirstLux value) ∈ a.tasks.pending

theorem Frozen.refl {v : Timers} (h : v.hasQueue = false) : Frozen v v :=
  ⟨h, rfl, fun _ hfree => hfree, fun _ _ hp => hp⟩

theorem Frozen.endBoost {a v : Timers} (h : Frozen a v) : Frozen a v.endBoost := by
  rw [Timers.endBoost, if_neg (by simp [h.queue])]
  exact h

theorem Frozen.move {a v w : Timers} (h : Frozen a v) (hmove : Timers.Move v w) : Frozen a w := by
  have hwaits (id value : ℕ) (hp : (id, .waitForFirstLux value) ∈ w.tasks.pending) :
      (id, .waitForFirstLux value) ∈ a.tasks.pending :=
    h.waits id value (hmove.follow.pending id _ rfl hp)
  cases hmove with
  | stopFade => exact ⟨h.queue, h.boosted, h.free, hwaits⟩
  | startFade => exact ⟨h.queue, h.boosted, h.free, hwaits⟩
  | submitted => exact ⟨h.queue, h.boosted, h.free, hwaits⟩
  | lightArrived => exact ⟨h.queue, h.boosted, h.free, hwaits⟩
  | taken => exact ⟨h.queue, h.boosted, h.free, hwaits⟩
  | boostEnded => exact h.endBoost
  | boostExpired id =>
    have hremoved : Frozen a { v with tasks := v.tasks.remove id } :=
      ⟨h.queue, h.boosted, h.free, fun i value hp => h.waits i value (Tasks.mem_remove.mp hp).1⟩
    exact hremoved.endBoost
  | waitOver => exact ⟨h.queue, h.boosted, h.free, hwaits⟩
  | overridden hunboosted =>
    refine ⟨h.queue, h.boosted, ?_, hwaits⟩
    intro hboosted
    rw [← h.boosted, hunboosted] at hboosted
    cases hboosted
  | released => exact ⟨h.queue, h.boosted, fun _ _ => rfl, hwaits⟩

theorem Frozen.moves {a v w : Timers} (h : Frozen a v) (hmoves : Timers.Moves v w) : Frozen a w :=
  hmoves.keeps (J := Frozen a) (fun _ _ hmove hv => hv.move hmove) h

theorem setScreenOnBrightness_frozen {a : Timers} {bs : BrightnessService}
    (h : Frozen a bs.timers) : Frozen a bs.setScreenOnBrightness.timers := by
  have hwait (waits : Bool) :
      Frozen a ({ bs with waitForFirstLux := waits } : BrightnessService).timers :=
    ⟨h.queue, h.boosted, h.free, h.waits⟩
  have hget : Frozen a (bs.getScreenOnBrightness true).1.timers :=
    getScreenOnBrightness_fst bs true ▸ hwait _
  rw [setScreenOnBrightness]
  dsimp only
  split
  · have hqueue : (bs.getScreenOnBrightness true).1.hasQueue = false := hget.queue
    rw [if_pos (by simp [hqueue])]
    exact hget
  · exact hget.moves (Timers.Moves.refl.update _ _ _)

theorem step_frozen {a : Timers} {bs t : BrightnessService} (h : Frozen a bs.timers)
    {e : BrightnessEvent} (ht : bs.step e = some t) : Frozen a t.timers := by
  by_cases hon : e = .setScreenOnBrightness
  · subst hon
    exact Option.some.inj ht ▸ setScreenOnBrightness_frozen h
  · refine h.moves (Timers.step_moves hon ?_ ht)
    intro haccepts
    have hqueue : bs.hasQueue = false := h.queue
    cases e with
    | boostBrightness duration => exact absurd (hqueue.symm.trans haccepts.2) Bool.false_ne_true
    | _ => exact haccepts

/-! ## The stop -/

theorem deInit_stopped (bs : BrightnessService) (left : List ℕ) : Stopped (bs.deInit left) := by
  rw [deInit, resetDimming, resetQueue]
  by_cases hqueue : bs.hasQueue = true
  · rw [if_pos hqueue]
    dsimp only
    split
    · exact ⟨rfl, rfl⟩
    · rename_i hdimming
      exact ⟨rfl, Bool.eq_false_of_not_eq_true hdimming⟩
  · rw [if_neg hqueue]
    have hnone := Bool.eq_false_of_not_eq_true hqueue
    split
    · exact ⟨hnone, rfl⟩
    · rename_i hdimming
      exact ⟨hnone, Bool.eq_false_of_not_eq_true hdimming⟩

theorem Stopped.deInit {bs : BrightnessService} (h : Stopped bs) (left : List ℕ) :
    bs.deInit left = bs := by
  rw [BrightnessService.deInit, resetQueue, if_neg (by simp [h.queue]), resetDimming,
    if_neg (by simp [h.dimming])]

/-- The stop touches the queues, their handles and their tasks. -/
structure SameButQueues (a b : BrightnessService) : Prop where
  boosted : b.isBrightnessBoosted = a.isBrightnessBoosted
  overridden : b.isBrightnessOverridden = a.isBrightnessOverridden
  fading : b.dimming.isDimming = a.dimming.isDimming
  device : b.device = a.device
  limits : b.limits = a.limits

theorem deInit_same (bs : BrightnessService) (left : List ℕ) :
    SameButQueues bs (bs.deInit left) := by
  rw [deInit, resetDimming, resetQueue]
  repeat' split
  all_goals exact ⟨rfl, rfl, rfl, rfl, rfl⟩

theorem deInit_noWaitLeft {bs : BrightnessService} (hqueue : bs.hasQueue = true) {left : List ℕ}
    (hleft : ∀ id ∈ left, ∀ value, (id, .waitForFirstLux value) ∉ bs.tasks.pending) :
    NoWaitLeft (bs.deInit left) := by
  intro id value hp
  have hretained : (id, .waitForFirstLux value) ∈ (bs.resetQueue left).tasks.pending := by
    rw [deInit, resetDimming] at hp
    split at hp
    · exact (Tasks.mem_retain.mp hp).1
    · exact hp
  rw [resetQueue, if_pos hqueue] at hretained
  obtain ⟨hold, hkept⟩ := Tasks.mem_retain.mp hretained
  have hin : id ∈ left := by simpa [BrightnessTask.ofService] using hkept
  exact hleft id hin value hold

end BrightnessService

/-! ## From the initialisation on -/

/-- The service and the flag of the `call_once` in `Init`. -/
structure BrightnessServiceLife where
  brightness : BrightnessService
  initCallFlag : Bool := false

/-- A stop also says which tasks of the dropped queues still run. -/
inductive LifeEvent where
  | init (boot : BrightnessBoot) (defaultMax defaultMin : ℕ)
  | deInit (left : List ℕ)
  | brightness (e : BrightnessEvent)

namespace BrightnessServiceLife

open BrightnessService

def init (s : BrightnessServiceLife) (boot : BrightnessBoot) (defaultMax defaultMin : ℕ) :
    BrightnessServiceLife :=
  if s.initCallFlag then s
  else { brightness := s.brightness.initOnce boot defaultMax defaultMin, initCallFlag := true }

def deInit (s : BrightnessServiceLife) (left : List ℕ) : BrightnessServiceLife :=
  { s with brightness := s.brightness.deInit left }

def step (s : BrightnessServiceLife) : LifeEvent → Option BrightnessServiceLife
  | .init boot defaultMax defaultMin => some (s.init boot defaultMax defaultMin)
  | .deInit left => some (s.deInit left)
  | .brightness e => (s.brightness.step e).map fun bs => { s with brightness := bs }

def Gradual (s : BrightnessServiceLife) : LifeEvent → Prop
  | .brightness e => ∀ level, ¬ s.brightness.AtOnce e level
  | _ => True

/-- The service was initialised and then stopped in the state `a`. -/
structure StoppedSince (a : BrightnessService) (s : BrightnessServiceLife) : Prop where
  initialised : s.initCallFlag = true
  frozen : Frozen a.timers s.brightness.timers
  dimming : s.brightness.dimming.hasQueue = false
  fading : s.brightness.dimming.isDimming = true → a.dimming.isDimming = true

variable {a : BrightnessService} {s t : BrightnessServiceLife}

theorem StoppedSince.stopped (h : StoppedSince a s) : Stopped s.brightness :=
  ⟨h.frozen.queue, h.dimming⟩

/-- What is not asked of the brightness itself passes a stopped service by. -/
theorem StoppedSince.step_cases (h : StoppedSince a s) {e : LifeEvent} (ht : s.step e = some t) :
    t = s ∨ ∃ b bs, e = .brightness b ∧ s.brightness.step b = some bs ∧
      t = { s with brightness := bs } := by
  cases e with
  | init boot defaultMax defaultMin =>
    left
    refine (Option.some.inj ht).symm.trans ?_
    rw [init, if_pos h.initialised]
  | deInit left =>
    left
    refine (Option.some.inj ht).symm.trans ?_
    rw [deInit, h.stopped.deInit]
  | brightness b =>
    right
    obtain ⟨bs, hbs, rfl⟩ := Option.map_eq_some_iff.mp ht
    exact ⟨b, bs, rfl, hbs, rfl⟩

theorem StoppedSince.next (h : StoppedSince a s) {e : LifeEvent} (ht : s.step e = some t) :
    StoppedSince a t := by
  rcases h.step_cases ht with rfl | ⟨b, bs, rfl, hbs, rfl⟩
  · exact h
  · have hsends := step_sends h.stopped hbs
    refine ⟨h.initialised, step_frozen h.frozen hbs, ?_, ?_⟩
    · exact hsends.queue.trans h.dimming
    · intro hfading
      exact h.fading (hsends.fading hfading)

theorem stoppedSince_deInit (hinit : s.initCallFlag = true) (left : List ℕ) :
    StoppedSince (s.brightness.deInit left) (s.deInit left) where
  initialised := hinit
  frozen := .refl (deInit_stopped s.brightness left).queue
  dimming := (deInit_stopped s.brightness left).dimming
  fading h := h

theorem StoppedSince.commanded (h : StoppedSince a s) {e : LifeEvent} (ht : s.step e = some t) :
    t.brightness.device = s.brightness.device ∨
      ∃ b displayId level, e = .brightness b ∧ s.brightness.AtOnce b level ∧
        t.brightness.device = (s.brightness.device.setBrightness displayId level).1 := by
  rcases h.step_cases ht with rfl | ⟨b, bs, rfl, hbs, rfl⟩
  · exact Or.inl rfl
  · refine (step_sends h.stopped hbs).commanded.imp_right ?_
    rintro ⟨displayId, level, hnow, hdevice⟩
    exact ⟨b, displayId, level, rfl, hnow, hdevice⟩

/-- A service that was initialised and stopped stays stopped, whatever calls follow, `Init` among
them: no boost begins or ends, no fade begins, and as long as only gradual changes are asked for
the panel is sent nothing. -/
theorem stays_stopped {left : List ℕ} {es : List LifeEvent} (hinit : s.initCallFlag = true)
    (hr : Runs.run step s (.deInit left :: es) = some t) :
    Stopped t.brightness ∧
      t.brightness.isBrightnessBoosted = s.brightness.isBrightnessBoosted ∧
      (t.brightness.dimming.isDimming = true → s.brightness.dimming.isDimming = true) ∧
      (Runs.Always step Gradual (s.deInit left) es →
        t.brightness.device = s.brightness.device) := by
  have hstart := stoppedSince_deInit hinit left
  have hsame := deInit_same s.brightness left
  have hend := Runs.run_invariant (C := fun _ _ => True)
    (fun _ _ _ hu _ hv => StoppedSince.next hu hv) hstart
    (Runs.always_of_forall (fun _ _ _ => trivial) _) hr
  refine ⟨hend.stopped, hend.frozen.boosted.trans hsame.boosted, ?_, ?_⟩
  · intro hfading
    exact hsame.fading ▸ hend.fading hfading
  · intro hgradual
    refine (Runs.run_invariant (C := Gradual) (J := fun u => StoppedSince
      (s.brightness.deInit left) u ∧ u.brightness.device = s.brightness.device)
      ?_ ⟨hstart, hsame.device⟩ hgradual hr).2
    rintro u e v ⟨hu, hdevice⟩ hquiet hv
    refine ⟨hu.next hv, ?_⟩
    rcases hu.commanded hv with hkept | ⟨b, displayId, level, rfl, hnow, -⟩
    · exact hkept.trans hdevice
    · exact absurd hnow (hquiet level)

/-- Stopped and started again, the service says yes to a gradual change and shows nothing of
it. -/
theorem restart_shows_nothing :
    (((({ state := .on } : BrightnessBoot).start.deInit []).setBrightness 80 500 false).2 = true) ∧
      ∃ t, Runs.run step ⟨({ state := .on } : BrightnessBoot).start, true⟩
          [.deInit [], .init {} 255 1, .brightness (.setBrightness 80 500 false)] = some t ∧
        Stopped t.brightness ∧
          t.brightness.device = ({ state := .on } : BrightnessBoot).start.device := by
  refine ⟨rfl, _, rfl, ?_⟩
  obtain ⟨hstopped, -, -, hshown⟩ := @stays_stopped
    ⟨({ state := .on } : BrightnessBoot).start, true⟩ _ []
    [.init {} 255 1, .brightness (.setBrightness 80 500 false)] rfl rfl
  refine ⟨hstopped, hshown ⟨trivial, fun u hu => ⟨?_, fun _ _ => trivial⟩⟩⟩
  rintro level ⟨hzero, -⟩
  cases hzero

/-! ## A stop during a boost -/

/-- What an event sends to the panel is the boosted brightness under the cap and the discount that
are in force as it is sent. -/
def SendsBoost (s : BrightnessServiceLife) (e : LifeEvent) : Prop :=
  ∀ t, s.step e = some t → t.brightness.device.written = s.brightness.device.written ∨
    ∃ displayId, t.brightness.device.written = s.brightness.device.written ++
      [(displayId, t.brightness.deviceLevel t.brightness.param.maxBrightness)]

theorem deviceLevel_of_limits {bs bs' : BrightnessService} (h : bs'.limits = bs.limits)
    (value : ℕ) : bs'.deviceLevel value = bs.deviceLevel value := by
  have hparam : bs'.param = bs.param := congrArg Limits.param h
  have hmax : bs'.brightnessValueMax = bs.brightnessValueMax :=
    congrArg Limits.brightnessValueMax h
  have hmin : bs'.brightnessValueMin = bs.brightnessValueMin :=
    congrArg Limits.brightnessValueMin h
  have hdiscount : bs'.discount = bs.discount := congrArg Limits.discount h
  rw [deviceLevel, deviceLevel, getSafeBrightness, getSafeBrightness, hparam, hmax, hmin, hdiscount]

theorem boostLevel_of_atOnce {bs bs' : BrightnessService}
    (hboosted : bs.isBrightnessBoosted = true) (hfree : bs.isBrightnessOverridden = false)
    (hwaits : NoWaitLeft bs) {e : BrightnessEvent} (ht : bs.step e = some bs') {level : ℕ}
    (h : bs.AtOnce e level) : level = bs'.deviceLevel bs'.param.maxBrightness := by
  have hcan : bs.canSetBrightness = false := by simp [canSetBrightness, hboosted]
  have hlimits := step_limits ht
  cases e with
  | setDisplayState state =>
    cases state with
    | on => exact absurd (hfree.symm.trans h.2) Bool.false_ne_true
    | dim => exact absurd (h.1.symm.trans hboosted) Bool.false_ne_true
    | _ => exact h.elim
  | setScreenOnBrightness =>
    have hsame : bs'.limits = bs.limits := by
      rcases hlimits with hsame | ⟨_, _, hother, _⟩ | ⟨_, hother, _⟩
      · exact hsame
      · cases hother
      · cases hother
    have hparam : bs'.param = bs.param := congrArg Limits.param hsame
    have hmax : (bs.getScreenOnBrightness true).2 = bs.param.maxBrightness := by
      rw [getScreenOnBrightness, if_pos hboosted]
    rw [deviceLevel_of_limits hsame, hparam, ← hmax]
    exact h
  | setBrightness value duration continuous =>
    rcases h.2.1 with hover | hmay
    · exact absurd (hfree.symm.trans hover) Bool.false_ne_true
    · exact absurd (hcan.symm.trans hmay) Bool.false_ne_true
  | discountBrightness discount duration =>
    obtain ⟨hon, -, hlevel⟩ := h
    have hmax : bs.brightnessInForce = bs.param.maxBrightness := by
      rw [brightnessInForce, if_pos hboosted]
    have hsame : bs'.limits = { bs with discount := safeDiscount discount }.limits := by
      obtain rfl := Option.some.inj ht
      rw [(discountBrightness_butRequests bs discount duration).limits, if_pos hon]
    have hparam : bs'.param = bs.param := congrArg Limits.param hsame
    rw [deviceLevel_of_limits hsame, hparam, ← hmax]
    exact hlevel
  | overrideBrightness value duration =>
    have hmay := h.2.1
    rw [canOverrideBrightness, hboosted, Bool.not_true, Bool.and_false] at hmay
    cases hmay
  | restoreBrightness duration => exact absurd (hfree.symm.trans h.2.1) Bool.false_ne_true
  | processLightLux lux currentTime => exact absurd (hcan.symm.trans h.1) Bool.false_ne_true
  | onFoldStatusChanged foldStatus => exact absurd (hcan.symm.trans h) Bool.false_ne_true
  | runTask id =>
    obtain ⟨value, hp, -⟩ := h
    exact absurd hp (hwaits id value)
  | _ => exact h.elim

theorem StoppedSince.sendsBoost (h : StoppedSince a s) (hboosted : a.isBrightnessBoosted = true)
    (hfree : a.isBrightnessOverridden = false) (hwaits : NoWaitLeft a) (e : LifeEvent) :
    s.SendsBoost e := by
  intro t ht
  have hstay : s.brightness.isBrightnessBoosted = true := h.frozen.boosted.trans hboosted
  have hover : s.brightness.isBrightnessOverridden = false := h.frozen.free hboosted hfree
  have hnone : NoWaitLeft s.brightness :=
    fun id value hp => hwaits id value (h.frozen.waits id value hp)
  rcases h.step_cases ht with rfl | ⟨b, bs, rfl, hbs, rfl⟩
  · exact Or.inl rfl
  · rcases (step_sends h.stopped hbs).commanded with hsame | ⟨displayId, level, hnow, hdevice⟩
    · exact Or.inl (congrArg Device.written hsame)
    · obtain rfl := boostLevel_of_atOnce hstay hover hnone hbs hnow
      exact Or.inr ⟨displayId, congrArg Device.written hdevice⟩

/-- A service that is stopped during a boost stays boosted, whatever calls follow, `Init` among
them: every request to set, override, restore or unboost is refused, light reports are ignored,
and the panel is only ever sent the level of the boost. -/
theorem stopped_in_boost {bs : BrightnessService} (h : Reachable bs)
    (hboosted : bs.isBrightnessBoosted = true) {left : List ℕ}
    (hleft : ∀ id ∈ left, ∀ value, (id, .waitForFirstLux value) ∉ bs.tasks.pending)
    {es : List LifeEvent} {t : BrightnessServiceLife}
    (hr : Runs.run step { brightness := bs, initCallFlag := true } (.deInit left :: es) =
      some t) :
    t.brightness.isBrightnessBoosted = true ∧
      (∀ value duration continuous,
        (t.brightness.setBrightness value duration continuous).2 = false) ∧
      (∀ value duration, t.brightness.overrideBrightness value duration =
        (t.brightness, false)) ∧
      (∀ duration, t.brightness.restoreBrightness duration = (t.brightness, false) ∧
        t.brightness.cancelBoostBrightness duration = (t.brightness, false)) ∧
      (∀ lux currentTime, t.brightness.processLightLux lux currentTime = some t.brightness) ∧
      Runs.Always step SendsBoost { brightness := bs, initCallFlag := true }
        (.deInit left :: es) := by
  have hone := BoostAndOverride.Reachable.oneEnd h
  have hqueue : bs.hasQueue = true := (hone.boosted hboosted).1
  have hfree : bs.isBrightnessOverridden = false := by
    by_contra hover
    have hunboosted := hone.exclusive (Bool.eq_true_of_not_eq_false hover)
    exact absurd (hunboosted.symm.trans hboosted) Bool.false_ne_true
  have hsame := deInit_same bs left
  have hboosted' := hsame.boosted.trans hboosted
  have hfree' := hsame.overridden.trans hfree
  have hstart : StoppedSince (bs.deInit left)
      { brightness := bs.deInit left, initCallFlag := true } :=
    stoppedSince_deInit (s := ⟨bs, true⟩) rfl left
  have hend := Runs.run_invariant (C := fun _ _ => True)
    (fun _ _ _ hu _ hv => StoppedSince.next hu hv) hstart
    (Runs.always_of_forall (fun _ _ _ => trivial) _) hr
  have hstay : t.brightness.isBrightnessBoosted = true := hend.frozen.boosted.trans hboosted'
  have hover : t.brightness.isBrightnessOverridden = false := hend.frozen.free hboosted' hfree'
  have hcan : t.brightness.canSetBrightness = false := by simp [canSetBrightness, hstay]
  refine ⟨hstay, ?_, ?_, ?_, ?_, ?_⟩
  · intro value duration continuous
    rw [setBrightness, if_pos (by simp [hover, hcan])]
  · intro value duration
    rw [overrideBrightness, if_pos (by simp [canOverrideBrightness, hstay])]
  · intro duration
    refine ⟨?_, cancelBoostBrightness_noQueue hend.stopped.queue duration⟩
    rw [restoreBrightness, if_pos (by simp [hover])]
  · intro lux currentTime
    rw [processLightLux, if_pos (by simp [hcan])]
  · refine ⟨?_, ?_⟩
    · intro u hu
      obtain rfl := Option.some.inj hu
      exact Or.inl (congrArg Device.written hsame.device)
    · intro u hu
      obtain rfl := Option.some.inj hu
      exact Runs.always_of_invariant (C := fun _ _ => True)
        (fun _ _ _ hv _ hw => StoppedSince.next hv hw)
        (fun _ e hv _ => hv.sendsBoost hboosted' hfree' (deInit_noWaitLeft hqueue hleft) e) hstart
        (Runs.always_of_forall (fun _ _ _ => trivial) _)

theorem restart_stays_boosted :
    ∃ t, Runs.run step
        { brightness := (({ state := .on } : BrightnessBoot).start.boostBrightness 0).1
          initCallFlag := true }
        [.deInit [], .init {} 255 1, .brightness (.cancelBoostBrightness 0)] = some t ∧
      t.brightness.isBrightnessBoosted = true ∧
        t.brightness.cancelBoostBrightness 0 = (t.brightness, false) := by
  refine ⟨_, rfl, ?_⟩
  have hreachable : Reachable (({ state := .on } : BrightnessBoot).start.boostBrightness 0).1 :=
    ⟨_, [.boostBrightness 0], ⟨{ state := .on }, rfl⟩, rfl⟩
  have hstays := @stopped_in_boost _ hreachable rfl [] (by simp)
    [.init {} 255 1, .brightness (.cancelBoostBrightness 0)] _ rfl
  exact ⟨hstays.1, (hstays.2.2.2.1 0).2⟩

end BrightnessServiceLife

end DisplayPowerMgr
