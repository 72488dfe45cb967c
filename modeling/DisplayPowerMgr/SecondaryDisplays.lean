import DisplayPowerMgr.LitAtOnce
import DisplayPowerMgr.RefusedPowerChange

/-! One `BrightnessService` is told the state of every display, whatever its id. Exactly when a
request for a display leaves what the service controls of the panel as it was. -/
namespace DisplayPowerMgr

/-- The mode without the value of its override. -/
def BrightnessMode.flags (m : BrightnessMode) : BrightnessMode :=
  { m with overriddenBrightness := 0 }

namespace BrightnessConfig

def withSleepValue (cfg : BrightnessConfig) (m : BrightnessMode) : BrightnessMode :=
  { m with overriddenBrightness := cfg.sleepBrightness }

theorem withSleepValue_eq_iff {cfg : BrightnessConfig} {m m' : BrightnessMode} :
    cfg.withSleepValue m = cfg.withSleepValue m' ↔ m.flags = m'.flags := by
  simp [withSleepValue, BrightnessMode.flags]

theorem enter_withSleepValue (cfg : BrightnessConfig) (m : BrightnessMode)
    (state : DisplayState) :
    cfg.enter (cfg.withSleepValue m) state = cfg.withSleepValue (cfg.enter m state) := by
  cases state with
  | dim =>
    rw [enter, enter, settle, settle]
    by_cases hlow : cfg.settingBrightness ≤ BrightnessService.MIN_DEFAULT_BRGIHTNESS_LEVEL
    · rw [if_pos hlow, if_pos hlow]
      rfl
    · rw [if_neg hlow, if_neg hlow]
      cases cfg.isBrightnessBoosted with
      | true => rfl
      | false => rfl
  | _ => rfl

theorem enter_flags_iff (cfg : BrightnessConfig) (m : BrightnessMode) (state : DisplayState) :
    (cfg.enter m state).flags = m.flags ↔
      cfg.enter (cfg.withSleepValue m) state = cfg.withSleepValue m := by
  rw [enter_withSleepValue, withSleepValue_eq_iff]

theorem enter_enter_flags_iff (cfg : BrightnessConfig) (m : BrightnessMode)
    {via back : DisplayState} (hvia : via = .off ∨ via = .doze) :
    (cfg.enter (cfg.enter m via) back).flags = m.flags ↔
      cfg.Returns (cfg.withSleepValue m) via back := by
  rw [← enter_enter_eq_iff cfg _ hvia, enter_withSleepValue, enter_withSleepValue,
    withSleepValue_eq_iff]

theorem enter_dim_flags_iff (cfg : BrightnessConfig) (m : BrightnessMode) :
    (cfg.enter m .dim).flags = m.flags ↔
      m.state = .dim ∧ cfg.SensorsStay m.sensors .dim ∧
        (cfg.settingBrightness ≤ BrightnessService.MIN_DEFAULT_BRGIHTNESS_LEVEL ∨
          m.isSleepStatus = true ∧
            (cfg.isBrightnessBoosted = true ∨ m.isBrightnessOverridden = true)) := by
  rw [← enterSensors_eq_iff, enter, settle]
  obtain ⟨stored, overridden, value, sleep, target, sensors⟩ := m
  have hstate : DisplayState.dim = stored ↔ stored = DisplayState.dim := eq_comm
  by_cases hlow : cfg.settingBrightness ≤ BrightnessService.MIN_DEFAULT_BRGIHTNESS_LEVEL
  · rw [if_pos hlow]
    simp [BrightnessMode.flags, hlow, hstate]
  · rw [if_neg hlow]
    cases hboosted : cfg.isBrightnessBoosted with
    | true => cases sleep <;> simp [BrightnessMode.flags, hlow, hstate]
    | false =>
      cases sleep <;> cases overridden <;> simp [BrightnessMode.flags, hlow, hstate]

theorem stays_withSleepValue_iff {cfg : BrightnessConfig} {m : BrightnessMode}
    {state : DisplayState} : cfg.Stays (cfg.withSleepValue m) state ↔ cfg.Stays m state :=
  ⟨fun h => ⟨h.stored, h.sensors, h.awake, h.target⟩,
    fun h => ⟨h.stored, h.sensors, h.awake, h.target⟩⟩

theorem enter_flags_stays_iff (cfg : BrightnessConfig) (m : BrightnessMode)
    {state : DisplayState} (hdim : state ≠ .dim) :
    (cfg.enter m state).flags = m.flags ↔ cfg.Stays m state := by
  rw [enter_flags_iff, enter_eq_iff cfg _ hdim, stays_withSleepValue_iff]

end BrightnessConfig

namespace BrightnessService

def runningFade (bs : BrightnessService) : Option BrightnessDimming :=
  if bs.dimming.isDimming then some bs.dimming else none

/-- What the service controls of the panel, and what it decides by. -/
structure PanelControl where
  state : DisplayState
  sensors : AmbientSensors
  isBrightnessOverridden : Bool
  isSleepStatus : Bool
  isBrightnessBoosted : Bool
  brightnessTarget : ℕ
  runningFade : Option BrightnessDimming
  level : ℕ

def panelControl (bs : BrightnessService) : PanelControl where
  state := bs.state
  sensors := ⟨bs.isLightSensorEnabled, bs.isLightSensor1Enabled⟩
  isBrightnessOverridden := bs.isBrightnessOverridden
  isSleepStatus := bs.isSleepStatus
  isBrightnessBoosted := bs.isBrightnessBoosted
  brightnessTarget := bs.brightnessTarget
  runningFade := bs.runningFade
  level := bs.shown

def SamePanel (a b : BrightnessService) : Prop :=
  b.runningFade = a.runningFade ∧ b.shown = a.shown

def SameLight (a b : BrightnessService) : Prop :=
  b = { a with
        state := b.state
        isLightSensorEnabled := b.isLightSensorEnabled
        isLightSensor1Enabled := b.isLightSensor1Enabled
        currentSensorId := b.currentSensorId
        lightLuxManager := b.lightLuxManager
        isSleepStatus := b.isSleepStatus
        isDisplayOnWhenFirstLuxReport := b.isDisplayOnWhenFirstLuxReport
        dimming := b.dimming
        animatorTaskHandle := b.animatorTaskHandle
        tasks := b.tasks
        settings := { a.settings with autoBrightness := b.settings.autoBrightness } }

/-! ## When nothing of the panel changes -/

def LevelStays (bs : BrightnessService) (value : ℕ) : Prop :=
  bs.accepts = false ∨ bs.shown = bs.deviceLevel value

def fadeAfter (bs : BrightnessService) (value duration : ℕ) : Option BrightnessDimming :=
  let dimming := ({ bs.dimming with isDimming := false } : BrightnessDimming).startDimming
    bs.getSettingBrightness (bs.deviceLevel value) duration
  if 0 < duration ∧ dimming.1.isDimming = true then some dimming.1 else none

def UpdateStays (bs : BrightnessService) (value duration : ℕ) : Prop :=
  bs.runningFade = bs.fadeAfter value duration ∧ (duration = 0 → bs.LevelStays value)

/-- The service would wait for light instead of lighting the screen, or shows the level already
and fades to no other. -/
def LightStays (bs : BrightnessService) : Prop :=
  (bs.waitForFirstLux = true ∨ ¬ bs.KnowsBrightness) ∨
    bs.runningFade = none ∧ bs.LevelStays (bs.getScreenOnBrightness true).2

def sleepLevel (bs : BrightnessService) : ℕ :=
  enterSleepBrightness bs.param bs.getSettingBrightness

def StaysIn (bs : BrightnessService) (state : DisplayState) : Prop :=
  match state with
  | .dim =>
    bs.state = .dim ∧ bs.config.SensorsStay bs.mode.sensors .dim ∧
      (bs.getSettingBrightness ≤ MIN_DEFAULT_BRGIHTNESS_LEVEL ∨
        bs.isSleepStatus = true ∧ (bs.isBrightnessBoosted = true ∨
          bs.isBrightnessOverridden = true ∧
            bs.UpdateStays bs.sleepLevel bs.param.sleepDarkenTime))
  | .off => bs.config.Stays bs.mode .off ∧ bs.runningFade = none
  | state => bs.config.Stays bs.mode state

/-- The sleep override is wanted: dim sets its level. -/
def Dims (bs : BrightnessService) (back : DisplayState) : Prop :=
  back = .dim ∧ ¬ bs.getSettingBrightness ≤ MIN_DEFAULT_BRGIHTNESS_LEVEL ∧
    bs.isBrightnessBoosted = false

instance (bs : BrightnessService) (back : DisplayState) : Decidable (bs.Dims back) :=
  inferInstanceAs (Decidable (_ ∧ _))

/-- The panel shows the level of the sleep override, or takes none of the commands for it: one,
or two when the override is not faded in. -/
def SleepLevelStays (bs : BrightnessService) : Prop :=
  bs.shown = bs.deviceLevel bs.sleepLevel ∨
    bs.accepts = false ∧
      (bs.param.sleepDarkenTime = 0 → bs.device.answers.tail.headD true = false)

/-- Entering `via` and then `back`, with the screen lit for on and dim, ends where it began. -/
def ReturnsTo (bs : BrightnessService) (via back : DisplayState) : Prop :=
  bs.config.Returns (bs.config.withSleepValue bs.mode) via back ∧
    if bs.Dims back then
      bs.runningFade = none ∧ bs.SleepLevelStays
    else
      (via = .off ∨ back = .off → bs.runningFade = none) ∧
        (back = .on ∨ back = .dim → bs.LightStays)

/-- What an undone change of the display state does. -/
def undone (bs : BrightnessService) (via back : DisplayState) : BrightnessService :=
  let bs := (bs.setDisplayState via).setDisplayState back
  if back = .on ∨ back = .dim then bs.setScreenOnBrightness else bs

/-! ## Updates -/

theorem SameLight.trans {a b c : BrightnessService} (hab : SameLight a b) (hbc : SameLight b c) :
    SameLight a c := by
  rw [SameLight] at *
  rw [hbc, hab]

theorem SameLight.shown {a b : BrightnessService} (h : SameLight a b) : b.shown = a.shown := by
  rw [h]
  rfl

theorem halted_shown (bs : BrightnessService) : bs.halted.shown = bs.shown := by
  have hid : bs.halted.displayId = bs.displayId := by rw [bs.halted_sameControl]
  rw [BrightnessService.shown, BrightnessService.shown, halted_device, hid]

theorem halted_dimming (bs : BrightnessService) :
    bs.halted.dimming = { bs.dimming with isDimming := false } := by
  rw [halted, stopIfDimming]
  split
  · rfl
  · rename_i hidle
    have hfalse : bs.dimming.isDimming = false := Bool.eq_false_iff.mpr hidle
    rw [← hfalse]

theorem startDimming_panel (bs : BrightnessService) (f t duration : ℕ) :
    (bs.startDimming f t duration).dimming = (bs.dimming.startDimming f t duration).1 ∧
      (bs.startDimming f t duration).shown = bs.shown := by
  rw [startDimming]
  dsimp only
  split
  · exact ⟨rfl, rfl⟩
  · exact ⟨rfl, rfl⟩

theorem updateBrightness_panel (bs : BrightnessService) (value duration : ℕ)
    (updateSetting : Bool) :
    (bs.updateBrightness value duration updateSetting).1.runningFade =
        bs.fadeAfter value duration ∧
      (bs.updateBrightness value duration updateSetting).1.shown =
        if duration = 0 ∧ bs.accepts = true then bs.deviceLevel value else bs.shown := by
  rcases Nat.eq_zero_or_pos duration with rfl | hd
  · have hidle := bs.halted_isDimming
    have hid : bs.halted.displayId = bs.displayId := by rw [bs.halted_sameControl]
    have hlevel := setBrightness_level bs.device bs.displayId (bs.deviceLevel value)
    rw [updateBrightness_now]
    dsimp only
    constructor
    · rw [fadeAfter]
      split
      · simp [runningFade, submitTask, hidle]
      · simp [runningFade, hidle]
    · have hshown : (bs.device.setBrightness bs.displayId (bs.deviceLevel value)).1.level
          bs.halted.displayId = if 0 = 0 ∧ bs.accepts = true then bs.deviceLevel value
            else bs.shown := by
        rw [hid, hlevel]
        simp [accepts, BrightnessService.shown]
      split
      · exact hshown
      · exact hshown
  · rw [updateBrightness_gradual bs hd]
    obtain ⟨hdimming, hshown⟩ := startDimming_panel bs.halted bs.getSettingBrightness
      (bs.deviceLevel value) duration
    constructor
    · rw [runningFade, hdimming, halted_dimming, fadeAfter]
      simp [hd]
    · rw [hshown, halted_shown, if_neg (by omega)]

theorem updateBrightness_stays_iff (bs : BrightnessService) (value duration : ℕ)
    (updateSetting : Bool) :
    SamePanel bs (bs.updateBrightness value duration updateSetting).1 ↔
      bs.UpdateStays value duration := by
  obtain ⟨hfade, hshown⟩ := updateBrightness_panel bs value duration updateSetting
  rw [SamePanel, UpdateStays, hfade, hshown]
  apply and_congr eq_comm
  by_cases hnow : duration = 0
  · cases haccepts : bs.accepts with
    | false => simp [LevelStays, haccepts]
    | true => simp [LevelStays, hnow, haccepts, eq_comm]
  · simp [hnow]

/-! ## Lighting the screen -/

theorem waits_iff (bs : BrightnessService) :
    (bs.getScreenOnBrightness true).1.waitForFirstLux = true ↔
      bs.waitForFirstLux = true ∨ ¬ bs.KnowsBrightness := by
  by_cases hknown : bs.KnowsBrightness
  · rw [getScreenOnBrightness_known hknown]
    simp [hknown]
  · refine iff_of_true ?_ (Or.inr hknown)
    simp only [KnowsBrightness, not_or, Bool.not_eq_false, Bool.not_eq_true] at hknown
    obtain ⟨hauto, hover, hboosted, htarget⟩ := hknown
    simp [getScreenOnBrightness, hauto, hover, hboosted, htarget]

theorem setScreenOnBrightness_stays_iff (bs : BrightnessService) :
    SamePanel bs bs.setScreenOnBrightness ↔ bs.LightStays := by
  by_cases hwaits : (bs.getScreenOnBrightness true).1.waitForFirstLux = true
  · refine iff_of_true ?_ (Or.inl ((waits_iff bs).mp hwaits))
    have hget := getScreenOnBrightness_fst bs true
    rw [setScreenOnBrightness]
    dsimp only
    rw [if_pos hwaits, hget]
    split
    · exact ⟨rfl, rfl⟩
    · exact ⟨rfl, rfl⟩
  · have hknown := not_or.mp ((not_congr (waits_iff bs)).mp hwaits)
    have hlight := setScreenOnBrightness_lights (not_not.mp hknown.2) (by simpa using hknown.1)
    rw [hlight, updateBrightness_stays_iff, LightStays]
    rw [or_iff_right (fun h => hwaits ((waits_iff bs).mpr h))]
    simp [UpdateStays, fadeAfter]

theorem setScreenOnBrightness_fade {bs : BrightnessService} (h : bs.runningFade = none) :
    bs.setScreenOnBrightness.runningFade = none := by
  by_cases hwaits : (bs.getScreenOnBrightness true).1.waitForFirstLux = true
  · exact (((setScreenOnBrightness_stays_iff bs).mpr (Or.inl ((waits_iff bs).mp hwaits))).1).trans h
  · have hknown := not_or.mp ((not_congr (waits_iff bs)).mp hwaits)
    have hlight := setScreenOnBrightness_lights (not_not.mp hknown.2) (by simpa using hknown.1)
    rw [hlight, (updateBrightness_panel _ _ _ _).1]
    simp [fadeAfter]

theorem SameLight.lightStays_iff {a b : BrightnessService} (h : SameLight a b)
    (hfade : b.runningFade = none ↔ a.runningFade = none) : b.LightStays ↔ a.LightStays := by
  have hchoice : (b.getScreenOnBrightness true).2 = (a.getScreenOnBrightness true).2 := by
    rw [h]
    simp only [getScreenOnBrightness]
    repeat' split
    all_goals rfl
  have hlevel (value : ℕ) : b.LevelStays value ↔ a.LevelStays value := by
    rw [h]
    exact Iff.rfl
  have hwaits : (b.waitForFirstLux = true ∨ ¬ b.KnowsBrightness) ↔
      (a.waitForFirstLux = true ∨ ¬ a.KnowsBrightness) := by
    rw [h]
    exact Iff.rfl
  rw [LightStays, LightStays, hchoice, hlevel, hwaits, hfade]

/-! ## Entering a state -/

theorem enterState_light (bs : BrightnessService) (state : DisplayState) :
    SameLight bs (bs.enterState state) ∧ (bs.enterState state).dimming = bs.dimming := by
  have hsame := enterState_same bs state
  rw [SameButSensors] at hsame
  rw [SameLight, hsame]
  exact ⟨rfl, rfl⟩

theorem stopIfDimming_light (bs : BrightnessService) :
    SameLight bs bs.stopIfDimming ∧ bs.stopIfDimming.runningFade = none := by
  rw [stopIfDimming]
  split
  · exact ⟨rfl, rfl⟩
  · rename_i hidle
    exact ⟨rfl, if_neg hidle⟩

theorem setDisplayState_off_panel (bs : BrightnessService) :
    (bs.setDisplayState .off).runningFade = none ∧ (bs.setDisplayState .off).shown = bs.shown := by
  obtain ⟨henter, _⟩ := enterState_light bs .off
  have hshown := henter.shown
  rw [setDisplayState]
  generalize bs.enterState .off = b at hshown
  obtain ⟨hstop, hfade⟩ := stopIfDimming_light
    { (if b.isSleepStatus then
        { b with isBrightnessOverridden := false, isSleepStatus := false } else b) with
      brightnessTarget := 0 }
  refine ⟨hfade, hstop.shown.trans (Eq.trans ?_ hshown)⟩
  split
  · rfl
  · rfl

theorem setDisplayState_off_light (bs : BrightnessService) :
    SameLight
      { bs with
        isBrightnessOverridden := (bs.setDisplayState .off).isBrightnessOverridden
        brightnessTarget := 0 } (bs.setDisplayState .off) := by
  have henter := enterState_same bs .off
  rw [setDisplayState]
  generalize bs.enterState .off = b at henter
  obtain ⟨hstop, _⟩ := stopIfDimming_light
    { (if b.isSleepStatus then
        { b with isBrightnessOverridden := false, isSleepStatus := false } else b) with
      brightnessTarget := 0 }
  rw [SameLight] at hstop ⊢
  rw [hstop]
  cases hsleep : b.isSleepStatus with
  | false =>
    rw [if_neg (by simp), henter]
  | true =>
    rw [if_pos rfl, henter]

theorem setDisplayState_on_light {bs : BrightnessService} (hawake : bs.isSleepStatus = false) :
    SameLight bs (bs.setDisplayState .on) ∧ (bs.setDisplayState .on).dimming = bs.dimming := by
  obtain ⟨henter, hdimming⟩ := enterState_light bs .on
  have hawake' : (bs.enterState .on).isSleepStatus = false := by
    rw [enterState_same bs .on]
    exact hawake
  rw [setDisplayState]
  dsimp only
  rw [if_neg (by simp [hawake'])]
  refine ⟨henter.trans rfl, hdimming⟩

theorem setDisplayState_dim_light {bs : BrightnessService}
    (h : bs.getSettingBrightness ≤ MIN_DEFAULT_BRGIHTNESS_LEVEL ∨
      bs.isBrightnessBoosted = true) :
    SameLight bs (bs.setDisplayState .dim) ∧ (bs.setDisplayState .dim).dimming = bs.dimming := by
  obtain ⟨henter, hdimming⟩ := enterState_light bs .dim
  have hsetting : (bs.enterState .dim).getSettingBrightness = bs.getSettingBrightness := by
    rw [enterState_same bs .dim]
    rfl
  have hboosted : (bs.enterState .dim).isBrightnessBoosted = bs.isBrightnessBoosted := by
    rw [enterState_same bs .dim]
  rw [setDisplayState, setSleepBrightness, hsetting]
  by_cases hlow : bs.getSettingBrightness ≤ MIN_DEFAULT_BRGIHTNESS_LEVEL
  · rw [if_pos hlow]
    exact ⟨henter, hdimming⟩
  · rw [if_neg hlow, overrideBrightness, if_pos]
    · exact ⟨henter.trans rfl, hdimming⟩
    · simp [canOverrideBrightness, hboosted, h.resolve_left hlow]

def asleep (bs : BrightnessService) : BrightnessService :=
  { bs with
    isSleepStatus := true
    isBrightnessOverridden := true
    overriddenBrightness := bs.sleepLevel
    beforeOverriddenBrightness := bs.getSettingBrightness }

theorem setSleepBrightness_update {bs : BrightnessService} (hon : bs.isScreenOn = true)
    (hlow : ¬ bs.getSettingBrightness ≤ MIN_DEFAULT_BRGIHTNESS_LEVEL)
    (hboosted : bs.isBrightnessBoosted = false) :
    bs.setSleepBrightness =
      (bs.asleep.updateBrightness bs.sleepLevel bs.param.sleepDarkenTime false).1 := by
  have hcan : ({ bs with isSleepStatus := true } : BrightnessService).canOverrideBrightness =
      true := by
    have hon' : ({ bs with isSleepStatus := true } : BrightnessService).isScreenOn = true := hon
    rw [canOverrideBrightness, hon', Bool.true_and, hboosted]
    rfl
  rw [setSleepBrightness, if_neg hlow, overrideBrightness, hcan]
  rfl

theorem setDisplayState_dim_update (bs : BrightnessService)
    (hlow : ¬ bs.getSettingBrightness ≤ MIN_DEFAULT_BRGIHTNESS_LEVEL)
    (hboosted : bs.isBrightnessBoosted = false) :
    bs.setDisplayState .dim =
      ((bs.enterState .dim).asleep.updateBrightness bs.sleepLevel
        bs.param.sleepDarkenTime false).1 := by
  have hstate : (bs.enterState .dim).state = .dim :=
    congrArg BrightnessMode.state (enterState_mode bs .dim)
  have hon : (bs.enterState .dim).isScreenOn = true := by simp [isScreenOn, hstate]
  have hsame := enterState_same bs .dim
  have hlow' : ¬ (bs.enterState .dim).getSettingBrightness ≤ MIN_DEFAULT_BRGIHTNESS_LEVEL := by
    rw [hsame]
    exact hlow
  have hboosted' : (bs.enterState .dim).isBrightnessBoosted = false := by
    rw [hsame]
    exact hboosted
  have hlevel : (bs.enterState .dim).sleepLevel = bs.sleepLevel := by
    rw [hsame]
    rfl
  have hparam : (bs.enterState .dim).param = bs.param := by rw [hsame]
  rw [setDisplayState, setSleepBrightness_update hon hlow' hboosted', hlevel, hparam]

theorem setDisplayState_dim_stays_iff {bs : BrightnessService}
    (hlow : ¬ bs.getSettingBrightness ≤ MIN_DEFAULT_BRGIHTNESS_LEVEL)
    (hboosted : bs.isBrightnessBoosted = false) :
    SamePanel bs (bs.setDisplayState .dim) ↔
      bs.UpdateStays bs.sleepLevel bs.param.sleepDarkenTime := by
  have hpanel (t : BrightnessService) :
      SamePanel (bs.enterState .dim).asleep t ↔ SamePanel bs t := by
    rw [enterState_same bs .dim]
    exact Iff.rfl
  have hstays : (bs.enterState .dim).asleep.UpdateStays bs.sleepLevel bs.param.sleepDarkenTime ↔
      bs.UpdateStays bs.sleepLevel bs.param.sleepDarkenTime := by
    rw [enterState_same bs .dim]
    exact Iff.rfl
  rw [setDisplayState_dim_update bs hlow hboosted, ← hpanel, updateBrightness_stays_iff, hstays]

/-! ## The whole of what is controlled -/

theorem panelControl_eq_iff {a b : BrightnessService} :
    b.panelControl = a.panelControl ↔
      b.mode.flags = a.mode.flags ∧ b.isBrightnessBoosted = a.isBrightnessBoosted ∧
        SamePanel a b := by
  simp only [panelControl, PanelControl.mk.injEq, BrightnessMode.flags, mode,
    BrightnessMode.mk.injEq, SamePanel]
  tauto

theorem setDisplayState_boosted (bs : BrightnessService) (state : DisplayState) :
    (bs.setDisplayState state).isBrightnessBoosted = bs.isBrightnessBoosted :=
  congrArg BrightnessConfig.isBrightnessBoosted (setDisplayState_mode bs state).1

theorem SameLight.panel {a b : BrightnessService} (h : SameLight a b)
    (hdimming : b.dimming = a.dimming) : SamePanel a b := by
  refine ⟨?_, h.shown⟩
  rw [runningFade, hdimming]
  rfl

/-- A change of the display state leaves the panel under the same control exactly when there is
nothing to do. -/
theorem setDisplayState_stays_iff (bs : BrightnessService) (state : DisplayState) :
    (bs.setDisplayState state).panelControl = bs.panelControl ↔ bs.StaysIn state := by
  rw [panelControl_eq_iff, setDisplayState_boosted, (setDisplayState_mode bs state).2]
  rw [and_iff_right rfl]
  cases state with
  | dim =>
    rw [BrightnessConfig.enter_dim_flags_iff, StaysIn]
    by_cases hlow : bs.getSettingBrightness ≤ MIN_DEFAULT_BRGIHTNESS_LEVEL
    · obtain ⟨hsame, hdimming⟩ := setDisplayState_dim_light (Or.inl hlow)
      have hpanel := hsame.panel hdimming
      simp [hpanel, hlow, config, mode]
    · cases hboosted : bs.isBrightnessBoosted with
      | true =>
        obtain ⟨hsame, hdimming⟩ := setDisplayState_dim_light (Or.inr hboosted)
        have hpanel := hsame.panel hdimming
        simp [hpanel, hlow, hboosted, config, mode]
      | false =>
        rw [setDisplayState_dim_stays_iff hlow hboosted]
        simp only [config, mode, hlow, hboosted]
        tauto
  | off =>
    obtain ⟨hfade, hshown⟩ := setDisplayState_off_panel bs
    rw [BrightnessConfig.enter_flags_stays_iff _ _ (by simp), StaysIn, SamePanel, hfade, hshown]
    simp [eq_comm]
  | on =>
    rw [BrightnessConfig.enter_flags_stays_iff _ _ (by simp)]
    apply and_iff_left_of_imp
    intro hstays
    obtain ⟨hsame, hdimming⟩ := setDisplayState_on_light (hstays.awake (Or.inr rfl))
    exact hsame.panel hdimming
  | _ =>
    rw [BrightnessConfig.enter_flags_stays_iff _ _ (by simp)]
    apply and_iff_left_of_imp
    intro _
    obtain ⟨hsame, hdimming⟩ := enterState_light bs _
    exact hsame.panel hdimming

/-! ## Entering on and lighting the screen -/

theorem setScreenOnBrightness_boosted (bs : BrightnessService) :
    bs.setScreenOnBrightness.isBrightnessBoosted = bs.isBrightnessBoosted :=
  congrArg BrightnessConfig.isBrightnessBoosted (setScreenOnBrightness_mode bs).2

theorem SamePanel.iff_right {a b c : BrightnessService} (h : SamePanel a b) :
    SamePanel a c ↔ SamePanel b c := by
  rw [SamePanel, SamePanel, h.1, h.2]

theorem setDisplayState_on_lit_iff (bs : BrightnessService) :
    (bs.setDisplayState .on).setScreenOnBrightness.panelControl = bs.panelControl ↔
      bs.StaysIn .on ∧ bs.LightStays := by
  rw [panelControl_eq_iff, setScreenOnBrightness_boosted, setDisplayState_boosted,
    (setScreenOnBrightness_mode _).1, (setDisplayState_mode bs .on).2, and_iff_right rfl,
    BrightnessConfig.enter_flags_stays_iff _ _ (by simp)]
  apply and_congr_right
  intro hstays
  obtain ⟨hsame, hdimming⟩ := setDisplayState_on_light (hstays.awake (Or.inr rfl))
  have hpanel := hsame.panel hdimming
  rw [hpanel.iff_right, setScreenOnBrightness_stays_iff]
  apply hsame.lightStays_iff
  rw [hpanel.1]

/-! ## The undo -/

theorem updateBrightness_answers (bs : BrightnessService) (value duration : ℕ)
    (updateSetting : Bool) :
    (bs.updateBrightness value duration updateSetting).1.device.answers =
      if duration = 0 then bs.device.answers.tail else bs.device.answers := by
  rcases Nat.eq_zero_or_pos duration with rfl | hd
  · rw [updateBrightness_now]
    dsimp only
    split
    · rfl
    · rfl
  · have hdevice := halted_device bs
    rw [updateBrightness_gradual bs hd, if_neg (by omega), ← hdevice, startDimming]
    dsimp only
    split
    · rfl
    · rfl

theorem level_after_two (answers : List Bool) (duration level shown : ℕ) :
    (if 0 = 0 ∧ (if duration = 0 then answers.tail else answers).headD true = true then level
      else if duration = 0 ∧ answers.headD true = true then level else shown) = shown ↔
      shown = level ∨ answers.headD true = false ∧
        (duration = 0 → answers.tail.headD true = false) := by
  have hsymm : level = shown ↔ shown = level := eq_comm
  by_cases hnow : duration = 0
  · rw [if_pos hnow]
    cases answers.headD true <;> cases answers.tail.headD true <;> simp [hnow, hsymm]
  · rw [if_neg hnow]
    cases answers.headD true <;> simp [hnow, hsymm]

theorem dim_lit_stays_iff {a b : BrightnessService} {overridden : Bool} {target : ℕ}
    (h : SameLight { a with isBrightnessOverridden := overridden, brightnessTarget := target } b)
    (hlow : ¬ a.getSettingBrightness ≤ MIN_DEFAULT_BRGIHTNESS_LEVEL)
    (hboosted : a.isBrightnessBoosted = false) :
    SamePanel a (b.setDisplayState .dim).setScreenOnBrightness ↔
      a.runningFade = none ∧ a.SleepLevelStays := by
  have hsame := enterState_same b .dim
  rw [SameLight] at h
  have hlevel : b.sleepLevel = a.sleepLevel := by
    rw [h]
    rfl
  have hparam : b.param = a.param := by rw [h]
  have hdim := setDisplayState_dim_update b (by rw [h]; exact hlow)
    (by rw [h]; exact hboosted)
  rw [hlevel, hparam] at hdim
  -- the state in which the sleep override sets its level
  generalize hu : (b.enterState .dim).asleep = u at hdim
  have hshown : u.shown = a.shown := by
    rw [← hu, hsame, h]
    rfl
  have haccepts : u.device = a.device := by
    rw [← hu, hsame, h]
    rfl
  have hvalue : u.deviceLevel a.sleepLevel = a.deviceLevel a.sleepLevel := by
    rw [← hu, hsame, h]
    rfl
  have hover : u.isBrightnessOverridden = true ∧ u.isBrightnessBoosted = false ∧
      u.overriddenBrightness = a.sleepLevel := by
    rw [← hu, hsame, h]
    exact ⟨rfl, hboosted, rfl⟩
  obtain ⟨_, hshown'⟩ := updateBrightness_panel u a.sleepLevel a.param.sleepDarkenTime false
  have hanswers := updateBrightness_answers u a.sleepLevel a.param.sleepDarkenTime false
  have hcontrol := updateBrightness_sameControl u a.sleepLevel a.param.sleepDarkenTime false
  have hwait := Timers.updateBrightness_waitOver u a.sleepLevel a.param.sleepDarkenTime false
  have hvalue' := hcontrol.deviceLevel a.sleepLevel
  rw [← hdim] at hshown' hanswers hcontrol hwait hvalue'
  generalize b.setDisplayState .dim = d at hshown' hanswers hcontrol hwait hvalue'
  have hknown : d.KnowsBrightness := by
    rw [hcontrol]
    exact Or.inr (Or.inl hover.1)
  have hchoice : (d.getScreenOnBrightness true).2 = a.sleepLevel := by
    rw [getScreenOnBrightness, hcontrol]
    simp [hover]
  obtain ⟨hfade, hlast⟩ := updateBrightness_panel d a.sleepLevel 0
    (!(d.isBrightnessBoosted || d.isBrightnessOverridden))
  rw [setScreenOnBrightness_lights hknown hwait, hchoice, SamePanel, hfade, hlast, hvalue', hshown',
    hshown, hvalue, SleepLevelStays]
  have hnone : d.fadeAfter a.sleepLevel 0 = none := by simp [fadeAfter]
  rw [hnone, accepts, accepts, accepts, hanswers, haccepts]
  exact and_congr eq_comm (level_after_two _ _ _ _)

theorem setDisplayState_off_same (bs : BrightnessService) (htarget : bs.brightnessTarget = 0)
    (hover : bs.isSleepStatus = true → bs.isBrightnessOverridden = false) :
    SameLight bs (bs.setDisplayState .off) := by
  have hlight := setDisplayState_off_light bs
  have hflag : (bs.setDisplayState .off).isBrightnessOverridden = bs.isBrightnessOverridden := by
    have hmode := congrArg BrightnessMode.isBrightnessOverridden (setDisplayState_mode bs .off).2
    refine hmode.trans ?_
    change (!bs.isSleepStatus && bs.isBrightnessOverridden) = bs.isBrightnessOverridden
    cases hsleep : bs.isSleepStatus with
    | false => rfl
    | true => rw [hover hsleep]; rfl
  rw [hflag, ← htarget] at hlight
  exact hlight

theorem undone_mode (bs : BrightnessService) (via back : DisplayState) :
    (bs.undone via back).mode = bs.config.enter (bs.config.enter bs.mode via) back ∧
      (bs.undone via back).config = bs.config := by
  obtain ⟨hvia, hmode⟩ := setDisplayState_mode bs via
  obtain ⟨hback, hmode'⟩ := setDisplayState_mode (bs.setDisplayState via) back
  rw [hvia, hmode] at hmode'
  have hconfig := hback.trans hvia
  rw [undone]
  split
  · obtain ⟨hlit, hlit'⟩ :=
      setScreenOnBrightness_mode ((bs.setDisplayState via).setDisplayState back)
    exact ⟨hlit.trans hmode', hlit'.trans hconfig⟩
  · exact ⟨hmode', hconfig⟩

/-- On the way through off or doze only the fade may change, unless dim sets its level after. -/
theorem via_light {bs : BrightnessService} {via back : DisplayState}
    (hvia : via = .off ∨ via = .doze) (hdims : ¬ bs.Dims back)
    (h : bs.config.Returns (bs.config.withSleepValue bs.mode) via back) :
    SameLight bs (bs.setDisplayState via) ∧
      (bs.setDisplayState via).runningFade = if via = .off then none else bs.runningFade := by
  rcases hvia with rfl | rfl
  · refine ⟨setDisplayState_off_same bs (h.target (Or.inl rfl)) ?_,
      (setDisplayState_off_panel bs).1⟩
    intro hasleep
    have hsleep := h.sleep
    have hawake : bs.isSleepStatus = false → bs.isBrightnessOverridden = false := by
      intro hawake
      cases hawake.symm.trans hasleep
    cases back with
    | dim =>
      rw [BrightnessConfig.SleepReturns] at hsleep
      by_cases hlow : bs.getSettingBrightness ≤ MIN_DEFAULT_BRGIHTNESS_LEVEL
      · rw [if_pos (by exact hlow)] at hsleep
        exact hawake (hsleep rfl)
      · rw [if_neg (by exact hlow)] at hsleep
        have hboosted : bs.isBrightnessBoosted = true := by
          by_contra hfree
          exact hdims ⟨rfl, hlow, Bool.eq_false_iff.mpr hfree⟩
        have hflag := hsleep.2
        rw [if_pos (by exact hboosted)] at hflag
        exact hflag rfl
    | off => exact hawake hsleep
    | on => exact hawake hsleep
    | _ => exact hawake (hsleep rfl)
  · obtain ⟨hsame, hdimming⟩ := enterState_light bs .doze
    exact ⟨hsame, (hsame.panel hdimming).1⟩

theorem setDisplayState_awake (bs : BrightnessService) {via : DisplayState}
    (hvia : via = .off ∨ via = .doze) (h : bs.isSleepStatus = false) :
    (bs.setDisplayState via).isSleepStatus = false := by
  have hmode := congrArg BrightnessMode.isSleepStatus (setDisplayState_mode bs via).2
  rcases hvia with rfl | rfl
  · exact hmode
  · exact hmode.trans h

theorem back_light {bs : BrightnessService} {via back : DisplayState}
    (hvia : via = .off ∨ via = .doze) (hdims : ¬ bs.Dims back)
    (h : bs.config.Returns (bs.config.withSleepValue bs.mode) via back) :
    SameLight bs ((bs.setDisplayState via).setDisplayState back) ∧
      ((bs.setDisplayState via).setDisplayState back).runningFade =
        if via = .off ∨ back = .off then none else bs.runningFade := by
  obtain ⟨hsame, hfade⟩ := via_light hvia hdims h
  have hawake := setDisplayState_awake bs hvia
  have hsleep := h.sleep
  have htarget := h.target
  generalize bs.setDisplayState via = b at hsame hfade hawake
  cases back with
  | off =>
    have hoff := setDisplayState_off_same b
      (by
        rw [hsame]
        exact htarget (Or.inr rfl))
      (by
        rw [hawake hsleep]
        simp)
    refine ⟨hsame.trans hoff, ?_⟩
    rw [(setDisplayState_off_panel b).1, if_pos (Or.inr rfl)]
  | on =>
    obtain ⟨hon, hdimming⟩ := setDisplayState_on_light (hawake hsleep)
    refine ⟨hsame.trans hon, ?_⟩
    rw [(hon.panel hdimming).1, hfade]
    simp
  | dim =>
    have hquiet : b.getSettingBrightness ≤ MIN_DEFAULT_BRGIHTNESS_LEVEL ∨
        b.isBrightnessBoosted = true := by
      rw [hsame]
      by_contra hneither
      rw [not_or] at hneither
      exact hdims ⟨rfl, hneither.1, Bool.eq_false_iff.mpr hneither.2⟩
    obtain ⟨hdim, hdimming⟩ := setDisplayState_dim_light hquiet
    refine ⟨hsame.trans hdim, ?_⟩
    rw [(hdim.panel hdimming).1, hfade]
    simp
  | _ =>
    obtain ⟨henter, hdimming⟩ := enterState_light b _
    refine ⟨hsame.trans henter, ?_⟩
    refine (henter.panel hdimming).1.trans (hfade.trans ?_)
    simp

/-- A change that is undone leaves the panel under the same control exactly when it returns. -/
theorem undone_iff (bs : BrightnessService) {via back : DisplayState}
    (hvia : via = .off ∨ via = .doze) :
    (bs.undone via back).panelControl = bs.panelControl ↔ bs.ReturnsTo via back := by
  obtain ⟨hmode, hconfig⟩ := undone_mode bs via back
  have hboosted : (bs.undone via back).isBrightnessBoosted = bs.isBrightnessBoosted :=
    congrArg BrightnessConfig.isBrightnessBoosted hconfig
  rw [panelControl_eq_iff, hboosted, hmode, and_iff_right rfl,
    BrightnessConfig.enter_enter_flags_iff _ _ hvia, ReturnsTo]
  apply and_congr_right
  intro hreturns
  rw [undone]
  by_cases hdims : bs.Dims back
  · rw [if_pos hdims]
    obtain ⟨rfl, hlow, hfree⟩ := hdims
    rw [if_pos (Or.inr rfl)]
    rcases hvia with rfl | rfl
    · exact dim_lit_stays_iff (setDisplayState_off_light bs) hlow hfree
    · exact dim_lit_stays_iff (enterState_light bs .doze).1 hlow hfree
  · obtain ⟨hsame, hfade⟩ := back_light hvia hdims hreturns
    rw [if_neg hdims]
    generalize (bs.setDisplayState via).setDisplayState back = b at hsame hfade
    by_cases hquiet : via = .off ∨ back = .off → bs.runningFade = none
    · have hpanel : SamePanel bs b := by
        refine ⟨?_, hsame.shown⟩
        by_cases hends : via = .off ∨ back = .off
        · rw [hfade, if_pos hends, hquiet hends]
        · rw [hfade, if_neg hends]
      rw [and_iff_right hquiet]
      by_cases hlit : back = .on ∨ back = .dim
      · rw [if_pos hlit, hpanel.iff_right, setScreenOnBrightness_stays_iff,
          hsame.lightStays_iff (by rw [hpanel.1])]
        simp [hlit]
      · rw [if_neg hlit]
        simp [hlit, hpanel]
    · -- the fade that was under way is over
      refine iff_of_false ?_ (fun h => hquiet h.1)
      obtain ⟨hends, hrunning⟩ := Classical.not_imp.mp hquiet
      rw [if_pos hends] at hfade
      intro hpanel
      have hover := hpanel.1
      split at hover
      · exact hrunning (hover.symm.trans (setScreenOnBrightness_fade hfade))
      · exact hrunning (hover.symm.trans hfade)

end BrightnessService

namespace ScreenController

/-- The update has the brightness service light the screen. -/
structure Lights (c : ScreenController) (state : DisplayState) (reason : StateChangeReason)
    (hw : HwAnswer) : Prop where
  on : state = .on
  needed : c.ignores state reason = false ∧ c.needsCommand state = true
  taken : enableSkipSetDisplayState reason = true ∨ hw.setDisplayState = true
  announced : reason ≠ .preBright ∧ c.skipNotify state = false

/-- The update answers no to a command that turns the screen off. -/
structure Fails (c : ScreenController) (state : DisplayState) (reason : StateChangeReason)
    (hw : HwAnswer) : Prop where
  off : state = .off ∨ state = .doze
  needed : c.ignores state reason = false
  failed : isNeedSkipNextProc reason = true ∨
    enableSkipSetDisplayState reason = false ∧ hw.setDisplayState = false

theorem Lights.not_off {c : ScreenController} {state : DisplayState} {reason : StateChangeReason}
    {hw : HwAnswer} (h : c.Lights state reason hw) : ¬ (state = .off ∨ state = .doze) := by
  rw [h.on]
  simp

theorem onStateChanged_brightness (c : ScreenController) (host : DisplayHost)
    (state : DisplayState) (reason : StateChangeReason) (hw : HwAnswer) :
    (c.onStateChanged host state reason hw).brightness =
      if state = .on ∧ reason ≠ .preBright ∧ c.skipNotify state = false then
        host.brightness.setScreenOnBrightness
      else host.brightness := by
  have hpower := setDisplayPower_brightness host state hw
  rw [onStateChanged]
  dsimp only
  by_cases hbright : reason = .preBright
  · simp [hbright, hpower]
  · cases hskip : c.skipNotify state with
    | true => simp [hbright, hpower]
    | false =>
      by_cases hon : state = .on
      · cases hret : (host.setDisplayPower state hw).2 <;>
          simp [hbright, hon, announce, DisplayHost.setScreenOnBrightness,
            DisplayHost.notifyStateChangeCallback, ← hpower]
      · cases hret : (host.setDisplayPower state hw).2 <;>
          simp [hbright, hon, announce, DisplayHost.notifyStateChangeCallback, hpower]

theorem commandState_none_iff {c : ScreenController} (host : DisplayHost) {state : DisplayState}
    {reason : StateChangeReason} {hw : HwAnswer} :
    c.commandState host state reason hw = none ↔
      c.needsCommand state = true ∧ enableSkipSetDisplayState reason = false ∧
        hw.setDisplayState = false := by
  rw [commandState, DisplayHost.setDisplayState]
  cases c.needsCommand state <;> cases enableSkipSetDisplayState reason <;>
    cases hw.setDisplayState <;> simp

theorem commandState_brightness {c : ScreenController} {host host' : DisplayHost}
    {state : DisplayState} {reason : StateChangeReason} {hw : HwAnswer}
    (hignore : c.ignores state reason = false)
    (h : c.commandState host state reason hw = some host') :
    c.Lights state reason hw ∧ host'.brightness = host.brightness.setScreenOnBrightness ∨
      ¬ c.Lights state reason hw ∧ host'.brightness = host.brightness := by
  have hnot := (not_congr (commandState_none_iff host)).mp (by rw [h]; simp)
  rcases commandState_cases h with ⟨hneeds, rfl⟩ | ⟨hneeds, rfl⟩
  · refine Or.inr ⟨fun hlights => ?_, rfl⟩
    exact absurd (hneeds.symm.trans hlights.needed.2) (by simp)
  · have htaken : enableSkipSetDisplayState reason = true ∨ hw.setDisplayState = true := by
      by_contra hneither
      simp only [not_or, Bool.not_eq_true] at hneither
      exact hnot ⟨hneeds, hneither⟩
    rw [onStateChanged_brightness]
    dsimp only
    by_cases hannounced : state = .on ∧ reason ≠ .preBright ∧ c.skipNotify state = false
    · rw [if_pos hannounced]
      exact Or.inl ⟨⟨hannounced.1, ⟨hignore, hneeds⟩, htaken, hannounced.2⟩, rfl⟩
    · rw [if_neg hannounced]
      exact Or.inr ⟨fun hlights => hannounced ⟨hlights.on, hlights.announced⟩, rfl⟩

theorem updateState_brightness (c : ScreenController) (host : DisplayHost) (state : DisplayState)
    (reason : StateChangeReason) (hw : HwAnswer) :
    c.Lights state reason hw ∧ (c.updateState host state reason hw).2.1.brightness =
        host.brightness.setScreenOnBrightness ∨
      ¬ c.Lights state reason hw ∧
        (c.updateState host state reason hw).2.1.brightness = host.brightness := by
  have hupdate := updateState_update c host state reason hw
  generalize c.updateState host state reason hw = r at hupdate ⊢
  cases hupdate with
  | ignored h =>
    refine Or.inr ⟨fun hlights => ?_, rfl⟩
    exact absurd (h.symm.trans hlights.needed.1) (by simp)
  | refused h command =>
    refine Or.inr ⟨fun hlights => ?_, rfl⟩
    obtain ⟨_, hskip, hrefused⟩ := (commandState_none_iff host).mp command
    rcases hlights.taken with htaken | htaken
    · exact absurd (hskip.symm.trans htaken) (by simp)
    · exact absurd (hrefused.symm.trans htaken) (by simp)
  | interrupted h host' command => exact commandState_brightness h command
  | cached h host' command => exact commandState_brightness h command

theorem updateState_fails_iff (c : ScreenController) (host : DisplayHost) {state : DisplayState}
    (reason : StateChangeReason) (hw : HwAnswer) (hoff : state = .off ∨ state = .doze) :
    (c.updateState host state reason hw).2.2 = false ↔ c.Fails state reason hw := by
  have hneeds : c.needsCommand state = true := by
    rcases hoff with rfl | rfl
    · rfl
    · rfl
  have hupdate := updateState_update c host state reason hw
  generalize c.updateState host state reason hw = r at hupdate ⊢
  cases hupdate with
  | ignored h =>
    refine iff_of_false (by simp) (fun hfails => ?_)
    exact absurd (h.symm.trans hfails.needed) (by simp)
  | refused h command =>
    refine iff_of_true rfl ⟨hoff, h, Or.inr ?_⟩
    exact ((commandState_none_iff host).mp command).2
  | interrupted h host' command skip => exact iff_of_true rfl ⟨hoff, h, Or.inl skip⟩
  | cached h host' command noSkip =>
    refine iff_of_false (by simp) (fun hfails => ?_)
    rcases hfails.failed with hskip | hrefused
    · exact absurd (noSkip.symm.trans hskip) (by simp)
    · have hnone := (commandState_none_iff host).mpr ⟨hneeds, hrefused⟩
      cases hnone.symm.trans command

end ScreenController

namespace SecondaryDisplays

open DisplayPowerMgrService

/-- The request, whatever the display, leaves the panel under the same control: a change that is
undone returns, another finds nothing to do and lights nothing anew. -/
def LeavesPanel (s : DisplayPowerMgrService) (c : ScreenController) (state : DisplayState)
    (reason : StateChangeReason) (hw : HwAnswer) : Prop :=
  let bs := s.host.brightness
  (s.isDisplayDelayOff = false ∧ c.Fails state reason hw → bs.ReturnsTo state c.state) ∧
    (¬ (s.isDisplayDelayOff = false ∧ c.Fails state reason hw) → bs.StaysIn state ∧
      (s.isDisplayDelayOff = false ∧ c.Lights state reason hw → bs.LightStays))

/-- What a request makes of the brightness service: an undone change, a change with the screen
lit, or a change alone. -/
inductive Effect (s : DisplayPowerMgrService) (c : ScreenController) (state : DisplayState)
    (reason : StateChangeReason) (hw : HwAnswer) : BrightnessService → Prop
  | undone (free : s.isDisplayDelayOff = false) (fails : c.Fails state reason hw) :
    Effect s c state reason hw (s.host.brightness.undone state c.state)
  | lit (free : s.isDisplayDelayOff = false) (lights : c.Lights state reason hw) :
    Effect s c state reason hw (s.host.brightness.setDisplayState state).setScreenOnBrightness
  | changed (kept : ¬ (s.isDisplayDelayOff = false ∧ c.Fails state reason hw))
    (unlit : ¬ (s.isDisplayDelayOff = false ∧ c.Lights state reason hw)) :
    Effect s c state reason hw (s.host.brightness.setDisplayState state)

theorem undoSetDisplayStateInner_brightness (s : DisplayPowerMgrService)
    (curState : DisplayState) :
    (s.undoSetDisplayStateInner curState).host.brightness =
      if curState = .on ∨ curState = .dim then
        (s.host.brightness.setDisplayState curState).setScreenOnBrightness
      else s.host.brightness.setDisplayState curState := by
  rw [undoSetDisplayStateInner]
  split
  · rfl
  · rfl

theorem setDisplayStateInner_effect {s : DisplayPowerMgrService} {id id' : ℕ}
    {c : ScreenController} (hfind : s.findController id = some (id', c)) (state : DisplayState)
    (reason : StateChangeReason) (hw : HwAnswer) :
    Effect s c state reason hw
      (s.setDisplayStateInner true id state reason hw).1.host.brightness := by
  have hchange := setDisplayStateInner_change hfind state reason hw
  generalize s.setDisplayStateInner true id state reason hw = r at hchange
  have harmed (P : Prop) (h : s.isDisplayDelayOff = true) : ¬ (s.isDisplayDelayOff = false ∧ P) :=
    fun hfree => absurd (h.symm.trans hfree.1) (by simp)
  have hbright := ScreenController.updateState_brightness c (s.setBrightnessState state).host state
    reason hw
  have happlied :
      ((s.setBrightnessState state).updateState id' c state reason hw).1.host.brightness =
        (c.updateState (s.setBrightnessState state).host state reason hw).2.1.brightness := rfl
  cases hchange with
  | submitted armed isOff => exact .changed (harmed _ armed) (harmed _ armed)
  | cancelled armed isOn => exact .changed (harmed _ armed) (harmed _ armed)
  | applied t free same kept undone =>
    dsimp only
    by_cases hoff : state = .off ∨ state = .doze
    · have hfree : s.isDisplayDelayOff = false := by
        by_contra harmed
        have hon : s.isDisplayDelayOff = true := by simpa using harmed
        obtain ⟨hnotOff, hnotDoze, _⟩ := free hon
        exact hoff.elim hnotOff hnotDoze
      have hdark : ¬ c.Lights state reason hw := fun hlights => hlights.not_off hoff
      have hsame := (hbright.resolve_left fun h => hdark h.1).2
      have hfails := c.updateState_fails_iff (s.setBrightnessState state).host
        reason hw hoff
      cases hret : ((s.setBrightnessState state).updateState id' c state reason hw).2 with
      | true =>
        rw [kept fun _ => hret, happlied, hsame]
        refine .changed (fun h => ?_) (fun h => hdark h.2)
        exact absurd (hret.symm.trans (hfails.mpr h.2)) (by simp)
      | false =>
        have hback : t.host.brightness = s.host.brightness.undone state c.state := by
          rw [undone hoff hret, undoSetDisplayStateInner_brightness, happlied, hsame]
          rfl
        rw [hback]
        exact .undone hfree (hfails.mp hret)
    · have hkept : ¬ (s.isDisplayDelayOff = false ∧ c.Fails state reason hw) :=
        fun h => hoff h.2.off
      rw [kept fun h => absurd h hoff, happlied]
      rcases hbright with ⟨hlights, hlit⟩ | ⟨hdark, hsame⟩
      · rw [hlit]
        refine .lit ?_ hlights
        by_contra harmed
        have hdelayed : s.isDisplayDelayOff = true := by simpa using harmed
        obtain ⟨_, _, hon⟩ := free hdelayed
        exact hon hlights.on
      · rw [hsame]
        exact .changed hkept (fun h => hdark h.2)

/-- A request on a display leaves the panel under the same control in exactly these cases; the
display, its id and whether the brightness service controls it play no part. -/
theorem panel_unchanged_iff (s : DisplayPowerMgrService) (isSystem : Bool) (id : ℕ)
    (state : DisplayState) (reason : StateChangeReason) (hw : HwAnswer) :
    (s.setDisplayStateInner isSystem id state reason hw).1.host.brightness.panelControl =
        s.host.brightness.panelControl ↔
      ∀ id' c, isSystem = true → s.findController id = some (id', c) →
        LeavesPanel s c state reason hw := by
  cases isSystem with
  | false =>
    refine iff_of_true rfl ?_
    intro _ _ h
    cases h
  | true =>
    cases hfind : s.findController id with
    | none =>
      refine iff_of_true ?_ (by simp)
      rw [setDisplayStateInner, hfind]
      rfl
    | some p =>
      obtain ⟨id', c⟩ := p
      have heffect := setDisplayStateInner_effect hfind state reason hw
      generalize (s.setDisplayStateInner true id state reason hw).1.host.brightness = b at heffect
      have hleaves : (∀ id'' c', true = true → some (id', c) = some (id'', c') →
          LeavesPanel s c' state reason hw) ↔ LeavesPanel s c state reason hw := by
        simp
      rw [hleaves, LeavesPanel]
      cases heffect with
      | undone free fails =>
        rw [BrightnessService.undone_iff _ fails.off]
        simp [free, fails]
      | lit free lights =>
        have hkept : ¬ c.Fails state reason hw := fun hfails => lights.not_off hfails.off
        obtain rfl := lights.on
        rw [BrightnessService.setDisplayState_on_lit_iff]
        simp [free, lights, hkept]
      | changed kept unlit =>
        rw [BrightnessService.setDisplayState_stays_iff]
        simp [kept, unlit]

def twoDisplaysBoot : DisplayBoot where
  brightness := { state := .on }
  displays := fun id => if id ≤ 1 then some .on else none

/-- Turning the second display off tells the brightness service that the panel is off. -/
theorem second_display_turns_panel_off :
    Reachable twoDisplaysBoot.start ∧
      twoDisplaysBoot.start.controllerMap 0 ≠ none ∧
      twoDisplaysBoot.start.controllerMap 1 ≠ none ∧
      twoDisplaysBoot.start.host.brightness.displayId = 0 ∧
      twoDisplaysBoot.start.host.brightness.state = .on ∧
      (twoDisplaysBoot.start.setDisplayStateInner true 1 .off (.other 0)
        ⟨true, true⟩).1.host.brightness.state = .off := by
  refine ⟨⟨_, [], ⟨twoDisplaysBoot, rfl⟩, rfl⟩, ?_⟩
  decide +kernel

end SecondaryDisplays

end DisplayPowerMgr
