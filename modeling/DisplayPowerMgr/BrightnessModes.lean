import DisplayPowerMgr.BrightnessRuns

/-! The part of `BrightnessService` that a change of the display state is about, how such a
change acts on it, and that the service does act so. -/
namespace DisplayPowerMgr

/-- The light sensor that belongs to the way a device is folded. -/
inductive AmbientSensor where
  | first | second
  deriving DecidableEq, Repr

structure AmbientSensors where
  first : Bool
  second : Bool
  deriving DecidableEq, Repr

def AmbientSensors.isEnabled (sensors : AmbientSensors) : AmbientSensor → Bool
  | .first => sensors.first
  | .second => sensors.second

def AmbientSensors.enable (sensors : AmbientSensors) : AmbientSensor → AmbientSensors
  | .first => { sensors with first := true }
  | .second => { sensors with second := true }

structure BrightnessMode where
  state : DisplayState
  isBrightnessOverridden : Bool
  overriddenBrightness : ℕ
  isSleepStatus : Bool
  brightnessTarget : ℕ
  sensors : AmbientSensors
  deriving DecidableEq, Repr

/-- What a change of the display state reads and never writes. -/
structure BrightnessConfig where
  isFoldable : Bool
  currentSensor : Option AmbientSensor
  hasAutoSensor : Bool
  isBrightnessBoosted : Bool
  settingBrightness : ℕ
  sleepBrightness : ℕ
  first_of_rigid : isFoldable = false → currentSensor = some .first

namespace BrightnessConfig

def isSensing (cfg : BrightnessConfig) (sensors : AmbientSensors) : Bool :=
  cfg.currentSensor.any sensors.isEnabled

def sensorsOn (cfg : BrightnessConfig) (sensors : AmbientSensors) : AmbientSensors :=
  if cfg.hasAutoSensor then (cfg.currentSensor.map sensors.enable).getD sensors else sensors

/-- A device that does not fold leaves the second sensor alone. -/
def sensorsOff (cfg : BrightnessConfig) (sensors : AmbientSensors) : AmbientSensors :=
  if cfg.hasAutoSensor && cfg.isSensing sensors then ⟨false, !cfg.isFoldable && sensors.second⟩
  else sensors

def enterSensors (cfg : BrightnessConfig) (sensors : AmbientSensors) (state : DisplayState) :
    AmbientSensors :=
  if state.isScreenOn then cfg.sensorsOn sensors else cfg.sensorsOff sensors

/-- What is left to do once the state is stored and the sensors are set. -/
def settle (cfg : BrightnessConfig) (m : BrightnessMode) : DisplayState → BrightnessMode
  | .off =>
    { m with
      isBrightnessOverridden := !m.isSleepStatus && m.isBrightnessOverridden
      isSleepStatus := false
      brightnessTarget := 0 }
  | .dim =>
    if cfg.settingBrightness ≤ BrightnessService.MIN_DEFAULT_BRGIHTNESS_LEVEL then m
    else if cfg.isBrightnessBoosted then { m with isSleepStatus := true }
    else
      { m with
        isSleepStatus := true
        isBrightnessOverridden := true
        overriddenBrightness := cfg.sleepBrightness }
  | .on =>
    { m with
      isBrightnessOverridden := !m.isSleepStatus && m.isBrightnessOverridden
      isSleepStatus := false }
  | _ => m

def enter (cfg : BrightnessConfig) (m : BrightnessMode) (state : DisplayState) : BrightnessMode :=
  cfg.settle { m with state := state, sensors := cfg.enterSensors m.sensors state } state

end BrightnessConfig

namespace BrightnessService

def mode (bs : BrightnessService) : BrightnessMode where
  state := bs.state
  isBrightnessOverridden := bs.isBrightnessOverridden
  overriddenBrightness := bs.overriddenBrightness
  isSleepStatus := bs.isSleepStatus
  brightnessTarget := bs.brightnessTarget
  sensors := ⟨bs.isLightSensorEnabled, bs.isLightSensor1Enabled⟩

def currentSensor (bs : BrightnessService) : Option AmbientSensor :=
  if !bs.isFoldable then some .first
  else if bs.getSensorIdWithDisplayMode = SENSOR_TYPE_ID_AMBIENT_LIGHT then some .first
  else if bs.getSensorIdWithDisplayMode = SENSOR_TYPE_ID_AMBIENT_LIGHT1 then some .second
  else none

def config (bs : BrightnessService) : BrightnessConfig where
  isFoldable := bs.isFoldable
  currentSensor := bs.currentSensor
  hasAutoSensor := bs.isSupportLightSensor && bs.isAutoBrightnessEnabled
  isBrightnessBoosted := bs.isBrightnessBoosted
  settingBrightness := bs.getSettingBrightness
  sleepBrightness := enterSleepBrightness bs.param bs.getSettingBrightness
  first_of_rigid h := by simp [currentSensor, h]

theorem SameControl.mode {a b : BrightnessService} (h : SameControl a b) : b.mode = a.mode := by
  rw [h]
  rfl

theorem SameControl.config {a b : BrightnessService} (h : SameControl a b) :
    b.config = a.config := by
  rw [h]
  rfl

theorem setScreenOnBrightness_mode (bs : BrightnessService) :
    bs.setScreenOnBrightness.mode = bs.mode ∧ bs.setScreenOnBrightness.config = bs.config := by
  have hget : SameControl bs (bs.getScreenOnBrightness true).1 := by
    rw [getScreenOnBrightness_fst]
    rfl
  have hsame : SameControl (bs.getScreenOnBrightness true).1 bs.setScreenOnBrightness ∨
      bs.setScreenOnBrightness = (bs.getScreenOnBrightness true).1.waitFirstLux := by
    rw [setScreenOnBrightness]
    dsimp only
    by_cases hwait : (bs.getScreenOnBrightness true).1.waitForFirstLux = true
    · rw [if_pos hwait]
      by_cases hq : (bs.getScreenOnBrightness true).1.hasQueue = true
      · rw [if_neg (by simp [hq])]
        exact Or.inr rfl
      · rw [if_pos (by simp [hq])]
        exact Or.inl rfl
    · rw [if_neg hwait]
      exact Or.inl (updateBrightness_sameControl _ _ _ _)
  rcases hsame with hsame | hwait
  · exact ⟨(hget.trans hsame).mode, (hget.trans hsame).config⟩
  · rw [hwait]
    exact ⟨hget.mode, hget.config⟩

theorem SameButSensors.config {a b : BrightnessService} (h : SameButSensors a b) :
    b.config = a.config := by
  rw [h]
  rfl

theorem isCurrentSensorEnable_eq (bs : BrightnessService) :
    bs.isCurrentSensorEnable = bs.config.isSensing bs.mode.sensors := by
  simp only [isCurrentSensorEnable, BrightnessConfig.isSensing, config, currentSensor]
  by_cases hfold : bs.isFoldable = true
  · by_cases hfirst : bs.getSensorIdWithDisplayMode = SENSOR_TYPE_ID_AMBIENT_LIGHT
    · simp [hfold, hfirst, AmbientSensors.isEnabled, mode]
    · by_cases hsecond : bs.getSensorIdWithDisplayMode = SENSOR_TYPE_ID_AMBIENT_LIGHT1
      · simp [hfold, hsecond, AmbientSensors.isEnabled, mode, SENSOR_TYPE_ID_AMBIENT_LIGHT,
          SENSOR_TYPE_ID_AMBIENT_LIGHT1]
      · simp [hfold, hfirst, hsecond]
  · simp [hfold, AmbientSensors.isEnabled, mode]

theorem activateValidAmbientSensor_mode {bs : BrightnessService}
    (hauto : bs.isAutoBrightnessEnabled = true) :
    bs.activateValidAmbientSensor.mode =
      { bs.mode with
        sensors := (bs.currentSensor.map bs.mode.sensors.enable).getD bs.mode.sensors } := by
  have hon : bs.activateAmbientSensor = { bs with isLightSensorEnabled := true } := if_pos hauto
  have hon1 : bs.activateAmbientSensor1 = { bs with isLightSensor1Enabled := true } := if_pos hauto
  rw [activateValidAmbientSensor, currentSensor, hon, hon1]
  cases hfold : bs.isFoldable with
  | false => rfl
  | true =>
    simp only [Bool.not_true, Bool.false_eq_true, if_false]
    by_cases hfirst : bs.getSensorIdWithDisplayMode = SENSOR_TYPE_ID_AMBIENT_LIGHT
    · simp only [hfirst, if_true]
      rfl
    · by_cases hsecond : bs.getSensorIdWithDisplayMode = SENSOR_TYPE_ID_AMBIENT_LIGHT1
      · simp only [hsecond, if_true]
        rfl
      · simp only [hfirst, hsecond, if_false]
        rfl

theorem deactivateAllAmbientSensor_mode {bs : BrightnessService}
    (hauto : bs.isAutoBrightnessEnabled = true) :
    bs.deactivateAllAmbientSensor.mode =
      { bs.mode with sensors := ⟨false, !bs.isFoldable && bs.isLightSensor1Enabled⟩ } := by
  have hfirst : bs.deactivateAmbientSensor.mode =
        { bs.mode with sensors := ⟨false, bs.isLightSensor1Enabled⟩ } ∧
      bs.deactivateAmbientSensor.isAutoBrightnessEnabled = true := by
    rw [deactivateAmbientSensor]
    cases hlight : bs.isLightSensorEnabled with
    | true =>
      rw [if_pos (by simp [hauto])]
      exact ⟨rfl, hauto⟩
    | false =>
      rw [if_neg (by simp)]
      exact ⟨by simp [mode, hlight], hauto⟩
  rw [deactivateAllAmbientSensor]
  cases hfold : bs.isFoldable with
  | false =>
    simp only [Bool.not_false, if_true, hfirst.1, Bool.true_and]
  | true =>
    rw [if_neg (by simp), deactivateAmbientSensor1, hfirst.2]
    have hmode := hfirst.1
    generalize bs.deactivateAmbientSensor = b at hmode ⊢
    cases hlight : b.isLightSensor1Enabled with
    | true =>
      rw [if_pos (by simp)]
      exact congrArg (fun m : BrightnessMode => { m with sensors := ⟨m.sensors.first, false⟩ })
        hmode
    | false =>
      have hsame : b.isLightSensor1Enabled = bs.isLightSensor1Enabled :=
        congrArg (fun m : BrightnessMode => m.sensors.second) hmode
      rw [if_neg (by simp), hmode, ← hsame, hlight]
      rfl

theorem enable_of_isEnabled {sensors : AmbientSensors} {sensor : AmbientSensor}
    (h : sensors.isEnabled sensor = true) : sensors.enable sensor = sensors := by
  cases sensor with
  | first =>
    have hlight : sensors.first = true := h
    rw [AmbientSensors.enable, ← hlight]
  | second =>
    have hlight : sensors.second = true := h
    rw [AmbientSensors.enable, ← hlight]

theorem sensorsOn_of_isSensing {cfg : BrightnessConfig} {sensors : AmbientSensors}
    (h : cfg.isSensing sensors = true) : cfg.sensorsOn sensors = sensors := by
  rw [BrightnessConfig.sensorsOn]
  rw [BrightnessConfig.isSensing] at h
  cases hsensor : cfg.currentSensor with
  | none => simp
  | some sensor =>
    rw [hsensor] at h
    simp [enable_of_isEnabled h]

theorem stateChangedSetAutoBrightness_mode (bs : BrightnessService) (state : DisplayState) :
    (bs.stateChangedSetAutoBrightness
        (state.isScreenOn && bs.isAutoBrightnessEnabled)).1.mode =
      { bs.mode with sensors := bs.config.enterSensors bs.mode.sensors state } := by
  rw [stateChangedSetAutoBrightness, isCurrentSensorEnable_eq]
  by_cases hsupport : bs.isSupportLightSensor = true
  · rw [if_neg (by simp [hsupport])]
    by_cases hauto : bs.isAutoBrightnessEnabled = true
    · have hhas : bs.config.hasAutoSensor = true := by simp [config, hsupport, hauto]
      rw [hauto, Bool.and_true, BrightnessConfig.enterSensors]
      by_cases hon : state.isScreenOn = true
      · rw [if_pos hon, if_pos hon]
        by_cases hsensing : bs.config.isSensing bs.mode.sensors = true
        · rw [if_pos hsensing, sensorsOn_of_isSensing hsensing]
        · rw [if_neg hsensing, activateValidAmbientSensor_mode hauto,
            BrightnessConfig.sensorsOn, if_pos hhas]
          rfl
      · rw [if_neg hon, if_neg hon, BrightnessConfig.sensorsOff, hhas, Bool.true_and]
        by_cases hsensing : bs.config.isSensing bs.mode.sensors = true
        · rw [if_neg (by simp [hsensing]), if_pos hsensing, deactivateAllAmbientSensor_mode hauto]
          rfl
        · rw [if_pos (by simp [hsensing]), if_neg hsensing]
    · have hhas : bs.config.hasAutoSensor = false := by simp [config, hauto]
      have hoff : bs.deactivateAllAmbientSensor.mode = bs.mode := by
        simp [deactivateAllAmbientSensor, deactivateAmbientSensor, deactivateAmbientSensor1, hauto]
      have hrest : bs.config.enterSensors bs.mode.sensors state = bs.mode.sensors := by
        simp [BrightnessConfig.enterSensors, BrightnessConfig.sensorsOn,
          BrightnessConfig.sensorsOff, hhas]
      rw [if_neg (by simp [hauto]), hrest]
      by_cases hsensing : bs.config.isSensing bs.mode.sensors = true
      · rw [if_neg (by simp [hsensing]), hoff]
      · rw [if_pos (by simp [hsensing])]
  · have hhas : bs.config.hasAutoSensor = false := by simp [config, hsupport]
    rw [if_pos (by simp [hsupport])]
    simp only [BrightnessConfig.enterSensors, BrightnessConfig.sensorsOn,
      BrightnessConfig.sensorsOff, hhas, Bool.false_and, Bool.false_eq_true, if_false, ite_self]
    rfl

theorem enterState_mode (bs : BrightnessService) (state : DisplayState) :
    (bs.enterState state).mode =
      { bs.mode with
        state := state
        sensors := bs.config.enterSensors bs.mode.sensors state } :=
  stateChangedSetAutoBrightness_mode { bs with state := state } state

theorem enterState_config (bs : BrightnessService) (state : DisplayState) :
    (bs.enterState state).config = bs.config :=
  (enterState_same bs state).config

theorem stopIfDimming_mode (bs : BrightnessService) :
    bs.stopIfDimming.mode = bs.mode ∧ bs.stopIfDimming.config = bs.config :=
  ⟨bs.stopIfDimming_sameControl.mode, bs.stopIfDimming_sameControl.config⟩

theorem overrideBrightness_mode (bs : BrightnessService) (value duration : ℕ) :
    (bs.overrideBrightness value duration).1.config = bs.config ∧
      (bs.overrideBrightness value duration).1.mode =
        if bs.canOverrideBrightness then
          { bs.mode with isBrightnessOverridden := true, overriddenBrightness := value }
        else bs.mode := by
  rw [overrideBrightness]
  by_cases hcan : bs.canOverrideBrightness = true
  · rw [if_neg (by simp [hcan]), if_pos hcan]
    have hsame := updateBrightness_sameControl
      { bs with
        isBrightnessOverridden := true
        overriddenBrightness := value
        beforeOverriddenBrightness := bs.getSettingBrightness } value duration false
    exact ⟨hsame.config, hsame.mode⟩
  · rw [if_pos (by simp [hcan]), if_neg hcan]
    exact ⟨rfl, rfl⟩

theorem restoreBrightness_mode (bs : BrightnessService) (duration : ℕ) :
    (bs.restoreBrightness duration).1.config = bs.config ∧
      (bs.restoreBrightness duration).1.mode =
        { bs.mode with isBrightnessOverridden := false } := by
  rw [restoreBrightness]
  cases hover : bs.isBrightnessOverridden with
  | false => exact ⟨rfl, by simp [mode, hover]⟩
  | true =>
    rw [if_neg (by simp)]
    have hsame := updateBrightness_sameControl { bs with isBrightnessOverridden := false }
      bs.beforeOverriddenBrightness duration true
    exact ⟨hsame.config, hsame.mode⟩

theorem setSleepBrightness_mode {bs : BrightnessService} (hon : bs.isScreenOn = true) :
    bs.setSleepBrightness.config = bs.config ∧
      bs.setSleepBrightness.mode =
        if bs.getSettingBrightness ≤ MIN_DEFAULT_BRGIHTNESS_LEVEL then bs.mode
        else if bs.isBrightnessBoosted then { bs.mode with isSleepStatus := true }
        else
          { bs.mode with
            isSleepStatus := true
            isBrightnessOverridden := true
            overriddenBrightness := enterSleepBrightness bs.param bs.getSettingBrightness } := by
  rw [setSleepBrightness]
  dsimp only
  by_cases hmin : bs.getSettingBrightness ≤ MIN_DEFAULT_BRGIHTNESS_LEVEL
  · rw [if_pos hmin, if_pos hmin]
    exact ⟨rfl, rfl⟩
  · rw [if_neg hmin, if_neg hmin]
    obtain ⟨hconfig, hmode⟩ := overrideBrightness_mode { bs with isSleepStatus := true }
      (enterSleepBrightness bs.param bs.getSettingBrightness) bs.param.sleepDarkenTime
    refine ⟨hconfig, hmode.trans ?_⟩
    have hcan : ({ bs with isSleepStatus := true } : BrightnessService).canOverrideBrightness =
        !bs.isBrightnessBoosted := by
      have hon' : ({ bs with isSleepStatus := true } : BrightnessService).isScreenOn = true := hon
      rw [canOverrideBrightness, hon', Bool.true_and]
    rw [hcan]
    cases bs.isBrightnessBoosted <;> rfl

theorem setDisplayState_settle (bs : BrightnessService) (state : DisplayState) :
    (bs.setDisplayState state).config = (bs.enterState state).config ∧
      (bs.setDisplayState state).mode =
        (bs.enterState state).config.settle (bs.enterState state).mode state := by
  cases state with
  | off =>
    rw [setDisplayState]
    generalize bs.enterState .off = b
    have hstop := stopIfDimming_mode
      { (if b.isSleepStatus then
          { b with isBrightnessOverridden := false, isSleepStatus := false } else b) with
        brightnessTarget := 0 }
    refine ⟨hstop.2.trans ?_, hstop.1.trans ?_⟩
    · cases b.isSleepStatus <;> rfl
    · cases hsleep : b.isSleepStatus <;> simp [mode, hsleep, BrightnessConfig.settle]
  | dim =>
    have hon : (bs.enterState .dim).isScreenOn = true := by
      have hstate : (bs.enterState .dim).state = .dim :=
        congrArg BrightnessMode.state (enterState_mode bs .dim)
      rw [isScreenOn, hstate]
      rfl
    exact setSleepBrightness_mode hon
  | on =>
    rw [setDisplayState]
    generalize bs.enterState .on = b
    dsimp only
    by_cases hsleep : b.isSleepStatus = true
    · obtain ⟨hconfig, hmode⟩ :=
        restoreBrightness_mode { b with isDisplayOnWhenFirstLuxReport := true } 0
      rw [if_pos hsleep]
      refine ⟨hconfig, ?_⟩
      have hclear := congrArg (fun m : BrightnessMode => { m with isSleepStatus := false }) hmode
      exact hclear.trans (by simp [mode, hsleep, BrightnessConfig.settle])
    · rw [if_neg hsleep]
      exact ⟨rfl, by simp [mode, hsleep, BrightnessConfig.settle]⟩
  | _ => exact ⟨rfl, rfl⟩

theorem setDisplayState_mode (bs : BrightnessService) (state : DisplayState) :
    (bs.setDisplayState state).config = bs.config ∧
      (bs.setDisplayState state).mode = bs.config.enter bs.mode state := by
  obtain ⟨hconfig, hmode⟩ := setDisplayState_settle bs state
  rw [enterState_config] at hconfig hmode
  rw [enterState_mode] at hmode
  exact ⟨hconfig, hmode⟩

theorem settle_keeps (cfg : BrightnessConfig) (m : BrightnessMode) (state : DisplayState) :
    (cfg.settle m state).state = m.state ∧ (cfg.settle m state).sensors = m.sensors := by
  cases state with
  | dim =>
    rw [BrightnessConfig.settle]
    by_cases hmin : cfg.settingBrightness ≤ MIN_DEFAULT_BRGIHTNESS_LEVEL
    · rw [if_pos hmin]
      exact ⟨rfl, rfl⟩
    · rw [if_neg hmin]
      cases cfg.isBrightnessBoosted with
      | true => exact ⟨rfl, rfl⟩
      | false => exact ⟨rfl, rfl⟩
  | _ => exact ⟨rfl, rfl⟩

theorem setDisplayState_state (bs : BrightnessService) (state : DisplayState) :
    (bs.setDisplayState state).state = state :=
  (congrArg BrightnessMode.state (setDisplayState_mode bs state).2).trans (settle_keeps _ _ _).1

end BrightnessService

end DisplayPowerMgr
