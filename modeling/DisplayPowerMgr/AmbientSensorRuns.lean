import DisplayPowerMgr.BrightnessModes
import DisplayPowerMgr.Library.History

/-! Runs of the three events that switch light sensors on and off: the automatic mode, the
display state and the fold status. When two sensors are on at once, and when one is on that
nothing needs. -/
namespace DisplayPowerMgr

/-- The events, and the write of the persisted automatic mode, which fold changes look at. -/
inductive SensorEvent where
  | autoAdjustBrightness (enable : Bool)
  | setDisplayState (state : DisplayState)
  | foldStatusChanged (foldStatus : FoldStatus) (foldDisplayMode : ℕ)
  | settingAutoBrightness (enable : Bool)
  deriving DecidableEq, Repr

def AmbientSensor.other : AmbientSensor → AmbientSensor
  | .first => .second
  | .second => .first

def AmbientSensors.Within (a b : AmbientSensors) : Prop :=
  ∀ sensor, a.isEnabled sensor = true → b.isEnabled sensor = true

namespace BrightnessService

def sensors (bs : BrightnessService) : AmbientSensors := bs.mode.sensors

/-- The display mode that goes with a fold status: full when unfolded, even half, else main. -/
def displayModeOf : FoldStatus → ℕ
  | .unknown => 0
  | .expand => 1
  | .folded => 2
  | .halfFold => 1

/-- Fold changes reach devices that fold, with the mode that the display reports then. -/
def sensorStep (bs : BrightnessService) : SensorEvent → Option BrightnessService
  | .autoAdjustBrightness enable => some (bs.autoAdjustBrightness enable).1
  | .setDisplayState state => some (bs.setDisplayState state)
  | .foldStatusChanged foldStatus foldDisplayMode =>
    if bs.isFoldable then
      some ({ bs with foldDisplayMode := foldDisplayMode }.onFoldStatusChanged foldStatus)
    else none
  | .settingAutoBrightness enable => some (bs.setSettingAutoBrightness enable)

def sensorOf (sensorId : ℕ) : Option AmbientSensor :=
  if sensorId = SENSOR_TYPE_ID_AMBIENT_LIGHT then some .first
  else if sensorId = SENSOR_TYPE_ID_AMBIENT_LIGHT1 then some .second
  else none

def foldSensor (bs : BrightnessService) (foldStatus : FoldStatus) : Option AmbientSensor :=
  sensorOf (bs.calculationManager.curve.getSensorIdWithFoldstatus foldStatus.toNat)

def unfoldSensor (bs : BrightnessService) (foldStatus : FoldStatus) : Option AmbientSensor :=
  if (bs.isSupportLightSensor && bs.settings.autoBrightness && bs.isScreenOn) &&
      bs.isAutoBrightnessEnabled then
    bs.foldSensor foldStatus
  else none

/-- The sensor that an event switches on, whether it is on already or not. -/
def switchesOn (bs : BrightnessService) : SensorEvent → Option AmbientSensor
  | .autoAdjustBrightness enable =>
    if enable && bs.isSupportLightSensor && !bs.isAutoBrightnessEnabled then bs.currentSensor
    else none
  | .setDisplayState state =>
    if state.isScreenOn && bs.isSupportLightSensor && bs.isAutoBrightnessEnabled then
      bs.currentSensor
    else none
  | .foldStatusChanged foldStatus _ =>
    if bs.lastFoldStatus ≠ foldStatus ∧ (foldStatus = .folded ∨ foldStatus = .expand) then
      bs.unfoldSensor foldStatus
    else none
  | .settingAutoBrightness _ => none

/-! ## What one event does to the sensors -/

theorem Within.refl (a : AmbientSensors) : a.Within a := fun _ h => h

def Switches (a b : AmbientSensors) : Option AmbientSensor → Prop
  | some sensor => b = a.enable sensor
  | none => b.Within a

theorem activateValidAmbientSensor_switches {bs : BrightnessService}
    (hauto : bs.isAutoBrightnessEnabled = true) :
    Switches bs.sensors bs.activateValidAmbientSensor.sensors bs.currentSensor := by
  have hsensors : bs.activateValidAmbientSensor.sensors =
      (bs.currentSensor.map bs.sensors.enable).getD bs.sensors :=
    congrArg BrightnessMode.sensors (activateValidAmbientSensor_mode hauto)
  rw [hsensors]
  cases bs.currentSensor with
  | none => exact Within.refl _
  | some sensor => rfl

theorem deactivateAllAmbientSensor_sensors {bs : BrightnessService}
    (hauto : bs.isAutoBrightnessEnabled = true) :
    bs.deactivateAllAmbientSensor.sensors = ⟨false, !bs.isFoldable && bs.sensors.second⟩ :=
  congrArg BrightnessMode.sensors (deactivateAllAmbientSensor_mode hauto)

theorem within_off {a : AmbientSensors} {isFoldable : Bool} :
    AmbientSensors.Within ⟨false, !isFoldable && a.second⟩ a := by
  intro sensor hon
  cases sensor with
  | first => cases hon
  | second => exact (Bool.and_eq_true_iff.mp hon).2

theorem autoAdjustBrightness_switches (bs : BrightnessService) (enable : Bool) :
    Switches bs.sensors (bs.autoAdjustBrightness enable).1.sensors
      (bs.switchesOn (.autoAdjustBrightness enable)) := by
  rw [autoAdjustBrightness, switchesOn]
  by_cases hsupport : bs.isSupportLightSensor = true
  · rw [if_neg (by simp [hsupport])]
    by_cases hauto : bs.isAutoBrightnessEnabled = true
    · rw [if_neg (c := (enable && _ && _) = true) (by simp [hauto])]
      cases enable with
      | true =>
        rw [if_pos rfl, if_pos hauto]
        exact Within.refl bs.sensors
      | false =>
        have hoff := deactivateAllAmbientSensor_sensors hauto
        rw [if_neg (by simp), if_neg (by simp [hauto])]
        exact (hoff ▸ within_off :)
    · cases enable with
      | true =>
        have hon : ({ bs with isAutoBrightnessEnabled := true }
            : BrightnessService).isAutoBrightnessEnabled = true := rfl
        rw [if_pos rfl, if_neg hauto, if_pos (by simp [hsupport, hauto])]
        exact activateValidAmbientSensor_switches hon
      | false =>
        rw [if_neg (by simp), if_pos (by simp [hauto])]
        exact Within.refl bs.sensors
  · rw [if_pos (by simp [hsupport]), if_neg (by simp [hsupport])]
    exact Within.refl bs.sensors

theorem setDisplayState_sensors (bs : BrightnessService) (state : DisplayState) :
    (bs.setDisplayState state).sensors = bs.config.enterSensors bs.sensors state :=
  (congrArg BrightnessMode.sensors (setDisplayState_mode bs state).2).trans (settle_keeps _ _ _).2

theorem setDisplayState_switches (bs : BrightnessService) (state : DisplayState) :
    Switches bs.sensors (bs.setDisplayState state).sensors
      (bs.switchesOn (.setDisplayState state)) := by
  rw [setDisplayState_sensors, switchesOn, BrightnessConfig.enterSensors]
  by_cases hon : state.isScreenOn = true
  · rw [if_pos hon, BrightnessConfig.sensorsOn]
    by_cases hhas : bs.config.hasAutoSensor = true
    · have hauto := Bool.and_eq_true_iff.mp hhas
      rw [if_pos hhas, if_pos (by simp [hon, hauto])]
      change Switches _ ((bs.currentSensor.map _).getD _) bs.currentSensor
      cases bs.currentSensor with
      | none => exact Within.refl _
      | some sensor => rfl
    · rw [if_neg hhas, if_neg (by simpa [hon, config] using hhas)]
      exact Within.refl _
  · rw [if_neg hon, if_neg (by simp [hon]), BrightnessConfig.sensorsOff]
    split
    · exact within_off
    · exact Within.refl _

theorem activateAmbientSensor_sensors (bs : BrightnessService) :
    bs.activateAmbientSensor.sensors =
      if bs.isAutoBrightnessEnabled then bs.sensors.enable .first else bs.sensors := by
  rw [activateAmbientSensor]
  split <;> rfl

theorem activateAmbientSensor1_sensors (bs : BrightnessService) :
    bs.activateAmbientSensor1.sensors =
      if bs.isAutoBrightnessEnabled then bs.sensors.enable .second else bs.sensors := by
  rw [activateAmbientSensor1]
  split <;> rfl

theorem deactivateAmbientSensor_within (bs : BrightnessService) :
    bs.deactivateAmbientSensor.sensors.Within bs.sensors := by
  rw [deactivateAmbientSensor]
  split
  · intro sensor hon
    cases sensor with
    | first => cases hon
    | second => exact hon
  · exact Within.refl bs.sensors

theorem deactivateAmbientSensor_sensors {bs : BrightnessService}
    (hauto : bs.isAutoBrightnessEnabled = true) :
    bs.deactivateAmbientSensor.sensors = { bs.sensors with first := false } := by
  rw [deactivateAmbientSensor, hauto, Bool.true_and]
  split
  · rfl
  · simp_all [sensors, mode]

theorem deactivateAmbientSensor1_sensors {bs : BrightnessService}
    (hauto : bs.isAutoBrightnessEnabled = true) :
    bs.deactivateAmbientSensor1.sensors = { bs.sensors with second := false } := by
  rw [deactivateAmbientSensor1, hauto, Bool.true_and]
  split
  · rfl
  · simp_all [sensors, mode]

theorem deactivateAmbientSensor1_within (bs : BrightnessService) :
    bs.deactivateAmbientSensor1.sensors.Within bs.sensors := by
  rw [deactivateAmbientSensor1]
  split
  · intro sensor hon
    cases sensor with
    | first => exact hon
    | second => cases hon
  · exact Within.refl bs.sensors

theorem unfold_switches (bs : BrightnessService) (isActive : Bool) (sensorId : ℕ) :
    Switches bs.sensors
      (if isActive && sensorId = SENSOR_TYPE_ID_AMBIENT_LIGHT then
        { bs with currentSensorId := sensorId }.activateAmbientSensor
      else if isActive && sensorId = SENSOR_TYPE_ID_AMBIENT_LIGHT1 then
        { bs with currentSensorId := sensorId }.activateAmbientSensor1
      else { bs with currentSensorId := sensorId }).sensors
      (if isActive && bs.isAutoBrightnessEnabled then sensorOf sensorId else none) := by
  have hsame : ({ bs with currentSensorId := sensorId } : BrightnessService).sensors =
    bs.sensors := rfl
  rw [sensorOf]
  by_cases hactive : isActive = true
  · by_cases hfirst : sensorId = SENSOR_TYPE_ID_AMBIENT_LIGHT
    · rw [if_pos (by simp [hactive, hfirst]), activateAmbientSensor_sensors, if_pos hfirst]
      split
      · rw [if_pos (by simp_all)]
        rfl
      · rw [if_neg (by simp_all)]
        exact Within.refl _
    · by_cases hsecond : sensorId = SENSOR_TYPE_ID_AMBIENT_LIGHT1
      · rw [if_neg (by simp [hfirst]), if_pos (by simp [hactive, hsecond]),
          activateAmbientSensor1_sensors, if_neg hfirst, if_pos hsecond]
        split
        · rw [if_pos (by simp_all)]
          rfl
        · rw [if_neg (by simp_all)]
          exact Within.refl _
      · rw [if_neg (by simp [hfirst]), if_neg (by simp [hsecond]), if_neg hfirst, if_neg hsecond,
          ite_self]
        exact Within.refl _
  · rw [if_neg (by simp [hactive]), if_neg (by simp [hactive]), if_neg (by simp [hactive])]
    exact Within.refl _

theorem foldSensors_switches (bs : BrightnessService) (foldStatus : FoldStatus) :
    Switches bs.sensors (bs.foldSensors foldStatus).sensors
      (if foldStatus = .folded ∨ foldStatus = .expand then bs.unfoldSensor foldStatus
      else none) := by
  cases foldStatus with
  | unknown =>
    rw [if_neg (by simp)]
    exact Within.refl _
  | expand =>
    rw [if_pos (by simp)]
    exact unfold_switches bs _ _
  | folded =>
    rw [if_pos (by simp)]
    exact unfold_switches bs _ _
  | halfFold =>
    rw [if_neg (by simp), foldSensors]
    split
    · exact deactivateAmbientSensor_within bs
    · split
      · exact deactivateAmbientSensor1_within bs
      · exact Within.refl _

theorem onFoldStatusChanged_changes {bs : BrightnessService} {foldStatus : FoldStatus}
    (h : bs.lastFoldStatus ≠ foldStatus) :
    ∃ displayId u, SameControl ((bs.setDisplayId displayId).foldSensors foldStatus) u ∧
      bs.onFoldStatusChanged foldStatus = { u with lastFoldStatus := foldStatus } := by
  rw [onFoldStatusChanged, if_neg h]
  dsimp only
  generalize bs.calculationManager.curve.getDisplayIdWithFoldstatus foldStatus.toNat = displayId
  refine ⟨displayId, _, ?_, rfl⟩
  split
  · exact updateBrightness_sameControl _ _ _ _
  · rfl

theorem onFoldStatusChanged_sensors {bs : BrightnessService} {foldStatus : FoldStatus}
    (h : bs.lastFoldStatus ≠ foldStatus) :
    ∃ displayId, (bs.onFoldStatusChanged foldStatus).sensors =
      ((bs.setDisplayId displayId).foldSensors foldStatus).sensors := by
  obtain ⟨displayId, u, hupdate, hu⟩ := onFoldStatusChanged_changes h
  rw [hu]
  exact ⟨displayId, congrArg BrightnessMode.sensors hupdate.mode⟩

theorem onFoldStatusChanged_switches (bs : BrightnessService) (foldStatus : FoldStatus) :
    Switches bs.sensors (bs.onFoldStatusChanged foldStatus).sensors
      (if bs.lastFoldStatus ≠ foldStatus ∧ (foldStatus = .folded ∨ foldStatus = .expand) then
        bs.unfoldSensor foldStatus
      else none) := by
  by_cases hlast : bs.lastFoldStatus = foldStatus
  · rw [onFoldStatusChanged, if_pos hlast, if_neg (by simp [hlast])]
    exact Within.refl _
  · obtain ⟨displayId, hsensors⟩ := onFoldStatusChanged_sensors hlast
    rw [hsensors]
    simp only [ne_eq, hlast, not_false_eq_true, true_and]
    exact foldSensors_switches (bs.setDisplayId displayId) foldStatus

theorem sensorStep_switches {bs t : BrightnessService} {e : SensorEvent}
    (ht : bs.sensorStep e = some t) : Switches bs.sensors t.sensors (bs.switchesOn e) := by
  cases e with
  | autoAdjustBrightness enable =>
    exact Option.some.inj ht ▸ autoAdjustBrightness_switches bs enable
  | setDisplayState state => exact Option.some.inj ht ▸ setDisplayState_switches bs state
  | foldStatusChanged foldStatus foldDisplayMode =>
    obtain ⟨_, ht⟩ := Option.ite_none_right_eq_some.mp ht
    have hswitch := onFoldStatusChanged_switches { bs with foldDisplayMode := foldDisplayMode }
      foldStatus
    exact Option.some.inj ht ▸ hswitch
  | settingAutoBrightness enable =>
    rw [← Option.some.inj ht]
    exact Within.refl _

/-! ## What the sensors depend on -/

structure AutoMode where
  state : DisplayState
  isFoldable : Bool
  isSupportLightSensor : Bool
  isAutoBrightnessEnabled : Bool

def autoMode (bs : BrightnessService) : AutoMode where
  state := bs.state
  isFoldable := bs.isFoldable
  isSupportLightSensor := bs.isSupportLightSensor
  isAutoBrightnessEnabled := bs.isAutoBrightnessEnabled

theorem SameControl.autoMode {a b : BrightnessService} (h : SameControl a b) :
    b.autoMode = a.autoMode := by
  rw [h]
  rfl

theorem SameButSensors.autoMode {a b : BrightnessService} (h : SameButSensors a b) :
    b.autoMode = a.autoMode := by
  rw [h]
  rfl

/-- What requests for a brightness leave alone: the automatic mode and the light readings. -/
structure Setup where
  autoMode : AutoMode
  lightLuxManager : LightLuxManager

def setup (bs : BrightnessService) : Setup where
  autoMode := bs.autoMode
  lightLuxManager := bs.lightLuxManager

theorem SameButRequests.setup {a b : BrightnessService} (h : SameButRequests a b) :
    b.setup = a.setup := by
  rw [h]
  rfl

theorem setDisplayState_autoMode (bs : BrightnessService) (state : DisplayState) :
    (bs.setDisplayState state).autoMode = { bs.autoMode with state := state } := by
  have hrequests := congrArg Setup.autoMode (setDisplayState_butRequests bs state).setup
  exact hrequests.trans (enterState_same bs state).autoMode

theorem autoAdjustBrightness_autoMode (bs : BrightnessService) (enable : Bool) :
    (bs.autoAdjustBrightness enable).1.autoMode =
      { bs.autoMode with
        isAutoBrightnessEnabled :=
          if bs.isSupportLightSensor then enable else bs.isAutoBrightnessEnabled } := by
  rw [autoAdjustBrightness]
  by_cases hsupport : bs.isSupportLightSensor = true
  · rw [if_neg (by simp [hsupport]), if_pos hsupport]
    by_cases hauto : bs.isAutoBrightnessEnabled = true
    · cases enable with
      | true =>
        rw [if_pos rfl, if_pos hauto]
        simp [autoMode, hauto]
      | false =>
        rw [if_neg (by simp), if_neg (by simp [hauto])]
        have hoff := (deactivateAllAmbientSensor_same bs).autoMode
        exact congrArg (fun m : AutoMode => { m with isAutoBrightnessEnabled := false }) hoff
    · cases enable with
      | true =>
        rw [if_pos rfl, if_neg hauto]
        have hon := (activateValidAmbientSensor_same { bs with
          isAutoBrightnessEnabled := true }).autoMode
        exact hon
      | false =>
        rw [if_neg (by simp), if_pos (by simp [hauto])]
        simp [autoMode, hauto]
  · rw [if_pos (by simp [hsupport]), if_neg hsupport]
    rfl

theorem onFoldStatusChanged_autoMode (bs : BrightnessService) (foldStatus : FoldStatus) :
    (bs.onFoldStatusChanged foldStatus).autoMode = bs.autoMode := by
  by_cases hlast : bs.lastFoldStatus = foldStatus
  · rw [onFoldStatusChanged, if_pos hlast]
  · obtain ⟨displayId, u, hupdate, hu⟩ := onFoldStatusChanged_changes hlast
    rw [hu]
    exact hupdate.autoMode.trans (foldSensors_same (bs.setDisplayId displayId) foldStatus).autoMode

def AutoMode.after (m : AutoMode) : SensorEvent → AutoMode
  | .autoAdjustBrightness enable =>
    { m with
      isAutoBrightnessEnabled :=
        if m.isSupportLightSensor then enable else m.isAutoBrightnessEnabled }
  | .setDisplayState state => { m with state := state }
  | _ => m

theorem AutoMode.after_device (m : AutoMode) (e : SensorEvent) :
    (m.after e).isFoldable = m.isFoldable ∧
      (m.after e).isSupportLightSensor = m.isSupportLightSensor := by
  cases e with
  | _ => exact ⟨rfl, rfl⟩

theorem sensorStep_autoMode {bs t : BrightnessService} {e : SensorEvent}
    (ht : bs.sensorStep e = some t) : t.autoMode = bs.autoMode.after e := by
  cases e with
  | autoAdjustBrightness enable =>
    exact Option.some.inj ht ▸ autoAdjustBrightness_autoMode bs enable
  | setDisplayState state => exact Option.some.inj ht ▸ setDisplayState_autoMode bs state
  | foldStatusChanged foldStatus foldDisplayMode =>
    obtain ⟨_, ht⟩ := Option.ite_none_right_eq_some.mp ht
    exact Option.some.inj ht ▸ onFoldStatusChanged_autoMode
      { bs with foldDisplayMode := foldDisplayMode } foldStatus
  | settingAutoBrightness enable =>
    rw [← Option.some.inj ht]
    rfl

theorem switchesOn_auto {bs : BrightnessService} {e : SensorEvent} {sensor : AmbientSensor}
    (h : bs.switchesOn e = some sensor) :
    (bs.autoMode.after e).isAutoBrightnessEnabled = true := by
  cases e with
  | autoAdjustBrightness enable =>
    obtain ⟨hwhen, _⟩ := Option.ite_none_right_eq_some.mp h
    simp only [Bool.and_eq_true] at hwhen
    rw [AutoMode.after]
    exact (if_pos hwhen.1.2).trans hwhen.1.1
  | setDisplayState state =>
    obtain ⟨hwhen, _⟩ := Option.ite_none_right_eq_some.mp h
    exact (Bool.and_eq_true_iff.mp hwhen).2
  | foldStatusChanged foldStatus foldDisplayMode =>
    obtain ⟨_, h⟩ := Option.ite_none_right_eq_some.mp h
    obtain ⟨hwhen, _⟩ := Option.ite_none_right_eq_some.mp h
    exact (Bool.and_eq_true_iff.mp hwhen).2
  | settingAutoBrightness enable => cases h

theorem switchesOn_rigid {bs t : BrightnessService} {e : SensorEvent} {sensor : AmbientSensor}
    (hrigid : bs.isFoldable = false) (ht : bs.sensorStep e = some t)
    (h : bs.switchesOn e = some sensor) : sensor = .first := by
  have hcurrent : bs.currentSensor = some .first := by simp [currentSensor, hrigid]
  cases e with
  | autoAdjustBrightness enable =>
    obtain ⟨_, h⟩ := Option.ite_none_right_eq_some.mp h
    exact (Option.some.inj (hcurrent.symm.trans h)).symm
  | setDisplayState state =>
    obtain ⟨_, h⟩ := Option.ite_none_right_eq_some.mp h
    exact (Option.some.inj (hcurrent.symm.trans h)).symm
  | foldStatusChanged foldStatus foldDisplayMode =>
    obtain ⟨hfold, _⟩ := Option.ite_none_right_eq_some.mp ht
    exact absurd (hrigid.symm.trans hfold) (by simp)
  | settingAutoBrightness enable => cases h

/-- A sensor that is on has its reason in the mode of the service. -/
structure SensorsFit (bs : BrightnessService) : Prop where
  manual : bs.isAutoBrightnessEnabled = false → ∀ sensor, bs.sensors.isEnabled sensor = false
  unsupported : bs.isSupportLightSensor = false → bs.isAutoBrightnessEnabled = false
  rigid : bs.isFoldable = false → bs.sensors.second = false

theorem SensorsFit.manual_off {bs : BrightnessService} (h : SensorsFit bs)
    (hsupport : bs.isSupportLightSensor = true) (hauto : bs.isAutoBrightnessEnabled = true)
    (sensor : AmbientSensor) :
    (bs.autoAdjustBrightness false).1.sensors.isEnabled sensor = false := by
  have hoff : (bs.autoAdjustBrightness false).1.sensors =
      ⟨false, !bs.isFoldable && bs.sensors.second⟩ := by
    rw [autoAdjustBrightness, if_neg (by simp [hsupport]), if_neg (by simp),
      if_neg (by simp [hauto])]
    exact deactivateAllAmbientSensor_sensors hauto
  rw [hoff]
  cases sensor with
  | first => rfl
  | second =>
    cases hfold : bs.isFoldable with
    | true => rfl
    | false => exact h.rigid hfold

theorem SensorsFit.step {bs t : BrightnessService} {e : SensorEvent} (h : SensorsFit bs)
    (ht : bs.sensorStep e = some t) : SensorsFit t := by
  have hmode := sensorStep_autoMode ht
  have hswitch := sensorStep_switches ht
  have hauto : t.isAutoBrightnessEnabled = (bs.autoMode.after e).isAutoBrightnessEnabled :=
    congrArg AutoMode.isAutoBrightnessEnabled hmode
  refine ⟨?_, ?_, ?_⟩
  · intro hmanual sensor
    by_cases hwas : bs.isAutoBrightnessEnabled = true
    · cases e with
      | autoAdjustBrightness enable =>
        by_cases hsupport : bs.isSupportLightSensor = true
        · have henable : enable = false := ((if_pos hsupport).symm.trans hauto.symm).trans hmanual
          subst henable
          exact Option.some.inj ht ▸ h.manual_off hsupport hwas sensor
        · exact absurd ((h.unsupported (Bool.eq_false_iff.mpr hsupport)).symm.trans hwas) (by simp)
      | _ => exact absurd (hmanual.symm.trans (hauto.trans hwas)) (by simp)
    · have hoff := h.manual (Bool.eq_false_iff.mpr hwas) sensor
      cases hon : bs.switchesOn e with
      | some other =>
        have hlit := hauto.trans (switchesOn_auto hon)
        exact absurd (hmanual.symm.trans hlit) (by simp)
      | none =>
        rw [hon] at hswitch
        by_contra hlit
        have hlit := hswitch sensor (Bool.eq_true_of_not_eq_false hlit)
        exact absurd (hoff.symm.trans hlit) (by simp)
  · intro hsupport
    have hwas : bs.isSupportLightSensor = false :=
      ((congrArg AutoMode.isSupportLightSensor hmode).trans
        (bs.autoMode.after_device e).2).symm.trans hsupport
    rw [hauto]
    cases e with
    | autoAdjustBrightness enable =>
      exact (if_neg (by simp [autoMode, hwas])).trans (h.unsupported hwas)
    | _ => exact h.unsupported hwas
  · intro hfold
    have hwas : bs.isFoldable = false :=
      ((congrArg AutoMode.isFoldable hmode).trans
        (bs.autoMode.after_device e).1).symm.trans hfold
    cases hon : bs.switchesOn e with
    | some other =>
      obtain rfl := switchesOn_rigid hwas ht hon
      rw [hon] at hswitch
      rw [show t.sensors = bs.sensors.enable .first from hswitch]
      exact h.rigid hwas
    | none =>
      rw [hon] at hswitch
      by_contra hlit
      have hlit := hswitch .second (Bool.eq_true_of_not_eq_false hlit)
      exact absurd ((h.rigid hwas).symm.trans hlit) (by simp)

theorem SensorsFit.start (boot : BrightnessBoot) : SensorsFit boot.start := by
  constructor
  · intro _ sensor
    cases sensor with
    | _ => rfl
  · intro _
    rfl
  · intro _
    rfl

end BrightnessService

namespace AmbientSensorRuns

open BrightnessService

/-! ## Two sensors at once -/

def AtMostOne (bs : BrightnessService) : Prop :=
  ¬ (bs.isLightSensorEnabled = true ∧ bs.isLightSensor1Enabled = true)

/-- A fold change with the mode that the display reports for the new status. -/
def Matching : SensorEvent → Prop
  | .foldStatusChanged foldStatus foldDisplayMode =>
    foldStatus ≠ .unknown ∧ foldDisplayMode = displayModeOf foldStatus
  | _ => True

def AlwaysAtMostOne : Prop :=
  ∀ boot : BrightnessBoot, boot.isFoldable = true → boot.isSupportLightSensor = true →
    ∀ es, (∀ e ∈ es, Matching e) → ∀ t, Runs.run sensorStep boot.start es = some t → AtMostOne t

/-- An event that switches a sensor off: automatic brightness is disabled, the screen goes off in
the display mode of that sensor, or half folding meets it as the sensor that the last unfolding or
folding stored. -/
def SwitchesOff (sensor : AmbientSensor) (bs : BrightnessService) : SensorEvent → Prop
  | .autoAdjustBrightness enable => enable = false
  | .setDisplayState state => state.isScreenOn = false ∧ bs.currentSensor = some sensor
  | .foldStatusChanged foldStatus _ =>
    foldStatus = .halfFold ∧ bs.lastFoldStatus ≠ .halfFold ∧ bs.settings.autoBrightness = true ∧
      bs.isScreenOn = true ∧ sensorOf bs.currentSensorId = some sensor
  | .settingAutoBrightness _ => False

instance (sensor : AmbientSensor) (bs : BrightnessService) (e : SensorEvent) :
    Decidable (SwitchesOff sensor bs e) := by
  cases e with
  | autoAdjustBrightness enable => exact inferInstanceAs (Decidable (enable = false))
  | setDisplayState state => exact inferInstanceAs (Decidable (_ ∧ _))
  | foldStatusChanged foldStatus foldDisplayMode => exact inferInstanceAs (Decidable (_ ∧ _))
  | settingAutoBrightness enable => exact inferInstanceAs (Decidable False)

/-- Before a sensor is switched on, the other one was never switched on, or it was switched off
after that. -/
def InTurn (boot : BrightnessBoot) (es : List SensorEvent) : Prop :=
  Runs.Throughout sensorStep (fun past bs e => ∀ sensor, bs.switchesOn e = some sensor →
    ¬ Runs.Since sensorStep (fun u f => u.switchesOn f = some sensor.other)
      (SwitchesOff sensor.other) boot.start past) boot.start es

theorem atMostOne_of_enable {bs t : BrightnessService} {sensor : AmbientSensor}
    (h : t.sensors = bs.sensors.enable sensor) :
    AtMostOne t ↔ bs.sensors.isEnabled sensor.other = false := by
  have hfirst : t.isLightSensorEnabled = (bs.sensors.enable sensor).first :=
    congrArg AmbientSensors.first h
  have hsecond : t.isLightSensor1Enabled = (bs.sensors.enable sensor).second :=
    congrArg AmbientSensors.second h
  rw [AtMostOne, hfirst, hsecond]
  cases sensor with
  | first => simp [AmbientSensors.enable, AmbientSensors.isEnabled, AmbientSensor.other]
  | second => simp [AmbientSensors.enable, AmbientSensors.isEnabled, AmbientSensor.other]

theorem AtMostOne.within {bs t : BrightnessService} (h : AtMostOne bs)
    (hwithin : t.sensors.Within bs.sensors) : AtMostOne t := by
  rintro ⟨hfirst, hsecond⟩
  exact h ⟨hwithin .first hfirst, hwithin .second hsecond⟩

theorem AtMostOne.unique {bs : BrightnessService} (h : AtMostOne bs) {sensor other : AmbientSensor}
    (hsensor : bs.sensors.isEnabled sensor = true) (hother : bs.sensors.isEnabled other = true) :
    sensor = other := by
  cases sensor with
  | first =>
    cases other with
    | first => rfl
    | second => exact absurd ⟨hsensor, hother⟩ h
  | second =>
    cases other with
    | first => exact absurd ⟨hother, hsensor⟩ h
    | second => rfl

theorem auto_of_fit {bs : BrightnessService} (h : SensorsFit bs)
    (hon : ∃ sensor, bs.sensors.isEnabled sensor = true) :
    bs.isAutoBrightnessEnabled = true ∧ bs.isSupportLightSensor = true := by
  obtain ⟨sensor, hlit⟩ := hon
  have hauto : bs.isAutoBrightnessEnabled = true := by
    by_contra hmanual
    have hoff := h.manual (Bool.eq_false_iff.mpr hmanual) sensor
    exact absurd (hoff.symm.trans hlit) (by simp)
  refine ⟨hauto, ?_⟩
  by_contra hnone
  exact absurd ((h.unsupported (Bool.eq_false_iff.mpr hnone)).symm.trans hauto) (by simp)

theorem isEnabled_enable_iff (sensors : AmbientSensors) (other sensor : AmbientSensor) :
    (sensors.enable other).isEnabled sensor = true ↔
      other = sensor ∨ sensors.isEnabled sensor = true := by
  cases other with
  | _ =>
    cases sensor with
    | _ => simp [AmbientSensors.enable, AmbientSensors.isEnabled]

theorem not_switchesOff_of_on {bs : BrightnessService} {e : SensorEvent} {sensor : AmbientSensor}
    (h : bs.switchesOn e = some sensor) (other : AmbientSensor) : ¬ SwitchesOff other bs e := by
  intro hoff
  cases e with
  | autoAdjustBrightness enable =>
    obtain ⟨hwhen, _⟩ := Option.ite_none_right_eq_some.mp h
    obtain rfl : enable = false := hoff
    simp at hwhen
  | setDisplayState state =>
    obtain ⟨hwhen, _⟩ := Option.ite_none_right_eq_some.mp h
    obtain ⟨hdark, _⟩ := hoff
    simp [hdark] at hwhen
  | foldStatusChanged foldStatus foldDisplayMode =>
    obtain ⟨⟨_, hstatus⟩, _⟩ := Option.ite_none_right_eq_some.mp h
    obtain ⟨rfl, _⟩ := hoff
    simp at hstatus
  | settingAutoBrightness enable => exact hoff

theorem autoAdjustBrightness_stays_iff {bs : BrightnessService} (h : SensorsFit bs) {enable : Bool}
    (hnone : bs.switchesOn (.autoAdjustBrightness enable) = none) (sensor : AmbientSensor) :
    (bs.autoAdjustBrightness enable).1.sensors.isEnabled sensor = true ↔
      bs.sensors.isEnabled sensor = true ∧
        ¬ SwitchesOff sensor bs (.autoAdjustBrightness enable) := by
  have hswitch := autoAdjustBrightness_switches bs enable
  rw [hnone] at hswitch
  cases enable with
  | false =>
    refine iff_of_false ?_ fun hstays => hstays.2 rfl
    intro hon
    -- what is on was on before, in the automatic mode that the call ends
    obtain ⟨hauto, hsupport⟩ := auto_of_fit h ⟨sensor, hswitch sensor hon⟩
    exact absurd ((h.manual_off hsupport hauto sensor).symm.trans hon) (by simp)
  | true =>
    refine ⟨fun hon => ⟨hswitch sensor hon, by simp [SwitchesOff]⟩, ?_⟩
    rintro ⟨hon, _⟩
    obtain ⟨hauto, hsupport⟩ := auto_of_fit h ⟨sensor, hon⟩
    rw [autoAdjustBrightness, if_neg (by simp [hsupport]), if_pos rfl, if_pos hauto]
    exact hon

theorem setDisplayState_stays_iff {bs : BrightnessService} (h : SensorsFit bs)
    (hfold : bs.isFoldable = true) (hone : AtMostOne bs) {state : DisplayState}
    (hnone : bs.switchesOn (.setDisplayState state) = none) (sensor : AmbientSensor) :
    (bs.setDisplayState state).sensors.isEnabled sensor = true ↔
      bs.sensors.isEnabled sensor = true ∧ ¬ SwitchesOff sensor bs (.setDisplayState state) := by
  have hswitch := setDisplayState_switches bs state
  rw [hnone] at hswitch
  by_cases hwas : bs.sensors.isEnabled sensor = true
  · obtain ⟨hauto, hsupport⟩ := auto_of_fit h ⟨sensor, hwas⟩
    have hhas : bs.config.hasAutoSensor = true := Bool.and_eq_true_iff.mpr ⟨hsupport, hauto⟩
    rw [setDisplayState_sensors, BrightnessConfig.enterSensors, SwitchesOff]
    cases hon : state.isScreenOn with
    | true =>
      have hcurrent : bs.config.currentSensor = none := by
        rw [switchesOn, if_pos (by simp [hon, hsupport, hauto])] at hnone
        exact hnone
      rw [if_pos rfl, BrightnessConfig.sensorsOn, if_pos hhas, hcurrent]
      exact iff_of_true hwas ⟨hwas, by simp⟩
    | false =>
      rw [if_neg (by simp), BrightnessConfig.sensorsOff, hhas, Bool.true_and,
        BrightnessConfig.isSensing]
      by_cases hcurrent : bs.currentSensor = some sensor
      · have hsensing : bs.config.currentSensor.any bs.sensors.isEnabled = true := by
          rw [show bs.config.currentSensor = some sensor from hcurrent]
          exact hwas
        rw [if_pos hsensing, show bs.config.isFoldable = true from hfold]
        refine iff_of_false ?_ fun hstays => hstays.2 ⟨rfl, hcurrent⟩
        cases sensor with
        | _ => simp [AmbientSensors.isEnabled]
      · have hsensing : ¬ bs.config.currentSensor.any bs.sensors.isEnabled = true := by
          intro hany
          obtain ⟨other, hother, hlit⟩ := (Option.any_eq_true _ _).mp hany
          exact hcurrent (hother.trans (congrArg some (hone.unique hlit hwas)))
        rw [if_neg hsensing]
        exact iff_of_true hwas ⟨hwas, fun hoff => hcurrent hoff.2⟩
  · exact iff_of_false (fun hon => hwas (hswitch sensor hon)) fun hstays => hwas hstays.1

theorem foldSensors_stays_iff {bs : BrightnessService} (h : SensorsFit bs) {foldStatus : FoldStatus}
    (hnone : foldStatus = .folded ∨ foldStatus = .expand → bs.unfoldSensor foldStatus = none)
    {sensor : AmbientSensor} (hwas : bs.sensors.isEnabled sensor = true) :
    (bs.foldSensors foldStatus).sensors.isEnabled sensor = true ↔
      ¬ (foldStatus = .halfFold ∧ bs.settings.autoBrightness = true ∧ bs.isScreenOn = true ∧
        sensorOf bs.currentSensorId = some sensor) := by
  obtain ⟨hauto, hsupport⟩ := auto_of_fit h ⟨sensor, hwas⟩
  have hunfold (hstatus : foldStatus = .folded ∨ foldStatus = .expand)
      (hid : sensorOf (bs.calculationManager.curve.getSensorIdWithFoldstatus foldStatus.toNat) ≠
        none) :
    ¬ (bs.isSupportLightSensor && bs.settings.autoBrightness && bs.isScreenOn) = true := by
    intro hactive
    have hsensor := hnone hstatus
    rw [unfoldSensor, if_pos (by rw [hactive, hauto]; rfl)] at hsensor
    exact hid hsensor
  cases foldStatus with
  | unknown => exact iff_of_true hwas (by simp)
  | expand | folded =>
    refine iff_of_true ?_ (by simp)
    have hunfold := hunfold (by simp)
    rw [foldSensors]
    split
    · rename_i hactive
      simp only [Bool.and_eq_true, decide_eq_true_eq] at hactive
      refine absurd ?_ (hunfold ?_)
      · simp [hactive]
      · rw [hactive.2]
        decide
    · split
      · rename_i hactive
        simp only [Bool.and_eq_true, decide_eq_true_eq] at hactive
        refine absurd ?_ (hunfold ?_)
        · simp [hactive]
        · rw [hactive.2]
          decide
      · exact hwas
  | halfFold =>
    rw [foldSensors]
    by_cases hactive : bs.settings.autoBrightness = true ∧ bs.isScreenOn = true
    · rw [hsupport, hactive.1, hactive.2, sensorOf]
      by_cases hfirst : bs.currentSensorId = SENSOR_TYPE_ID_AMBIENT_LIGHT
      · rw [if_pos (by simp [hfirst]), if_pos hfirst, deactivateAmbientSensor_sensors hauto]
        cases sensor with
        | first => simp [AmbientSensors.isEnabled]
        | second => simpa [AmbientSensors.isEnabled] using hwas
      · rw [if_neg (by simp [hfirst]), if_neg hfirst]
        by_cases hsecond : bs.currentSensorId = SENSOR_TYPE_ID_AMBIENT_LIGHT1
        · rw [if_pos (by simp [hsecond]), if_pos hsecond, deactivateAmbientSensor1_sensors hauto]
          cases sensor with
          | first => simpa [AmbientSensors.isEnabled] using hwas
          | second => simp [AmbientSensors.isEnabled]
        · rw [if_neg (by simp [hsecond]), if_neg hsecond]
          exact iff_of_true hwas (by simp)
    · have hidle : (bs.isSupportLightSensor && bs.settings.autoBrightness && bs.isScreenOn) =
          false := by
        simp only [not_and, Bool.not_eq_true] at hactive
        cases hset : bs.settings.autoBrightness with
        | false => simp
        | true => simp [hactive hset]
      rw [hidle, if_neg (by simp), if_neg (by simp)]
      exact iff_of_true hwas fun hoff => hactive ⟨hoff.2.1, hoff.2.2.1⟩

/-- With one sensor on at most, a sensor is on after an event that switched it on, and after one
that did not switch it off. -/
theorem sensorStep_isEnabled_iff {bs t : BrightnessService} (h : SensorsFit bs)
    (hfold : bs.isFoldable = true) (hone : AtMostOne bs) {e : SensorEvent}
    (ht : bs.sensorStep e = some t) (sensor : AmbientSensor) :
    t.sensors.isEnabled sensor = true ↔ bs.switchesOn e = some sensor ∨
      (bs.sensors.isEnabled sensor = true ∧ ¬ SwitchesOff sensor bs e) := by
  have hswitch := sensorStep_switches ht
  cases hon : bs.switchesOn e with
  | some other =>
    rw [hon] at hswitch
    rw [show t.sensors = bs.sensors.enable other from hswitch, isEnabled_enable_iff,
      Option.some.injEq]
    simp [not_switchesOff_of_on hon sensor]
  | none =>
    rw [or_iff_right (by simp)]
    cases e with
    | autoAdjustBrightness enable =>
      exact Option.some.inj ht ▸ autoAdjustBrightness_stays_iff h hon sensor
    | setDisplayState state =>
      exact Option.some.inj ht ▸ setDisplayState_stays_iff h hfold hone hon sensor
    | foldStatusChanged foldStatus foldDisplayMode =>
      rw [hon] at hswitch
      by_cases hwas : bs.sensors.isEnabled sensor = true
      · rw [and_iff_right hwas, SwitchesOff]
        obtain ⟨_, ht⟩ := Option.ite_none_right_eq_some.mp ht
        obtain rfl := Option.some.inj ht
        by_cases hlast : bs.lastFoldStatus = foldStatus
        · rw [onFoldStatusChanged, if_pos hlast]
          refine iff_of_true hwas ?_
          rintro ⟨rfl, hchanged, _⟩
          exact hchanged hlast
        · have hfoldNone : foldStatus = .folded ∨ foldStatus = .expand →
              bs.unfoldSensor foldStatus = none := by
            intro hstatus
            rwa [switchesOn, if_pos ⟨hlast, hstatus⟩] at hon
          obtain ⟨displayId, hsensors⟩ := @onFoldStatusChanged_sensors
            { bs with foldDisplayMode := foldDisplayMode } foldStatus hlast
          rw [hsensors]
          refine (@foldSensors_stays_iff
            ({ bs with foldDisplayMode := foldDisplayMode }.setDisplayId displayId)
            ⟨h.manual, h.unsupported, h.rigid⟩ foldStatus hfoldNone sensor hwas).trans
              (not_congr ?_)
          constructor
          · rintro ⟨rfl, hrest⟩
            exact ⟨rfl, hlast, hrest⟩
          · rintro ⟨rfl, _, hrest⟩
            exact ⟨rfl, hrest⟩
      · exact iff_of_false (fun hlit => hwas (hswitch sensor hlit)) fun hstays => hwas hstays.1
    | settingAutoBrightness enable =>
      rw [← Option.some.inj ht]
      exact (and_iff_left id).symm

theorem sensorStep_keeps_foldable {bs t : BrightnessService} {e : SensorEvent}
    (ht : bs.sensorStep e = some t) : t.isFoldable = bs.isFoldable :=
  (congrArg AutoMode.isFoldable (sensorStep_autoMode ht)).trans (bs.autoMode.after_device e).1

/-- As long as the sensors never overlap, one is on exactly if it was switched on and not switched
off since. -/
theorem isEnabled_iff_since {boot : BrightnessBoot} (hfold : boot.isFoldable = true)
    {es : List SensorEvent} {t : BrightnessService}
    (hone : Runs.Always sensorStep (fun s e => ∀ u, s.sensorStep e = some u → AtMostOne u)
      boot.start es)
    (ht : Runs.run sensorStep boot.start es = some t) (sensor : AmbientSensor) :
    t.sensors.isEnabled sensor = true ↔ Runs.Since sensorStep
      (fun u f => u.switchesOn f = some sensor) (SwitchesOff sensor) boot.start es := by
  have hstart : ¬ boot.start.sensors.isEnabled sensor = true := by
    cases sensor with
    | _ => simp [sensors, mode, AmbientSensors.isEnabled, BrightnessBoot.start]
  refine @Runs.holds_iff_since _ _ _ _ _ (fun s => s.sensors.isEnabled sensor = true) _ _ _ hstart
    ?_ ht
  refine Runs.always_of_invariant (C := fun s e => ∀ u, s.sensorStep e = some u → AtMostOne u)
    (J := fun s => SensorsFit s ∧ s.isFoldable = true ∧ AtMostOne s) ?_ ?_
    ⟨.start boot, hfold, by simp [AtMostOne, BrightnessBoot.start]⟩ hone
  · rintro s e u ⟨hfit, hfoldable, _⟩ hnext hu
    exact ⟨hfit.step hu, (sensorStep_keeps_foldable hu).trans hfoldable, hnext u hu⟩
  · rintro s e ⟨hfit, hfoldable, hnow⟩ _ u hu
    exact sensorStep_isEnabled_iff hfit hfoldable hnow hu sensor

theorem sensorStep_atMostOne_iff {bs t : BrightnessService} (hone : AtMostOne bs) {e : SensorEvent}
    (ht : bs.sensorStep e = some t) :
    AtMostOne t ↔
      ∀ sensor, bs.switchesOn e = some sensor → bs.sensors.isEnabled sensor.other = false := by
  have hswitch := sensorStep_switches ht
  cases hon : bs.switchesOn e with
  | none =>
    rw [hon] at hswitch
    exact iff_of_true (hone.within hswitch) (by simp)
  | some sensor =>
    rw [hon] at hswitch
    simpa using atMostOne_of_enable hswitch

/-- Two sensors are never on at once exactly in the runs in which every sensor is switched off
between the event that switched it on and one that switches on the other. -/
theorem at_most_one_iff {boot : BrightnessBoot} (hfold : boot.isFoldable = true)
    (es : List SensorEvent) :
    Runs.Always sensorStep (fun s e => ∀ t, s.sensorStep e = some t → AtMostOne t) boot.start es ↔
      InTurn boot es := by
  induction es using List.reverseRecOn with
  | nil => exact iff_of_true trivial (Runs.throughout_nil _)
  | append_singleton es e ih =>
    rw [InTurn, Runs.throughout_snoc, ← InTurn, ← ih, Runs.always_append]
    refine and_congr_right fun hone => forall₂_congr fun t ht => ?_
    have hnow : AtMostOne t :=
      Runs.run_invariant (J := AtMostOne) (fun s f u _ hnext hu => hnext u hu)
        (by simp [AtMostOne, BrightnessBoot.start]) hone ht
    have hfoldable : t.isFoldable = true :=
      Runs.run_invariant_of (J := fun s => s.isFoldable = true) (P := fun _ => True)
        (fun s f u hs _ hu => (sensorStep_keeps_foldable hu).trans hs) hfold (fun _ _ => trivial) ht
    have hruns : ∃ u, t.sensorStep e = some u := by
      cases e with
      | foldStatusChanged foldStatus foldDisplayMode => exact ⟨_, if_pos hfoldable⟩
      | _ => exact ⟨_, rfl⟩
    obtain ⟨u, hu⟩ := hruns
    rw [Runs.always_cons, Runs.forall_step_iff hu, sensorStep_atMostOne_iff hnow hu]
    simp only [Runs.always_nil, implies_true, and_true]
    refine forall₂_congr fun sensor _ => ?_
    rw [← isEnabled_iff_since hfold hone ht, Bool.not_eq_true]

def foldableBoot : BrightnessBoot where
  isFoldable := true
  isSupportLightSensor := true
  foldDisplayMode := 1
  state := .on
  settings := { autoBrightness := true }

/-- Booted unfolded, the service has not stored the sensor of that status, and half folding
switches another one off. -/
theorem folds_after_boot : ¬ AlwaysAtMostOne := by
  intro h
  have hone := h foldableBoot rfl rfl
    [.autoAdjustBrightness true, .foldStatusChanged .halfFold 1, .foldStatusChanged .folded 2]
    (by simp [Matching, displayModeOf]) _ rfl
  exact hone ⟨by decide +kernel, by decide +kernel⟩

/-- Unfolded since the boot and half folded in between. -/
theorem folds_by_half : Runs.Always sensorStep
    (fun s e => ∀ t, s.sensorStep e = some t → AtMostOne t) foldableBoot.start
    [.foldStatusChanged .expand 1, .autoAdjustBrightness true, .foldStatusChanged .halfFold 1,
      .foldStatusChanged .folded 2] := by
  rw [at_most_one_iff rfl]
  change InTurn foldableBoot ((([] ++ [_]) ++ [_]) ++ [_] ++ [_])
  rw [InTurn, Runs.throughout_snoc, Runs.throughout_snoc, Runs.throughout_snoc,
    Runs.throughout_snoc]
  refine ⟨⟨⟨⟨Runs.throughout_nil _, ?_⟩, ?_⟩, ?_⟩, ?_⟩
  all_goals
    intro t ht sensor
    obtain rfl := Option.some.inj ht
    cases sensor with
    | _ => decide +kernel

/-! ## Sensors that nothing needs -/

def OnlyWhenNeeded (bs : BrightnessService) : Prop :=
  bs.isLightSensorEnabled = true ∨ bs.isLightSensor1Enabled = true →
    bs.isAutoBrightnessEnabled = true ∧ bs.isScreenOn = true

def AlwaysOnlyWhenNeeded : Prop :=
  ∀ (boot : BrightnessBoot) es t, Runs.run sensorStep boot.start es = some t → OnlyWhenNeeded t

/-- The automatic mode is switched on with the screen on, unless there is no sensor to switch on;
and when the screen goes off, a sensor that is on is not only the one of another fold mode. -/
def Needed (bs : BrightnessService) : SensorEvent → Prop
  | .autoAdjustBrightness enable =>
    bs.switchesOn (.autoAdjustBrightness enable) ≠ none → bs.isScreenOn = true
  | .setDisplayState state =>
    state.isScreenOn = false →
      bs.isLightSensorEnabled = true ∨ bs.isLightSensor1Enabled = true →
        bs.isCurrentSensorEnable = true
  | _ => True

theorem isOn_iff {bs : BrightnessService} :
    bs.isLightSensorEnabled = true ∨ bs.isLightSensor1Enabled = true ↔
      ∃ sensor, bs.sensors.isEnabled sensor = true := by
  constructor
  · rintro (hfirst | hsecond)
    · exact ⟨.first, hfirst⟩
    · exact ⟨.second, hsecond⟩
  · rintro ⟨sensor, hon⟩
    cases sensor with
    | first => exact Or.inl hon
    | second => exact Or.inr hon

theorem onlyWhenNeeded_of_fit {bs : BrightnessService} (h : SensorsFit bs) :
    OnlyWhenNeeded bs ↔
      ((∃ sensor, bs.sensors.isEnabled sensor = true) → bs.isScreenOn = true) := by
  rw [OnlyWhenNeeded, isOn_iff]
  constructor
  · intro hneeded hon
    exact (hneeded hon).2
  · intro hscreen hon
    exact ⟨(auto_of_fit h hon).1, hscreen hon⟩

theorem sensorStep_stays_needed {bs t : BrightnessService} {e : SensorEvent} (h : SensorsFit bs)
    (hneeded : OnlyWhenNeeded bs) (ht : bs.sensorStep e = some t)
    (hstate : (bs.autoMode.after e).state = bs.state)
    (hon : bs.switchesOn e ≠ none → bs.isScreenOn = true) : OnlyWhenNeeded t := by
  have hscreen : t.isScreenOn = bs.isScreenOn :=
    congrArg DisplayState.isScreenOn
      ((congrArg AutoMode.state (sensorStep_autoMode ht)).trans hstate)
  have hswitch := sensorStep_switches ht
  rw [onlyWhenNeeded_of_fit (h.step ht), hscreen]
  rw [onlyWhenNeeded_of_fit h] at hneeded
  rintro ⟨sensor, hlit⟩
  cases hsw : bs.switchesOn e with
  | some other => exact hon (by simp [hsw])
  | none =>
    rw [hsw] at hswitch
    exact hneeded ⟨sensor, hswitch sensor hlit⟩

theorem autoAdjustBrightness_needed_iff {bs t : BrightnessService} (h : SensorsFit bs)
    (hneeded : OnlyWhenNeeded bs) {enable : Bool}
    (ht : bs.sensorStep (.autoAdjustBrightness enable) = some t) :
    Needed bs (.autoAdjustBrightness enable) ↔ OnlyWhenNeeded t := by
  constructor
  · intro hwhen
    exact sensorStep_stays_needed h hneeded ht rfl hwhen
  · intro hlit hsome
    obtain ⟨sensor, hon⟩ := Option.ne_none_iff_exists'.mp hsome
    have hswitch := sensorStep_switches ht
    have hscreen : t.isScreenOn = bs.isScreenOn :=
      congrArg (fun m : AutoMode => m.state.isScreenOn) (sensorStep_autoMode ht)
    rw [hon] at hswitch
    rw [← hscreen]
    refine (onlyWhenNeeded_of_fit (h.step ht)).mp hlit ⟨sensor, ?_⟩
    rw [show t.sensors = bs.sensors.enable sensor from hswitch]
    cases sensor with
    | _ => rfl

theorem setDisplayState_off_iff {bs : BrightnessService} (h : SensorsFit bs) {state : DisplayState}
    (hoff : state.isScreenOn = false) :
    (∃ sensor, (bs.setDisplayState state).sensors.isEnabled sensor = true) ↔
      (∃ sensor, bs.sensors.isEnabled sensor = true) ∧ bs.isCurrentSensorEnable = false := by
  rw [setDisplayState_sensors, BrightnessConfig.enterSensors, if_neg (by simp [hoff]),
    BrightnessConfig.sensorsOff, isCurrentSensorEnable_eq]
  cases hcurrent : bs.config.isSensing bs.mode.sensors with
  | true =>
    refine iff_of_false ?_ (by simp)
    have hwas : ∃ sensor, bs.sensors.isEnabled sensor = true := by
      obtain ⟨sensor, _, hon⟩ := (Option.any_eq_true _ _).mp hcurrent
      exact ⟨sensor, hon⟩
    have hhas : bs.config.hasAutoSensor = true :=
      Bool.and_eq_true_iff.mpr (auto_of_fit h hwas).symm
    rw [sensors, hcurrent, hhas, if_pos (by simp)]
    rintro ⟨sensor, hon⟩
    cases sensor with
    | first => cases hon
    | second =>
      obtain ⟨hrigid, hsecond⟩ := Bool.and_eq_true_iff.mp hon
      have hnone := h.rigid ((Bool.not_eq_true' _).mp hrigid)
      exact absurd (hnone.symm.trans hsecond) (by simp)
  | false =>
    rw [sensors, hcurrent, Bool.and_false, if_neg (by simp)]
    simp

theorem setDisplayState_needed_iff {bs t : BrightnessService} (h : SensorsFit bs)
    {state : DisplayState} (ht : bs.sensorStep (.setDisplayState state) = some t) :
    Needed bs (.setDisplayState state) ↔ OnlyWhenNeeded t := by
  have hscreen : t.isScreenOn = state.isScreenOn :=
    congrArg (fun m : AutoMode => m.state.isScreenOn) (sensorStep_autoMode ht)
  rw [onlyWhenNeeded_of_fit (h.step ht), hscreen, Needed, isOn_iff]
  obtain rfl := Option.some.inj ht
  cases hon : state.isScreenOn with
  | true => exact iff_of_true (fun hdark => absurd hdark (by simp)) fun _ => rfl
  | false =>
    rw [setDisplayState_off_iff h hon]
    constructor
    · rintro hwhen ⟨hwas, hother⟩
      exact hother.symm.trans (hwhen rfl hwas)
    · intro hnone _ hwas
      by_contra hother
      exact absurd (hnone ⟨hwas, Bool.eq_false_iff.mpr hother⟩) (by simp)

theorem sensorStep_needed_iff {bs : BrightnessService} (h : SensorsFit bs)
    (hneeded : OnlyWhenNeeded bs) (e : SensorEvent) :
    Needed bs e ↔ ∀ t, bs.sensorStep e = some t → OnlyWhenNeeded t := by
  cases e with
  | autoAdjustBrightness enable =>
    exact (autoAdjustBrightness_needed_iff h hneeded rfl).trans (Runs.forall_step_iff rfl).symm
  | setDisplayState state =>
    exact (setDisplayState_needed_iff h rfl).trans (Runs.forall_step_iff rfl).symm
  | foldStatusChanged foldStatus foldDisplayMode =>
    refine iff_of_true trivial ?_
    intro t ht
    refine sensorStep_stays_needed h hneeded ht rfl ?_
    intro hsome
    obtain ⟨sensor, hon⟩ := Option.ne_none_iff_exists'.mp hsome
    obtain ⟨_, hon⟩ := Option.ite_none_right_eq_some.mp hon
    obtain ⟨hactive, _⟩ := Option.ite_none_right_eq_some.mp hon
    exact (Bool.and_eq_true_iff.mp (Bool.and_eq_true_iff.mp hactive).1).2
  | settingAutoBrightness enable =>
    refine iff_of_true trivial ?_
    intro t ht
    exact sensorStep_stays_needed h hneeded ht rfl (fun hsome => absurd rfl hsome)

/-- Sensors are on only when needed exactly as long as the automatic mode is not switched on with
the screen off and no sensor of another fold mode is on when it goes off. -/
theorem only_when_needed_iff (boot : BrightnessBoot) (es : List SensorEvent) :
    Runs.Always sensorStep (fun s e => ∀ t, s.sensorStep e = some t → OnlyWhenNeeded t)
      boot.start es ↔ Runs.Always sensorStep Needed boot.start es := by
  refine Runs.always_keeps_iff (J := SensorsFit) (P := fun _ => True) ?_ ?_ (.start boot)
    (by simp [OnlyWhenNeeded, BrightnessBoot.start]) (fun _ _ => trivial)
  · intro s e t hs _ ht
    exact hs.step ht
  · intro s e hs hneeded _
    exact sensorStep_needed_iff hs hneeded e

/-- The automatic mode is switched on while the screen is off. -/
theorem switched_on_in_the_dark : ¬ AlwaysOnlyWhenNeeded := by
  intro h
  have hneeded := h { isSupportLightSensor := true, state := .off }
    [.autoAdjustBrightness true] _ rfl
  exact absurd (hneeded (Or.inl (by decide +kernel))).2 (by decide +kernel)

end AmbientSensorRuns

end DisplayPowerMgr
