import DisplayPowerMgr.Library.Tasks
import DisplayPowerMgr.CalculationManager
import DisplayPowerMgr.LightLuxManager
import DisplayPowerMgr.BrightnessDimming

/-! `BrightnessService`. Every function of the class is atomic here; the tasks it submits run
later, in any order. Allocations and writes of a readable settings store succeed. -/
namespace DisplayPowerMgr

/-- The system parameters, which are 32-bit integers there and not negative here. -/
structure BrightnessParam where
  minBrightness : ℕ := 1
  maxBrightness : ℕ := 255
  sleepBrightness : ℕ := 10
  sleepMinumumReductionBrightness : ℕ := 10
  sleepDarkenTime : ℕ := 1000
  min_lt : minBrightness < 2 ^ 31 := by decide
  max_lt : maxBrightness < 2 ^ 31 := by decide

instance : Inhabited BrightnessParam := ⟨{}⟩

/-- What `BrightnessAction` reaches: the level of each display, the levels commanded so far
and the answers that the display manager gives to the next commands (yes when none is left). -/
structure Device where
  level : ℕ → ℕ := fun _ => 0
  written : List (ℕ × ℕ) := []
  answers : List Bool := []

def Device.setBrightness (d : Device) (displayId value : ℕ) : Device × Bool :=
  let isSucc := d.answers.headD true
  ({ level := if isSucc then Function.update d.level displayId value else d.level
     written := d.written ++ [(displayId, value)]
     answers := d.answers.tail }, isSucc)

/-- The persisted settings; a brightness that cannot be read cannot be written either. -/
structure SettingStore where
  brightness : Option ℕ := some 102
  autoBrightness : Bool := false
  deriving DecidableEq, Repr

def SettingStore.setSettingBrightness (s : SettingStore) (value : ℕ) : SettingStore :=
  { s with brightness := s.brightness.map fun _ => value }

theorem defaultSetting_lt : ∀ value ∈ ({} : SettingStore).brightness, value < 2 ^ 31 := by
  simp

/-- What the tasks of the brightness queues do when they run, with the values they captured. -/
inductive BrightnessTask where
  | nextStep
  | settingBrightness (safeBrightness : ℕ)
  | dimmingSettingBrightness (currentValue : ℕ)
  | cancelBoostBrightness (gradualDuration : ℕ)
  | waitForFirstLux (screenOnBrightness : ℕ)
  deriving DecidableEq, Repr

/-- `FFRT_CANCEL`: the handle becomes null only when its task was still there to cancel. -/
def ffrtCancel {α : Type*} (tasks : Tasks α) (hasQueue : Bool) (handle : Option ℕ) :
    Tasks α × Option ℕ :=
  match handle with
  | none => (tasks, none)
  | some id =>
    if hasQueue && tasks.isPending id then (tasks.remove id, none) else (tasks, some id)

inductive FoldStatus where
  | unknown | expand | folded | halfFold
  deriving DecidableEq, Repr

def FoldStatus.toNat : FoldStatus → ℕ
  | .unknown => 0
  | .expand => 1
  | .folded => 2
  | .halfFold => 3

variable {F : Type} [FloatArithmetic F]

structure BrightnessService (F : Type := ℚ) [FloatArithmetic F] where
  param : BrightnessParam := default
  isFoldable : Bool := false
  foldDisplayMode : ℕ := 0
  lastFoldStatus : FoldStatus := .unknown
  hasQueue : Bool := true
  isSupportLightSensor : Bool := false
  isLightSensorEnabled : Bool := false
  isLightSensor1Enabled : Bool := false
  isAutoBrightnessEnabled : Bool := false
  state : DisplayState := .unknown
  brightnessLevel : ℕ := 0
  brightnessTarget : ℕ := 0
  displayId : ℕ := 0
  currentSensorId : ℕ := 5
  discount : ℚ := 1
  isBrightnessOverridden : Bool := false
  isBrightnessBoosted : Bool := false
  cachedSettingBrightness : ℕ := 50
  overriddenBrightness : ℕ := 50
  beforeOverriddenBrightness : ℕ := 50
  dimming : BrightnessDimming := {}
  lightLuxManager : LightLuxManager F := {}
  calculationManager : BrightnessCalculationManager F := {}
  isSleepStatus : Bool := false
  isDisplayOnWhenFirstLuxReport : Bool := false
  waitForFirstLux : Bool := false
  currentBrightness : ℕ := 50
  brightnessValueMax : ℕ := 255
  brightnessValueMin : ℕ := 1
  cancelBoostTaskHandle : Option ℕ := none
  waitForFirstLuxTaskHandle : Option ℕ := none
  animatorTaskHandle : Option ℕ := none
  tasks : Tasks BrightnessTask := .empty
  device : Device := {}
  settings : SettingStore := {}

namespace BrightnessService

def MAX_DEFAULT_BRGIHTNESS_LEVEL : ℕ := 255
def MIN_DEFAULT_BRGIHTNESS_LEVEL : ℕ := 1
def MAX_MAPPING_BRGIHTNESS_LEVEL : ℕ := 223
def MIN_MAPPING_BRGIHTNESS_LEVEL : ℕ := 1
def MAX_DEFAULT_BRGIHTNESS_NIT : ℕ := 600
def MIN_DEFAULT_BRGIHTNESS_NIT : ℕ := 2
def DEFAULT_ANIMATING_DURATION : ℕ := 500
def DEFAULT_BRIGHTEN_DURATION : ℕ := 2000
def DEFAULT_DARKEN_DURATION : ℕ := 5000
def DEFAULT_MAX_BRIGHTNESS_DURATION : ℕ := 3000
def DEFAULT_BRIGHTNESS : ℕ := 50
def DISCOUNT_MIN : ℚ := double (1 / 100)
def DISCOUNT_MAX : ℚ := 1
def SENSOR_TYPE_ID_AMBIENT_LIGHT : ℕ := 5
def SENSOR_TYPE_ID_AMBIENT_LIGHT1 : ℕ := 16

def getSettingBrightness (bs : BrightnessService F) : ℕ :=
  bs.settings.brightness.getD DEFAULT_BRIGHTNESS

def getSafeBrightness (bs : BrightnessService F) (value : ℕ) : ℕ :=
  let brightnessValue := if value > bs.brightnessValueMax then bs.brightnessValueMax else value
  if brightnessValue < bs.brightnessValueMin then bs.brightnessValueMin else brightnessValue

/-- From the scale of the setting to the scale of the device. -/
def getMappingBrightnessLevel (minBrightness level : ℕ) : ℕ :=
  let level := if level < MIN_DEFAULT_BRGIHTNESS_LEVEL then MIN_DEFAULT_BRGIHTNESS_LEVEL else level
  let level := if level > MAX_DEFAULT_BRGIHTNESS_LEVEL then MAX_DEFAULT_BRGIHTNESS_LEVEL else level
  let levelOut : ℚ :=
    ((level - MIN_DEFAULT_BRGIHTNESS_LEVEL : ℕ) : ℚ)
      * (MAX_MAPPING_BRGIHTNESS_LEVEL - MIN_MAPPING_BRGIHTNESS_LEVEL : ℕ)
      / (MAX_DEFAULT_BRGIHTNESS_LEVEL - MIN_DEFAULT_BRGIHTNESS_LEVEL : ℕ)
      + MIN_MAPPING_BRGIHTNESS_LEVEL + 1 / 2
  if toUint32 levelOut < minBrightness then minBrightness else toUint32 levelOut

/-- From the scale of the device back to the scale of the setting. -/
def getOrigBrightnessLevel (level : ℕ) : ℕ :=
  let level := if level < MIN_MAPPING_BRGIHTNESS_LEVEL then MIN_MAPPING_BRGIHTNESS_LEVEL else level
  let level := if level > MAX_MAPPING_BRGIHTNESS_LEVEL then MAX_MAPPING_BRGIHTNESS_LEVEL else level
  let levelOut : ℚ :=
    ((level - MIN_MAPPING_BRGIHTNESS_LEVEL : ℕ) : ℚ)
      * (MAX_DEFAULT_BRGIHTNESS_LEVEL - MIN_DEFAULT_BRGIHTNESS_LEVEL : ℕ)
      / (MAX_MAPPING_BRGIHTNESS_LEVEL - MIN_MAPPING_BRGIHTNESS_LEVEL : ℕ)
      + MIN_MAPPING_BRGIHTNESS_LEVEL + 1 / 2
  toUint32 levelOut

/-- The device level that a setting value stands for under the current cap and discount. -/
def deviceLevel (bs : BrightnessService F) (value : ℕ) : ℕ :=
  getMappingBrightnessLevel bs.param.minBrightness
    (toUint32 (double (bs.getSafeBrightness value * bs.discount)))

def getBrightnessLevelFromNit (nit : ℕ) : ℕ :=
  let nitIn := if nit < MIN_DEFAULT_BRGIHTNESS_NIT then MIN_DEFAULT_BRGIHTNESS_NIT else nit
  let nitIn := if nitIn > MAX_DEFAULT_BRGIHTNESS_NIT then MAX_DEFAULT_BRGIHTNESS_NIT else nitIn
  let levelOut : ℚ :=
    ((nitIn - MIN_DEFAULT_BRGIHTNESS_NIT : ℕ) : ℚ)
      * (MAX_DEFAULT_BRGIHTNESS_LEVEL - MIN_DEFAULT_BRGIHTNESS_LEVEL : ℕ)
      / (MAX_DEFAULT_BRGIHTNESS_NIT - MIN_DEFAULT_BRGIHTNESS_NIT : ℕ)
      + MIN_DEFAULT_BRGIHTNESS_LEVEL
  toUint32 (levelOut + 1 / 2)

def isScreenOn (bs : BrightnessService F) : Bool := bs.state.isScreenOn

def canSetBrightness (bs : BrightnessService F) : Bool :=
  bs.isScreenOn && !bs.isBrightnessOverridden && !bs.isBrightnessBoosted

def canDiscountBrightness (bs : BrightnessService F) : Bool := bs.isScreenOn

def canOverrideBrightness (bs : BrightnessService F) : Bool :=
  bs.isScreenOn && !bs.isBrightnessBoosted

def canBoostBrightness (bs : BrightnessService F) : Bool :=
  bs.isScreenOn && !bs.isBrightnessOverridden

def submitTask (bs : BrightnessService F) (task : BrightnessTask) : BrightnessService F :=
  { bs with tasks := bs.tasks.submit task }

def stopDimming (bs : BrightnessService F) : BrightnessService F :=
  let (tasks, handle) := ffrtCancel bs.tasks bs.dimming.hasQueue bs.animatorTaskHandle
  { bs with
    dimming := { bs.dimming with isDimming := false }
    tasks := tasks
    animatorTaskHandle := handle }

def stopIfDimming (bs : BrightnessService F) : BrightnessService F :=
  if bs.dimming.isDimming then bs.stopDimming else bs

def submitNextStep (bs : BrightnessService F) : BrightnessService F :=
  { bs.submitTask .nextStep with animatorTaskHandle := some bs.tasks.next }

def startDimming (bs : BrightnessService F) (fromBrightness toBrightness duration : ℕ) :
    BrightnessService F :=
  let (dimming, submitted) := bs.dimming.startDimming fromBrightness toBrightness duration
  if submitted then { bs with dimming := dimming }.submitNextStep
  else { bs with dimming := dimming }

def updateBrightness (bs : BrightnessService F) (value gradualDuration : ℕ) (updateSetting : Bool) :
    BrightnessService F × Bool :=
  let bs := { bs with waitForFirstLux := false }
  let safeBrightness := bs.getSafeBrightness value
  let bs := bs.stopIfDimming
  let brightness := bs.deviceLevel value
  if gradualDuration > 0 then
    (bs.startDimming bs.getSettingBrightness brightness gradualDuration, true)
  else
    let (device, isSuccess) := bs.device.setBrightness bs.displayId brightness
    let bs := { bs with device := device }
    (if isSuccess && updateSetting then bs.submitTask (.settingBrightness safeBrightness) else bs,
      isSuccess)

def setSettingBrightness (bs : BrightnessService F) (value : ℕ) : BrightnessService F :=
  { bs with
    settings := bs.settings.setSettingBrightness value
    brightnessLevel := value
    cachedSettingBrightness := value }

def getSensorIdWithDisplayMode (bs : BrightnessService F) : ℕ :=
  bs.calculationManager.curve.getSensorIdWithDisplayMode bs.foldDisplayMode

def activateAmbientSensor (bs : BrightnessService F) : BrightnessService F :=
  if bs.isAutoBrightnessEnabled then { bs with isLightSensorEnabled := true } else bs

def activateAmbientSensor1 (bs : BrightnessService F) : BrightnessService F :=
  if bs.isAutoBrightnessEnabled then { bs with isLightSensor1Enabled := true } else bs

def deactivateAmbientSensor (bs : BrightnessService F) : BrightnessService F :=
  if bs.isAutoBrightnessEnabled && bs.isLightSensorEnabled then
    { bs with
      isLightSensorEnabled := false
      lightLuxManager := bs.lightLuxManager.clearLuxData }
  else bs

def deactivateAmbientSensor1 (bs : BrightnessService F) : BrightnessService F :=
  if bs.isAutoBrightnessEnabled && bs.isLightSensor1Enabled then
    { bs with
      isLightSensor1Enabled := false
      lightLuxManager := bs.lightLuxManager.clearLuxData }
  else bs

def activateValidAmbientSensor (bs : BrightnessService F) : BrightnessService F :=
  if !bs.isFoldable then bs.activateAmbientSensor
  else if bs.getSensorIdWithDisplayMode = SENSOR_TYPE_ID_AMBIENT_LIGHT then
    bs.activateAmbientSensor
  else if bs.getSensorIdWithDisplayMode = SENSOR_TYPE_ID_AMBIENT_LIGHT1 then
    bs.activateAmbientSensor1
  else bs

def deactivateAllAmbientSensor (bs : BrightnessService F) : BrightnessService F :=
  if !bs.isFoldable then bs.deactivateAmbientSensor
  else bs.deactivateAmbientSensor.deactivateAmbientSensor1

def isCurrentSensorEnable (bs : BrightnessService F) : Bool :=
  if !bs.isFoldable then bs.isLightSensorEnabled
  else if bs.getSensorIdWithDisplayMode = SENSOR_TYPE_ID_AMBIENT_LIGHT then
    bs.isLightSensorEnabled
  else if bs.getSensorIdWithDisplayMode = SENSOR_TYPE_ID_AMBIENT_LIGHT1 then
    bs.isLightSensor1Enabled
  else false

def setSettingAutoBrightness (bs : BrightnessService F) (enable : Bool) : BrightnessService F :=
  { bs with settings := { bs.settings with autoBrightness := enable } }

def autoAdjustBrightness (bs : BrightnessService F) (enable : Bool) : BrightnessService F × Bool :=
  if !bs.isSupportLightSensor then (bs.setSettingAutoBrightness false, false)
  else if enable then
    if bs.isAutoBrightnessEnabled then (bs, true)
    else ({ bs with isAutoBrightnessEnabled := true }.activateValidAmbientSensor, true)
  else if !bs.isAutoBrightnessEnabled then (bs, true)
  else ({ bs.deactivateAllAmbientSensor with isAutoBrightnessEnabled := false }, true)

def stateChangedSetAutoBrightness (bs : BrightnessService F) (enable : Bool) :
    BrightnessService F × Bool :=
  if !bs.isSupportLightSensor then (bs.setSettingAutoBrightness false, false)
  else if enable then
    if bs.isCurrentSensorEnable then (bs, true) else (bs.activateValidAmbientSensor, true)
  else if !bs.isCurrentSensorEnable then (bs, true)
  else (bs.deactivateAllAmbientSensor, true)

def setBrightness (bs : BrightnessService F) (value gradualDuration : ℕ) (continuous : Bool) :
    BrightnessService F × Bool :=
  if !bs.isBrightnessOverridden && !bs.canSetBrightness then
    ({ bs with cachedSettingBrightness := value }, false)
  else
    let bs := { bs with isBrightnessOverridden := false }
    let bs :=
      if gradualDuration = 0 ∧ bs.isAutoBrightnessEnabled ∧ bs.isCurrentSensorEnable then
        { bs with
          calculationManager := bs.calculationManager.updateBrightnessOffset (float value)
            bs.lightLuxManager.getSmoothedLux }
      else bs
    { bs with brightnessTarget := value, currentBrightness := value }.updateBrightness value
      gradualDuration (!continuous)

/-- With `isUpdateTarget` an automatic brightness without a target asks to wait for light. -/
def getScreenOnBrightness (bs : BrightnessService F) (isUpdateTarget : Bool) :
    BrightnessService F × ℕ :=
  if bs.isBrightnessBoosted then (bs, bs.param.maxBrightness)
  else if bs.isBrightnessOverridden then (bs, bs.overriddenBrightness)
  else if isUpdateTarget && bs.isAutoBrightnessEnabled then
    if bs.brightnessTarget > 0 then (bs, bs.brightnessTarget)
    else ({ bs with waitForFirstLux := true }, 0)
  else (bs, bs.getSettingBrightness)

/-- The task submitted here sets the brightness when no light was reported for 200 ms. -/
def waitFirstLux (bs : BrightnessService F) : BrightnessService F :=
  let (tasks, _) := ffrtCancel bs.tasks bs.hasQueue bs.waitForFirstLuxTaskHandle
  let screenOnBrightness := bs.cachedSettingBrightness
  { bs with
    tasks := tasks.submit (.waitForFirstLux screenOnBrightness)
    waitForFirstLuxTaskHandle := some tasks.next }

def setScreenOnBrightness (bs : BrightnessService F) : BrightnessService F :=
  let (bs, screenOnBrightness) := bs.getScreenOnBrightness true
  if bs.waitForFirstLux then
    if !bs.hasQueue then bs else bs.waitFirstLux
  else
    let needUpdateBrightness := !(bs.isBrightnessBoosted || bs.isBrightnessOverridden)
    (bs.updateBrightness screenOnBrightness 0 needUpdateBrightness).1

def safeDiscount (discount : ℚ) : ℚ :=
  let safeDiscount := if discount > DISCOUNT_MAX then DISCOUNT_MAX else discount
  if safeDiscount < DISCOUNT_MIN then DISCOUNT_MIN else safeDiscount

def discountBrightness (bs : BrightnessService F) (discount : ℚ) (gradualDuration : ℕ) :
    BrightnessService F × Bool :=
  if !bs.canDiscountBrightness then (bs, false)
  else
    let bs := { bs with discount := safeDiscount discount }
    let (bs, screenOnBrightness) := bs.getScreenOnBrightness false
    bs.updateBrightness screenOnBrightness gradualDuration false

def overrideBrightness (bs : BrightnessService F) (value gradualDuration : ℕ) :
    BrightnessService F × Bool :=
  if !bs.canOverrideBrightness then (bs, false)
  else
    { bs with
      isBrightnessOverridden := true
      overriddenBrightness := value
      beforeOverriddenBrightness := bs.getSettingBrightness }.updateBrightness value
        gradualDuration false

def restoreBrightness (bs : BrightnessService F) (gradualDuration : ℕ) :
    BrightnessService F × Bool :=
  if !bs.isBrightnessOverridden then (bs, false)
  else
    { bs with isBrightnessOverridden := false }.updateBrightness bs.beforeOverriddenBrightness
      gradualDuration true

def enterSleepBrightness (param : BrightnessParam) (value : ℕ) : ℕ :=
  let value :=
    if value < param.sleepMinumumReductionBrightness then param.sleepMinumumReductionBrightness
    else value
  max (min (value - param.sleepMinumumReductionBrightness) param.sleepBrightness)
    MIN_DEFAULT_BRGIHTNESS_LEVEL

def setSleepBrightness (bs : BrightnessService F) : BrightnessService F :=
  let value := bs.getSettingBrightness
  if value ≤ MIN_DEFAULT_BRGIHTNESS_LEVEL then bs
  else
    ({ bs with isSleepStatus := true }.overrideBrightness (enterSleepBrightness bs.param value)
      bs.param.sleepDarkenTime).1

def boostBrightness (bs : BrightnessService F) (gradualDuration : ℕ) : BrightnessService F × Bool :=
  if !bs.canBoostBrightness || !bs.hasQueue then (bs, false)
  else
    let (bs, isSuccess) :=
      if bs.isBrightnessBoosted then (bs, true)
      else
        { bs with isBrightnessBoosted := true }.updateBrightness bs.param.maxBrightness
          gradualDuration false
    let (tasks, _) := ffrtCancel bs.tasks bs.hasQueue bs.cancelBoostTaskHandle
    ({ bs with
        tasks := tasks.submit (.cancelBoostBrightness gradualDuration)
        cancelBoostTaskHandle := some tasks.next }, isSuccess)

def cancelBoostBrightness (bs : BrightnessService F) (gradualDuration : ℕ) :
    BrightnessService F × Bool :=
  if !bs.isBrightnessBoosted || !bs.hasQueue then (bs, false)
  else
    let (tasks, handle) := ffrtCancel bs.tasks bs.hasQueue bs.cancelBoostTaskHandle
    { bs with
      tasks := tasks
      cancelBoostTaskHandle := handle
      isBrightnessBoosted := false }.updateBrightness bs.cachedSettingBrightness gradualDuration
        true

def clearOffset (bs : BrightnessService F) : BrightnessService F :=
  let bs := bs.stopIfDimming
  { bs with
    brightnessTarget := 0
    calculationManager := bs.calculationManager.updateBrightnessOffset (float 0)
      bs.lightLuxManager.getSmoothedLux }

def storeMaxBrightness (bs : BrightnessService F) (maxValue : ℕ) : BrightnessService F :=
  { bs with
    brightnessValueMax :=
      if maxValue > MAX_DEFAULT_BRGIHTNESS_LEVEL then MAX_DEFAULT_BRGIHTNESS_LEVEL else maxValue }

def followMaxBrightness (bs : BrightnessService F) : BrightnessService F × Bool :=
  if bs.brightnessValueMax < bs.getSettingBrightness then
    bs.updateBrightness bs.brightnessValueMax DEFAULT_MAX_BRIGHTNESS_DURATION true
  else if bs.currentBrightness = 0 then (bs, true)
  else bs.updateBrightness bs.currentBrightness DEFAULT_MAX_BRIGHTNESS_DURATION true

def changeMaxBrightness (bs : BrightnessService F) (maxValue : ℕ) : BrightnessService F × Bool :=
  if maxValue = bs.brightnessValueMax then (bs, true)
  else (bs.storeMaxBrightness maxValue).followMaxBrightness

/-- The cap that a share of the full range stands for. -/
def maxValueOf (bs : BrightnessService F) (value : ℚ) : ℕ :=
  -- `std::round` of the product in `double`
  let maxValue := toUint32 (double (value * MAX_DEFAULT_BRGIHTNESS_LEVEL) + 1 / 2)
  if maxValue = 0 ∨ value < 0 then bs.brightnessValueMin else maxValue

def setMaxBrightness (bs : BrightnessService F) (value : ℚ) : BrightnessService F × Bool :=
  bs.changeMaxBrightness (bs.maxValueOf value)

def setMaxBrightnessNit (bs : BrightnessService F) (maxNit : ℕ) : BrightnessService F × Bool :=
  bs.changeMaxBrightness (getBrightnessLevelFromNit maxNit)

def getBrightnessLevel (bs : BrightnessService F) (lux : F) : BrightnessService F × ℕ :=
  let (calculationManager, value) := bs.calculationManager.getInterpolatedValue lux
  ({ bs with calculationManager := calculationManager },
    (intPart (value * float MAX_DEFAULT_BRGIHTNESS_LEVEL)).toNat)

def cancelWaitFirstLux (bs : BrightnessService F) : BrightnessService F :=
  if bs.waitForFirstLux then
    let (tasks, handle) := ffrtCancel bs.tasks bs.hasQueue bs.waitForFirstLuxTaskHandle
    { bs with tasks := tasks, waitForFirstLuxTaskHandle := handle, waitForFirstLux := false }
  else bs

def isAtOnce (bs : BrightnessService F) (isFastDuration : Bool) : Bool :=
  isFastDuration && bs.isDisplayOnWhenFirstLuxReport

def luxDuration (bs : BrightnessService F) (brightnessLevel : ℕ) (isFastDuration : Bool) : ℕ :=
  if bs.isAtOnce isFastDuration then 0
  else if isFastDuration then DEFAULT_ANIMATING_DURATION
  else if brightnessLevel < bs.brightnessLevel then DEFAULT_DARKEN_DURATION
  else DEFAULT_BRIGHTEN_DURATION

def storeBrightnessLevel (bs : BrightnessService F) (brightnessLevel : ℕ) (isFastDuration : Bool) :
    BrightnessService F :=
  let bs :=
    { bs with
      isDisplayOnWhenFirstLuxReport :=
        if bs.isAtOnce isFastDuration then false else bs.isDisplayOnWhenFirstLuxReport
      brightnessLevel := brightnessLevel
      currentBrightness := brightnessLevel }
  { bs.cancelWaitFirstLux with brightnessTarget := brightnessLevel }

def updateCurrentBrightnessLevel (bs : BrightnessService F) (lux : F) (isFastDuration : Bool) :
    BrightnessService F :=
  let (bs, brightnessLevel) := bs.getBrightnessLevel lux
  if bs.brightnessLevel ≠ brightnessLevel ∨ isFastDuration then
    let duration := bs.luxDuration brightnessLevel isFastDuration
    ((bs.storeBrightnessLevel brightnessLevel isFastDuration).updateBrightness brightnessLevel
      duration true).1
  else bs

def processLightLux (bs : BrightnessService F) (lux : F) (currentTime : ℤ) :
    Option (BrightnessService F) :=
  if !bs.canSetBrightness then some bs
  else do
    let (lightLuxManager, isNeed) ← bs.lightLuxManager.isNeedUpdateBrightness lux currentTime
    let bs := { bs with lightLuxManager := lightLuxManager }
    return if isNeed then bs.updateCurrentBrightnessLevel lux lightLuxManager.isFirstLux else bs

def setDisplayId (bs : BrightnessService F) (displayId : ℕ) : BrightnessService F :=
  { bs with displayId := displayId }

/-- The sensor of the status unfolded to or folded to goes on, the current one goes off when
half folded; both only with the screen on and automatic brightness set. -/
def foldSensors (bs : BrightnessService F) (foldStatus : FoldStatus) : BrightnessService F :=
  let isActive := bs.isSupportLightSensor && bs.settings.autoBrightness && bs.isScreenOn
  match foldStatus with
  | .folded | .expand =>
    let sensorId := bs.calculationManager.curve.getSensorIdWithFoldstatus foldStatus.toNat
    let bs := { bs with currentSensorId := sensorId }
    if isActive && sensorId = SENSOR_TYPE_ID_AMBIENT_LIGHT then bs.activateAmbientSensor
    else if isActive && sensorId = SENSOR_TYPE_ID_AMBIENT_LIGHT1 then bs.activateAmbientSensor1
    else bs
  | .halfFold =>
    if isActive && bs.currentSensorId = SENSOR_TYPE_ID_AMBIENT_LIGHT then
      bs.deactivateAmbientSensor
    else if isActive && bs.currentSensorId = SENSOR_TYPE_ID_AMBIENT_LIGHT1 then
      bs.deactivateAmbientSensor1
    else bs
  | .unknown => bs

def onFoldStatusChanged (bs : BrightnessService F) (foldStatus : FoldStatus) :
    BrightnessService F :=
  if bs.lastFoldStatus = foldStatus then bs
  else
    let currentBrightness := bs.getSettingBrightness
    let displayId := bs.calculationManager.curve.getDisplayIdWithFoldstatus foldStatus.toNat
    let bs := (bs.setDisplayId displayId).foldSensors foldStatus
    let bs := if bs.canSetBrightness then (bs.updateBrightness currentBrightness 0 true).1 else bs
    { bs with lastFoldStatus := foldStatus }

/-- The part of `SetDisplayState` that does not depend on which state is entered. -/
def enterState (bs : BrightnessService F) (state : DisplayState) : BrightnessService F :=
  let bs := { bs with state := state }
  let isAutoMode := state.isScreenOn && bs.isAutoBrightnessEnabled
  (bs.stateChangedSetAutoBrightness isAutoMode).1

def setDisplayState (bs : BrightnessService F) (state : DisplayState) : BrightnessService F :=
  let bs := bs.enterState state
  match state with
  | .off =>
    let bs :=
      if bs.isSleepStatus then { bs with isBrightnessOverridden := false, isSleepStatus := false }
      else bs
    { bs with brightnessTarget := 0 }.stopIfDimming
  | .dim => bs.setSleepBrightness
  | .on =>
    let bs := { bs with isDisplayOnWhenFirstLuxReport := true }
    if bs.isSleepStatus then { (bs.restoreBrightness 0).1 with isSleepStatus := false } else bs
  | _ => bs

/-- `DimmingCallbackImpl::OnChanged`. -/
def onChanged (bs : BrightnessService F) (currentValue : ℕ) : BrightnessService F :=
  if !bs.dimming.isDimming then bs
  else
    let (device, isSuccess) := bs.device.setBrightness bs.displayId currentValue
    let bs := { bs with device := device }
    if isSuccess && !bs.isSleepStatus then bs.submitTask (.dimmingSettingBrightness currentValue)
    else bs

def notifyChanged (bs : BrightnessService F) : Option ℕ → BrightnessService F
  | some currentValue => bs.onChanged currentValue
  | none => bs

/-- `BrightnessDimming::NextStep` with its callback, which still sees the fade as running. -/
def nextStep (bs : BrightnessService F) : BrightnessService F :=
  let outcome := bs.dimming.nextStep
  let bs := { bs.notifyChanged outcome.changed with dimming := outcome.dimming }
  if outcome.again then bs.submitNextStep else bs

def perform (bs : BrightnessService F) : BrightnessTask → BrightnessService F
  | .nextStep => bs.nextStep
  | .settingBrightness safeBrightness => bs.setSettingBrightness safeBrightness
  | .dimmingSettingBrightness currentValue =>
    bs.setSettingBrightness (getOrigBrightnessLevel currentValue)
  | .cancelBoostBrightness gradualDuration => (bs.cancelBoostBrightness gradualDuration).1
  | .waitForFirstLux screenOnBrightness => (bs.updateBrightness screenOnBrightness 0 true).1

/-- A submitted task runs once; a handle without a pending task runs nothing. -/
def runTask (bs : BrightnessService F) (id : ℕ) : Option (BrightnessService F) :=
  (bs.tasks.find? id).map fun task => { bs with tasks := bs.tasks.remove id }.perform task

end BrightnessService

end DisplayPowerMgr
