import DisplayPowerMgr.DisplayPowerInfo

/-! `BrightnessCalculationCurve` and `BrightnessCalculationManager`: the configured curve
from ambient light to a level, and the offset the user put on it. -/
namespace DisplayPowerMgr

open FloatArithmetic (equal)

variable {F : Type} [FloatArithmetic F]

structure ScreenData where
  displayId : ℕ := 0
  sensorId : ℕ := 0
  deriving DecidableEq, Repr

/-- Both maps of `BrightnessConfig::Data`, with their built-in entries. -/
structure ScreenConfig where
  displayModeMap : List (ℕ × ScreenData) := [(0, ⟨0, 16⟩), (1, ⟨0, 16⟩), (2, ⟨5, 5⟩)]
  foldStatusModeMap : List (ℕ × ScreenData) :=
    [(0, ⟨0, 16⟩), (1, ⟨0, 16⟩), (2, ⟨5, 5⟩), (3, ⟨0, 16⟩)]
  deriving DecidableEq, Repr

structure BrightnessCalculationCurve (F : Type := ℚ) [FloatArithmetic F] where
  defaultPoints : List (PointXy F) :=
    [.of 0 5, .of 5 17, .of 20 30, .of 50 36, .of 200 45, .of 400 54, .of 1000 81, .of 2000 123,
      .of 7000 255]
  screenConfig : ScreenConfig := {}
  deriving DecidableEq, Repr

namespace BrightnessCalculationCurve

def mDefaultBrightness : ℚ := 100
def DEFAULT_DISPLAY_ID : ℕ := 0
def DEFAULT_SENSOR_ID : ℕ := 5

/-- The loop of `GetBrightnessCurveLevel` from `point` on, with the point before it. -/
def curveLevelFrom (lux : F) (prePoint : PointXy F) (brightnessLevel : F) : List (PointXy F) → F
  | [] => brightnessLevel
  | point :: points =>
    if lux < point.x then
      if point.x < prePoint.x || isEqualF point.x prePoint.x then float mDefaultBrightness
      else (point.y - prePoint.y) / (point.x - prePoint.x) * (lux - prePoint.x) + prePoint.y
    else curveLevelFrom lux point point.y points

def getBrightnessCurveLevel (linePointsList : List (PointXy F)) (lux : F) : F :=
  match linePointsList with
  | [] => float mDefaultBrightness
  | point :: points =>
    curveLevelFrom lux point (float mDefaultBrightness) (point :: points)

def getCurrentBrightness (c : BrightnessCalculationCurve F) (lux : F) : F :=
  if c.defaultPoints.length = 0 then float mDefaultBrightness
  else getBrightnessCurveLevel c.defaultPoints lux

def getDisplayIdWithDisplayMode (c : BrightnessCalculationCurve F) (displayMode : ℕ) : ℕ :=
  ((c.screenConfig.displayModeMap.lookup displayMode).map ScreenData.displayId).getD
    DEFAULT_DISPLAY_ID

def getDisplayIdWithFoldstatus (c : BrightnessCalculationCurve F) (foldStatus : ℕ) : ℕ :=
  ((c.screenConfig.foldStatusModeMap.lookup foldStatus).map ScreenData.displayId).getD
    DEFAULT_DISPLAY_ID

def getSensorIdWithFoldstatus (c : BrightnessCalculationCurve F) (foldStatus : ℕ) : ℕ :=
  ((c.screenConfig.foldStatusModeMap.lookup foldStatus).map ScreenData.sensorId).getD
    DEFAULT_SENSOR_ID

def getSensorIdWithDisplayMode (c : BrightnessCalculationCurve F) (displayMode : ℕ) : ℕ :=
  ((c.screenConfig.displayModeMap.lookup displayMode).map ScreenData.sensorId).getD
    DEFAULT_SENSOR_ID

end BrightnessCalculationCurve

structure BrightnessCalculationManager (F : Type := ℚ) [FloatArithmetic F] where
  curve : BrightnessCalculationCurve F := {}
  delta : F := float 0
  offsetLux : F := float 0
  posBrightness : F := float 0
  offsetBrightnessLast : F := float 0
  lastLuxDefaultBrightness : F := float 0
  startLuxDefaultBrightness : F := float 0
  curveLux : F := float 0
  defaultBrightnessFromLux : F := float 0
  deriving DecidableEq, Repr

namespace BrightnessCalculationManager

def DEFAULT_NO_OFFSET_LUX : ℚ := -1
def SMALL_VALUE : ℚ := 1 / 1000000
def MIN_DEFAULT_BRIGHTNESS : ℚ := 4
def MAX_DEFAULT_BRIGHTNESS : ℚ := 255
def AMBIENT_VALID_MAX_LUX : ℚ := 40000
def AMBIENT_VALID_MIN_LUX : ℚ := 0

/-! The four ratio parameters keep their initial zeros: the class has no setter for them. -/
def offsetBrightenAlphaRight : ℚ := 0
def offsetDarkenAlphaLeft : ℚ := 0
def offsetBrightenAlphaLeft : ℚ := 0
def offsetBrightenRatioLeft : ℕ := 0

def fmax (a b : F) : F := if a < b then b else a

def fmin (a b : F) : F := if b < a then b else a

def fpow (x : F) : ℕ → F
  | 0 => float 1
  | n + 1 => fpow x n * x

def headroomRatio (brightnessStartOrig brightnessEndOrig : F) : F :=
  if fabs (float MAX_DEFAULT_BRIGHTNESS - brightnessStartOrig) < float SMALL_VALUE then
    float 1
  else
    (float MAX_DEFAULT_BRIGHTNESS - brightnessEndOrig) /
      (float MAX_DEFAULT_BRIGHTNESS - brightnessStartOrig)

def getDefaultBrightenOffsetBrightenRaio (brightnessStartOrig brightnessEndOrig
    brightnessStartNew deltaStart : F) : F :=
  let brightenRatio := headroomRatio brightnessStartOrig brightnessEndOrig
  let offsetBrightnessTmp :=
    (float 1 - float offsetBrightenAlphaRight) *
        fmax brightnessEndOrig brightnessStartNew +
      float offsetBrightenAlphaRight * (deltaStart * brightenRatio + brightnessEndOrig)
  let brightenRatio :=
    if fabs deltaStart < float SMALL_VALUE then float 1
    else (offsetBrightnessTmp - brightnessEndOrig) / deltaStart
  if brightenRatio < float 0 then float 0 else brightenRatio

def getDefaultDarkenOffsetBrightenRatio (brightnessStartOrig brightnessEndOrig : F) : F :=
  let brightenRatio := headroomRatio brightnessStartOrig brightnessEndOrig
  if brightenRatio < float 0 then float 0 else brightenRatio

def getDefaultDarkenOffsetDarkenRatio (brightnessStartOrig brightnessEndOrig
    brightnessStartNew deltaStart : F) : F :=
  let darkenRatio :=
    if fabs (brightnessStartOrig - float MIN_DEFAULT_BRIGHTNESS) <
        float SMALL_VALUE then float 1
    else (brightnessEndOrig - float MIN_DEFAULT_BRIGHTNESS) /
      (brightnessStartOrig - float MIN_DEFAULT_BRIGHTNESS)
  let offsetBrightnessTmp :=
    (float 1 - float offsetDarkenAlphaLeft) *
        fmin brightnessEndOrig brightnessStartNew +
      float offsetDarkenAlphaLeft * (deltaStart * darkenRatio + brightnessEndOrig)
  let darkenRatio :=
    if fabs deltaStart < float SMALL_VALUE then float 1
    else (offsetBrightnessTmp - brightnessEndOrig) / deltaStart
  if darkenRatio < float 0 then float 0 else darkenRatio

def getDefaultBrightenOffsetDarkenRatio (brightnessStartOrig brightnessEndOrig : F) : F :=
  if fabs brightnessStartOrig < float SMALL_VALUE then float 1
  else
    let darkenRatioTmp := fpow (brightnessEndOrig / brightnessStartOrig) offsetBrightenRatioLeft
    (float offsetBrightenAlphaLeft) * brightnessEndOrig / brightnessStartOrig +
      (float 1 - float offsetBrightenAlphaLeft) * darkenRatioTmp

/-- The variables of the source hold the ratio under either name: `darkenRatio` for a
brighter default with a positive offset and for a darker one with a negative offset. -/
def getOffsetLevel (brightnessStartOrig brightnessEndOrig brightnessStartNew delta : F) : F :=
  let darkenRatio :=
    if brightnessStartOrig < brightnessEndOrig ∧ delta > float 0 then
      getDefaultBrightenOffsetBrightenRaio brightnessStartOrig brightnessEndOrig
        brightnessStartNew delta
    else if brightnessStartOrig > brightnessEndOrig ∧ delta < float 0 then
      getDefaultDarkenOffsetDarkenRatio brightnessStartOrig brightnessEndOrig
        brightnessStartNew delta
    else float 1
  let brightenRatio :=
    if brightnessStartOrig < brightnessEndOrig ∧ delta < float 0 then
      getDefaultDarkenOffsetBrightenRatio brightnessStartOrig brightnessEndOrig
    else if brightnessStartOrig > brightnessEndOrig ∧ delta > float 0 then
      getDefaultBrightenOffsetDarkenRatio brightnessStartOrig brightnessEndOrig
    else float 1
  let brightnessAndDelta := brightnessEndOrig + delta * brightenRatio * darkenRatio
  let offsetBrightnessTemp :=
    if brightnessAndDelta > float MIN_DEFAULT_BRIGHTNESS then brightnessAndDelta
    else float MIN_DEFAULT_BRIGHTNESS
  if offsetBrightnessTemp < float MAX_DEFAULT_BRIGHTNESS then offsetBrightnessTemp
  else float MAX_DEFAULT_BRIGHTNESS

def getCurrentBrightness (m : BrightnessCalculationManager F) (lux : F) : F :=
  m.curve.getCurrentBrightness lux

def isDefaultBrightnessMode (positionBrightness : F) : Bool :=
  equal positionBrightness (float 0)

def resetDefaultBrightnessOffset (m : BrightnessCalculationManager F) :
    BrightnessCalculationManager F :=
  { m with
    offsetLux := float DEFAULT_NO_OFFSET_LUX
    delta := float 0
    offsetBrightnessLast := float 0
    lastLuxDefaultBrightness := float 0
    startLuxDefaultBrightness := float 0
    posBrightness := float 0 }

/-- The user has put no offset on the curve: no level was chosen, and none was answered since. -/
structure NoOffset (m : BrightnessCalculationManager) : Prop where
  posBrightness : m.posBrightness = 0
  offsetLux : m.offsetLux = -1
  delta : m.delta = 0
  startLuxDefaultBrightness : m.startLuxDefaultBrightness = 0
  lastLuxDefaultBrightness : m.lastLuxDefaultBrightness = 0
  offsetBrightnessLast : m.offsetBrightnessLast = 0

theorem resetDefaultBrightnessOffset_noOffset (m : BrightnessCalculationManager) :
    m.resetDefaultBrightnessOffset.NoOffset :=
  ⟨rfl, rfl, rfl, rfl, rfl, rfl⟩

theorem NoOffset.eq_reset {m : BrightnessCalculationManager} (h : m.NoOffset) :
    m = m.resetDefaultBrightnessOffset := by
  cases m
  cases h
  simp_all [resetDefaultBrightnessOffset, DEFAULT_NO_OFFSET_LUX]

theorem noOffset_iff {m : BrightnessCalculationManager} :
    m.NoOffset ↔ m = m.resetDefaultBrightnessOffset :=
  ⟨NoOffset.eq_reset, fun h => h ▸ m.resetDefaultBrightnessOffset_noOffset⟩

instance (m : BrightnessCalculationManager) : Decidable m.NoOffset :=
  decidable_of_iff _ noOffset_iff.symm

def updateBrightnessOffset (m : BrightnessCalculationManager F) (posBrightness lux : F) :
    BrightnessCalculationManager F :=
  if lux < float AMBIENT_VALID_MIN_LUX || lux > float AMBIENT_VALID_MAX_LUX then m
  else if fabs posBrightness < float SMALL_VALUE then m.resetDefaultBrightnessOffset
  else
    { m with
      offsetLux := lux
      startLuxDefaultBrightness := m.getCurrentBrightness lux
      posBrightness := posBrightness
      delta := posBrightness - m.getCurrentBrightness lux }

def getInterpolatedBrightenssLevel (m : BrightnessCalculationManager F)
    (positionBrightness lux : F) : BrightnessCalculationManager F × F :=
  let m := { m with curveLux := lux, defaultBrightnessFromLux := m.getCurrentBrightness lux }
  let noLightYet :=
    m.lastLuxDefaultBrightness ≤ float 0 && !equal m.posBrightness (float 0)
  let posBrightness := if noLightYet then float 0 else positionBrightness
  let m := if noLightYet then m.resetDefaultBrightnessOffset else m
  let offsetBrightness :=
    if isDefaultBrightnessMode posBrightness then m.defaultBrightnessFromLux
    else getOffsetLevel m.startLuxDefaultBrightness m.defaultBrightnessFromLux posBrightness
      m.delta
  ({ m with
      lastLuxDefaultBrightness := m.defaultBrightnessFromLux
      offsetBrightnessLast := offsetBrightness }, offsetBrightness)

def getInterpolatedValue (m : BrightnessCalculationManager F) (lux : F) :
    BrightnessCalculationManager F × F :=
  let (m, level) := m.getInterpolatedBrightenssLevel m.posBrightness lux
  (m, level / float MAX_DEFAULT_BRIGHTNESS)

end BrightnessCalculationManager

end DisplayPowerMgr
