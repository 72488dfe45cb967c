import DisplayPowerMgr.AdjustBrightness
import DisplayPowerMgr.CapTestMode
import DisplayPowerMgr.DisplayPowerRuns
import DisplayPowerMgr.Library.Refinement

/-! The requests that `DisplayPowerMgrService` takes, with the checks of each, and the two ways to
the panel behind them: the brightness service, and the controller that some requests turn to when
the brightness service refuses. -/
namespace DisplayPowerMgr

def DisplayBrightness.restoreBrightness (s : DisplayBrightness) (id : ℕ) (c : ScreenController)
    (gradualDuration : ℕ) : DisplayBrightness × Bool :=
  if !(s.screens id).isBrightnessOverridden then (s, false)
  else
    (s.setScreen id { s.screens id with isBrightnessOverridden := false }).updateBrightness id c
      (s.screens id).cachedSettingBrightness gradualDuration true

/-- The cancel of a controller. No request starts a boost there, so no timer is left to cancel. -/
def DisplayBrightness.cancelBoostBrightness (s : DisplayBrightness) (id : ℕ) (c : ScreenController)
    (gradualDuration : ℕ) : DisplayBrightness × Bool :=
  if !(s.screens id).isBrightnessBoosted then (s, false)
  else
    (s.setScreen id { s.screens id with isBrightnessBoosted := false }).updateBrightness id c
      (s.screens id).cachedSettingBrightness gradualDuration true

/-- The display that belongs to the mode of a fold, or the default one. -/
def BrightnessService.getCurrentDisplayId (bs : BrightnessService) (defaultId : ℕ) : ℕ :=
  if !bs.isFoldable then defaultId
  else bs.calculationManager.curve.getDisplayIdWithDisplayMode bs.foldDisplayMode

inductive DisplayRequest where
  | setDisplayState (id : ℕ) (state : DisplayState) (reason : StateChangeReason) (hw : HwAnswer)
  | setScreenDisplayState (state : DisplayState) (isSet : Bool)
  | overrideDisplayOffDelay (delayMs : ℕ)
  | updateScreenPowerState (isScreenOn : Bool)
  | setScreenOnBrightness
  | setBrightness (value displayId : ℕ) (continuous : Bool)
  | discountBrightness (discount : ℚ) (displayId : ℕ)
  | overrideBrightness (brightness displayId duration : ℕ)
  | restoreBrightness (displayId duration : ℕ)
  | adjustBrightness (id : ℕ) (value : ℤ) (duration : ℕ)
  | autoAdjustBrightness (enable : Bool)
  | boostBrightness (timeoutMs : ℤ) (displayId : ℕ)
  | cancelBoostBrightness (displayId : ℕ)
  | setMaxBrightness (value : ℚ) (mode : ℕ)
  | setMaxBrightnessNit (maxNit mode : ℕ)
  deriving DecidableEq, Repr

/-- The service with the brightness of its controllers. The timers of the automatic mode have a
model of their own; what they ask of the brightness service comes from outside here. -/
structure DisplayManager where
  display : DisplayBrightness
  isInTestMode : Bool := false
  isBooted : Bool := false
  lastError : DisplayErrors := .ok

namespace DisplayManager

def service (m : DisplayManager) : DisplayPowerMgrService := m.display.service

def brightness (m : DisplayManager) : BrightnessService := m.display.brightness

def withService (m : DisplayManager) (service : DisplayPowerMgrService) : DisplayManager :=
  { m with display := { m.display with service := service } }

def withBrightness (m : DisplayManager) (brightness : BrightnessService) : DisplayManager :=
  { m with display := m.display.withBrightness brightness }

def hasDisplay (m : DisplayManager) (displayId : ℕ) : Bool :=
  (m.service.controllerMap displayId).isSome

def note (m : DisplayManager) (error : DisplayErrors) : DisplayManager :=
  { m with lastError := error }

def getError (m : DisplayManager) : DisplayManager × DisplayErrors := (m.note .ok, m.lastError)

/-- What several requests do: check the caller, the argument and the display, then ask the
brightness service. -/
def forward (m : DisplayManager) (isSystem isValid : Bool) (displayId : ℕ)
    (f : BrightnessService → BrightnessService × Bool) : DisplayManager × Bool :=
  if !isSystem then (m, false)
  else if !isValid then (m, false)
  else if !m.hasDisplay displayId then (m, false)
  else
    let (brightness, ret) := f m.brightness
    (m.withBrightness brightness, ret)

def isValidDuration (duration : ℕ) : Bool := duration ≤ 60 * 1000

/-- A refused request goes on to the controller of the display. -/
def orController (m : DisplayManager × Bool) (displayId : ℕ)
    (f : DisplayBrightness → ScreenController → DisplayBrightness × Bool) : DisplayManager × Bool :=
  if m.2 then m
  else
    match m.1.service.controllerMap displayId with
    | none => m
    | some c =>
      let (display, ret) := f m.1.display c
      ({ m.1 with display := display }, ret)

def setBrightnessInner (m : DisplayManager) (isSystem : Bool) (value : ℕ) (continuous : Bool) :
    DisplayManager × Bool :=
  if !isSystem then (m.note .systemApiDenied, false)
  else
    let brightness := m.display.getSafeBrightness value
    let (brightness, ret) := m.brightness.setBrightness brightness 0 continuous
    (m.withBrightness brightness, ret)

def discountBrightnessInner (m : DisplayManager) (isSystem : Bool) (discount : ℚ)
    (displayId : ℕ) : DisplayManager × Bool :=
  m.forward isSystem (!ServiceRequest.isOutRange discount 0 1) displayId fun bs =>
    bs.discountBrightness discount 0

def overrideBrightnessInner (m : DisplayManager) (isSystem : Bool)
    (brightness displayId duration : ℕ) : DisplayManager × Bool :=
  m.forward isSystem (isValidDuration duration) displayId fun bs =>
    bs.overrideBrightness brightness duration

def restoreBrightnessInner (m : DisplayManager) (isSystem : Bool) (displayId duration : ℕ) :
    DisplayManager × Bool :=
  let asked := m.forward isSystem (isValidDuration duration) displayId fun bs =>
    bs.restoreBrightness duration
  if !isSystem || !isValidDuration duration then asked
  else orController asked displayId fun s c => s.restoreBrightness displayId c 0

def boostBrightnessInner (m : DisplayManager) (isSystem : Bool) (timeoutMs : ℤ) (displayId : ℕ) :
    DisplayManager × Bool :=
  m.forward isSystem (0 < timeoutMs) displayId fun bs => bs.boostBrightness 0

def cancelBoostBrightnessInner (m : DisplayManager) (isSystem : Bool) (displayId : ℕ) :
    DisplayManager × Bool :=
  let asked := m.forward isSystem true displayId fun bs => bs.cancelBoostBrightness 0
  if !isSystem then asked
  else orController asked displayId fun s c => s.cancelBoostBrightness displayId c 0

def adjustBrightnessInner (m : DisplayManager) (isSystem : Bool) (id : ℕ) (value : ℤ)
    (duration : ℕ) : DisplayManager × Bool :=
  let (display, ret) := m.display.adjustBrightnessInner isSystem id value duration
  ({ m with display := display }, ret)

def autoAdjustBrightnessInner (m : DisplayManager) (isSystem enable : Bool) :
    DisplayManager × Bool :=
  if !isSystem then (m, false)
  else
    let (brightness, ret) := m.brightness.autoAdjustBrightness enable
    (m.withBrightness brightness, ret)

def setScreenOnBrightnessInner (m : DisplayManager) (isSystem : Bool) : DisplayManager × Bool :=
  if !isSystem then (m, false)
  else (m.withBrightness m.brightness.setScreenOnBrightness, true)

/-- `isSet` is what the display manager answers to the power of the screen. -/
def setScreenDisplayState (m : DisplayManager) (isSystem : Bool) (state : DisplayState)
    (isSet : Bool) : DisplayManager × Bool :=
  if !isSystem then (m, false)
  else if state ≠ .on ∧ state ≠ .off then (m, false)
  else if !isSet then (m, false)
  else if state = .on then (m.withBrightness m.brightness.setScreenOnBrightness, true)
  else (m, true)

def setDisplayStateInner (m : DisplayManager) (isSystem : Bool) (id : ℕ) (state : DisplayState)
    (reason : StateChangeReason) (hw : HwAnswer) : DisplayManager × Bool :=
  let (service, ret) := m.service.setDisplayStateInner isSystem id state reason hw
  (m.withService service, ret)

def overrideDisplayOffDelayInner (m : DisplayManager) (isSystem : Bool) (delayMs : ℕ) :
    DisplayManager × Bool :=
  let (service, ret) := m.service.overrideDisplayOffDelayInner isSystem delayMs
  (m.withService service, ret)

def updateScreenPowerState (m : DisplayManager) (isSystem isScreenOn : Bool) :
    DisplayManager × Bool :=
  (m.withService (m.service.updateScreenPowerState isSystem isScreenOn),
    isSystem && (m.service.findController DEFALUT_DISPLAY_ID).isSome)

def capService (m : DisplayManager) : CapService := ⟨m.isInTestMode, m.brightness⟩

def withCapService (m : DisplayManager) (s : CapService) : DisplayManager :=
  { m.withBrightness s.brightness with isInTestMode := s.isInTestMode }

def setMaxBrightnessInner (m : DisplayManager) (isSystem : Bool) (value : ℚ) (mode : ℕ) :
    DisplayManager × Bool :=
  let (s, ret) := m.capService.setMaxBrightnessInner isSystem value mode
  ((if isSystem then m else m.note .systemApiDenied).withCapService s, ret)

def setMaxBrightnessNitInner (m : DisplayManager) (isSystem : Bool) (maxNit mode : ℕ) :
    DisplayManager × Bool :=
  let (s, ret) := m.capService.setMaxBrightnessNitInner isSystem maxNit mode
  ((if isSystem then m else m.note .systemApiDenied).withCapService s, ret)

def request (m : DisplayManager) (isSystem : Bool) : DisplayRequest → DisplayManager × Bool
  | .setDisplayState id state reason hw => m.setDisplayStateInner isSystem id state reason hw
  | .setScreenDisplayState state isSet => m.setScreenDisplayState isSystem state isSet
  | .overrideDisplayOffDelay delayMs => m.overrideDisplayOffDelayInner isSystem delayMs
  | .updateScreenPowerState isScreenOn => m.updateScreenPowerState isSystem isScreenOn
  | .setScreenOnBrightness => m.setScreenOnBrightnessInner isSystem
  | .setBrightness value _ continuous => m.setBrightnessInner isSystem value continuous
  | .discountBrightness discount displayId => m.discountBrightnessInner isSystem discount displayId
  | .overrideBrightness brightness displayId duration =>
    m.overrideBrightnessInner isSystem brightness displayId duration
  | .restoreBrightness displayId duration => m.restoreBrightnessInner isSystem displayId duration
  | .adjustBrightness id value duration => m.adjustBrightnessInner isSystem id value duration
  | .autoAdjustBrightness enable => m.autoAdjustBrightnessInner isSystem enable
  | .boostBrightness timeoutMs displayId => m.boostBrightnessInner isSystem timeoutMs displayId
  | .cancelBoostBrightness displayId => m.cancelBoostBrightnessInner isSystem displayId
  | .setMaxBrightness value mode => m.setMaxBrightnessInner isSystem value mode
  | .setMaxBrightnessNit maxNit mode => m.setMaxBrightnessNitInner isSystem maxNit mode

/-- A main display without a controller has no brightness. -/
def getBrightnessInner (m : DisplayManager) (displayId : ℕ) : ℕ :=
  if m.hasDisplay displayId then m.brightness.getSettingBrightness else 0

def setBootCompletedBrightness (m : DisplayManager) : DisplayManager :=
  let mainDisplayId := m.service.mainDisplayId
  let brightness := m.getBrightnessInner mainDisplayId
  let currentDisplayId := m.brightness.getCurrentDisplayId mainDisplayId
  let state := m.service.getDisplayStateInner mainDisplayId
  let m := m.withBrightness (m.brightness.setDisplayId currentDisplayId)
  let m := m.withBrightness (m.brightness.setDisplayState state)
  (m.setBrightnessInner true brightness false).1

/-- `HandleBootBrightness`, of which `call_once` runs the brightness once. -/
def handleBootBrightness (m : DisplayManager) : DisplayManager :=
  if m.isBooted then m else { m.setBootCompletedBrightness with isBooted := true }

end DisplayManager

/-- Requests, the error that is cleared when a call that reports has read it, tasks that run, the
light and the fold, and the boot. -/
inductive ManagerEvent where
  | request (isSystem : Bool) (r : DisplayRequest)
  | getError
  | screenOffDelay (task : ℕ) (hw : HwAnswer)
  | settingTask (task : ℕ)
  | animatorTask (task : ℕ)
  | brightness (e : BrightnessEvent)
  | handleBootBrightness
  deriving DecidableEq, Repr

/-- What reaches the brightness service from elsewhere: light, folds, the timers of the automatic
mode and its own tasks. -/
def BrightnessEvent.isFromOutside : BrightnessEvent → Bool
  | .processLightLux _ _ => true
  | .autoAdjustBrightness _ => true
  | .clearOffset => true
  | .onFoldStatusChanged _ => true
  | .foldDisplayModeChanged _ => true
  | .runTask _ => true
  | _ => false

namespace DisplayManager

def step (m : DisplayManager) : ManagerEvent → Option DisplayManager
  | .request isSystem r => some (m.request isSystem r).1
  | .getError => some m.getError.1
  | .screenOffDelay task hw => (m.service.runScreenOffDelay task hw).map m.withService
  | .settingTask task =>
    (m.display.runSettingTask task).map fun display => { m with display := display }
  | .animatorTask task =>
    (m.display.runAnimatorTask task).map fun display => { m with display := display }
  | .brightness e =>
    if e.isFromOutside then (m.brightness.step e).map m.withBrightness else none
  | .handleBootBrightness => some m.handleBootBrightness

def start (boot : DisplayBoot) : DisplayManager := { display := { service := boot.start } }

end DisplayManager

end DisplayPowerMgr
