import DisplayPowerMgr.ScreenController

/-! `DisplayPowerMgrService`: the requests for the state of a display, with the delayed
screen-off that one flag, one handle and one set of request fields serve for every display. -/
namespace DisplayPowerMgr

def DEFALUT_DISPLAY_ID : ℕ := 0
def DELAY_TIME_UNSET : ℕ := 0

/-- The request that submitted a delayed screen-off. The submitted closure captures only the
service, so nothing below reads this back. -/
structure DelayedRequest where
  displayId : ℕ
  displayState : DisplayState
  displayReason : StateChangeReason
  deriving DecidableEq, Repr

structure DisplayPowerMgrService where
  controllerMap : ℕ → Option ScreenController
  mainDisplayId : ℕ
  host : DisplayHost
  displayOffDelayMs : ℕ := 0
  isDisplayDelayOff : Bool := false
  displayId : ℕ := 0
  displayState : DisplayState := .unknown
  displayReason : StateChangeReason := .other 0
  screenOffDelayTaskHandle : Option ℕ := none
  screenOffDelayTasks : Tasks DelayedRequest := .empty

namespace DisplayPowerMgrService

/-- Id 0 falls back to the main display, whose own id may differ. -/
def findController (s : DisplayPowerMgrService) (id : ℕ) : Option (ℕ × ScreenController) :=
  match s.controllerMap id with
  | some c => some (id, c)
  | none =>
    if id ≠ DEFALUT_DISPLAY_ID then none
    else (s.controllerMap s.mainDisplayId).map fun c => (s.mainDisplayId, c)

def setController (s : DisplayPowerMgrService) (id : ℕ) (c : ScreenController) :
    DisplayPowerMgrService :=
  { s with controllerMap := Function.update s.controllerMap id (some c) }

def setBrightnessState (s : DisplayPowerMgrService) (state : DisplayState) :
    DisplayPowerMgrService :=
  { s with host := { s.host with brightness := s.host.brightness.setDisplayState state } }

def updateState (s : DisplayPowerMgrService) (id : ℕ) (c : ScreenController)
    (state : DisplayState) (reason : StateChangeReason) (hw : HwAnswer) :
    DisplayPowerMgrService × Bool :=
  let (c, host, ret) := c.updateState s.host state reason hw
  ({ s with host := host }.setController id c, ret)

def undoSetDisplayStateInner (s : DisplayPowerMgrService) (curState : DisplayState) :
    DisplayPowerMgrService :=
  let s := s.setBrightnessState curState
  if curState = .on ∨ curState = .dim then { s with host := s.host.setScreenOnBrightness } else s

def screenOffImmediately (s : DisplayPowerMgrService) (id : ℕ) (c : ScreenController)
    (state : DisplayState) (reason : StateChangeReason) (hw : HwAnswer) :
    DisplayPowerMgrService × Bool :=
  let (s, ret) := s.updateState id c state reason hw
  (if ret then s else s.undoSetDisplayStateInner c.state, ret)

/-- The handle of a delayed screen-off submitted before is overwritten. -/
def submitScreenOff (s : DisplayPowerMgrService) (id : ℕ) (c : ScreenController)
    (state : DisplayState) (reason : StateChangeReason) : DisplayPowerMgrService :=
  { s with
    displayId := id
    displayState := state
    displayReason := reason
    screenOffDelayTasks := s.screenOffDelayTasks.submit ⟨id, state, reason⟩
    screenOffDelayTaskHandle := some s.screenOffDelayTasks.next }.setController id
      c.setDelayOffState

/-- `CancelTask`: a handle that is null or whose task is gone cancels nothing. -/
def cancelTask (tasks : Tasks DelayedRequest) : Option ℕ → Tasks DelayedRequest
  | none => tasks
  | some handle => tasks.remove handle

def cancelScreenOff (s : DisplayPowerMgrService) (id : ℕ) (c : ScreenController) :
    DisplayPowerMgrService :=
  { s with
    screenOffDelayTasks := cancelTask s.screenOffDelayTasks s.screenOffDelayTaskHandle
    isDisplayDelayOff := false }.setController id c.setOnState

/-- What `SetDisplayStateInner` does after it told the brightness service. -/
def changeDisplayState (s : DisplayPowerMgrService) (id : ℕ) (c : ScreenController)
    (state : DisplayState) (reason : StateChangeReason) (hw : HwAnswer) :
    DisplayPowerMgrService × Bool :=
  if state = .off ∨ state = .doze then
    if !s.isDisplayDelayOff then s.screenOffImmediately id c state reason hw
    else (s.submitScreenOff id c state reason, true)
  else if state = .on ∧ s.isDisplayDelayOff then (s.cancelScreenOff id c, true)
  else s.updateState id c state reason hw

def setDisplayStateInner (s : DisplayPowerMgrService) (isSystem : Bool) (id : ℕ)
    (state : DisplayState) (reason : StateChangeReason) (hw : HwAnswer) :
    DisplayPowerMgrService × Bool :=
  if !isSystem then (s, false)
  else
    match s.findController id with
    | none => (s, false)
    | some (id, c) => (s.setBrightnessState state).changeDisplayState id c state reason hw

/-- `ScreenOffDelay` with the arguments that its task reads from the service as it runs. -/
def screenOffDelay (s : DisplayPowerMgrService) (id : ℕ) (state : DisplayState)
    (reason : StateChangeReason) (hw : HwAnswer) : DisplayPowerMgrService :=
  let s := { s with isDisplayDelayOff := false }
  match s.controllerMap id with
  | none => s
  | some c => (s.updateState id c state reason hw).1

def getDisplayStateInner (s : DisplayPowerMgrService) (id : ℕ) : DisplayState :=
  match s.findController id with
  | none => .unknown
  | some (_, c) => c.state

def overrideDisplayOffDelayInner (s : DisplayPowerMgrService) (isSystem : Bool) (delayMs : ℕ) :
    DisplayPowerMgrService × Bool :=
  if !isSystem then (s, false)
  else if s.getDisplayStateInner s.mainDisplayId ≠ .on ∨ delayMs = DELAY_TIME_UNSET then
    ({ s with isDisplayDelayOff := false }, false)
  else ({ s with isDisplayDelayOff := true, displayOffDelayMs := delayMs }, true)

def runScreenOffDelay (s : DisplayPowerMgrService) (task : ℕ) (hw : HwAnswer) :
    Option DisplayPowerMgrService :=
  (s.screenOffDelayTasks.find? task).map fun _ =>
    { s with screenOffDelayTasks := s.screenOffDelayTasks.remove task }.screenOffDelay s.displayId
      s.displayState s.displayReason hw

def updateScreenPowerState (s : DisplayPowerMgrService) (isSystem isScreenOn : Bool) :
    DisplayPowerMgrService :=
  if !isSystem then s
  else
    match s.findController DEFALUT_DISPLAY_ID with
    | none => s
    | some (id, c) => s.setController id (c.updateCachedState (if isScreenOn then .on else .off))

end DisplayPowerMgrService

end DisplayPowerMgr
