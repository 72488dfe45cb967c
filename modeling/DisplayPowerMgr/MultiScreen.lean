import DisplayPowerMgr.ScreenController

/-! The requests for one of several screens. Each 64-bit display id has a controller of its own,
made when it is first asked for, whose commands carry the lower half of the id; the brightness
layer has an extension for each screen, or is the one `BrightnessService`. -/
namespace DisplayPowerMgr

inductive DisplayErrors where
  | ok | permissionDenied | systemApiDenied | paramInvalid | connectionFail | stateChangeFailed
  | registrationFailed
  deriving DecidableEq, Repr

structure Caller where
  isSystem : Bool := true
  isNativePermissionGranted : Bool := true
  deriving DecidableEq, Repr

/-- `Rosen::DisplayState`, as far as a display state is mapped to it. -/
inductive RosenDisplayState where
  | on | off | doze | dozeSuspend | unknown
  deriving DecidableEq, Repr

/-- `Rosen::ScreenPowerState`, as far as a display state is mapped to it. -/
inductive ScreenPowerState where
  | powerOn | powerStandBy | powerSuspend | powerOff | powerDoze | powerDozeSuspend | invalidState
  deriving DecidableEq, Repr

namespace ScreenAction

def parseDisplayState : DisplayState → RosenDisplayState
  | .on => .on
  | .off => .off
  | .doze => .doze
  | .dozeSuspend => .dozeSuspend
  | _ => .unknown

def parseScreenPowerState : DisplayState → ScreenPowerState
  | .on => .powerOn
  | .dim => .powerStandBy
  | .suspend => .powerSuspend
  | .off => .powerOff
  | .doze => .powerDoze
  | .dozeSuspend => .powerDozeSuspend
  | _ => .invalidState

theorem parseDisplayState_on_iff {state : DisplayState} :
    parseDisplayState state = .on ↔ state = .on := by
  cases state <;> simp [parseDisplayState]

theorem parseDisplayState_off_iff {state : DisplayState} :
    parseDisplayState state = .off ↔ state = .off := by
  cases state <;> simp [parseDisplayState]

theorem parseScreenPowerState_injOn {state state' : DisplayState} (h : state = .on ∨ state = .off)
    (heq : parseScreenPowerState state' = parseScreenPowerState state) : state' = state := by
  rcases h with rfl | rfl
  · cases state' <;> simp [parseScreenPowerState] at heq ⊢
  · cases state' <;> simp [parseScreenPowerState] at heq ⊢

theorem parseDisplayState_injOn {state state' : DisplayState} (h : state = .on ∨ state = .off)
    (heq : parseDisplayState state' = parseDisplayState state) : state' = state := by
  rcases h with rfl | rfl
  · exact parseDisplayState_on_iff.mp heq
  · exact parseDisplayState_off_iff.mp heq

end ScreenAction

/-- What an action asks of the display manager or the screen manager for one display. -/
inductive ScreenCommand where
  | wakeUpBegin (reason : StateChangeReason)
  | suspendBegin (reason : StateChangeReason)
  | setDisplayState (state : RosenDisplayState)
  | setScreenPower (status : ScreenPowerState) (reason : StateChangeReason)
  | wakeUpEnd
  | suspendEnd
  deriving DecidableEq, Repr

/-- The two managers: the commands issued so far, and what each display took last. -/
structure ScreenManager where
  commands : List (ℕ × ScreenCommand) := []
  displayState : ℕ → RosenDisplayState := fun _ => .unknown
  screenPower : ℕ → ScreenPowerState := fun _ => .invalidState

def ScreenManager.issue (m : ScreenManager) (displayId : ℕ) (command : ScreenCommand)
    (answer : Bool) : ScreenManager where
  commands := m.commands ++ [(displayId, command)]
  displayState :=
    match command with
    | .setDisplayState state =>
      if answer then Function.update m.displayState displayId state else m.displayState
    | _ => m.displayState
  screenPower :=
    match command with
    | .setScreenPower status _ =>
      if answer then Function.update m.screenPower displayId status else m.screenPower
    | _ => m.screenPower

/-- What the managers answer to the four commands of one change. -/
structure MultiScreenAnswer where
  begins : Bool := true
  setDisplayState : Bool := true
  setScreenPower : Bool := true
  ends : Bool := true
  deriving DecidableEq, Repr

def MultiScreenAnswer.Succeeds (hw : MultiScreenAnswer) : Prop :=
  hw.setDisplayState = true ∧ hw.setScreenPower = true

instance (hw : MultiScreenAnswer) : Decidable hw.Succeeds := inferInstanceAs (Decidable (_ ∧ _))

/-- The four commands of a change, each issued whatever the ones before it were answered. -/
def ScreenManager.command (m : ScreenManager) (displayId : ℕ) (state : DisplayState)
    (reason : StateChangeReason) (hw : MultiScreenAnswer) : ScreenManager :=
  (((m.issue displayId (if state = .on then .wakeUpBegin reason else .suspendBegin reason)
    hw.begins).issue displayId (.setDisplayState (ScreenAction.parseDisplayState state))
    hw.setDisplayState).issue displayId
    (.setScreenPower (ScreenAction.parseScreenPowerState state) reason) hw.setScreenPower).issue
    displayId (if state = .on then .wakeUpEnd else .suspendEnd) hw.ends

namespace ScreenManager
variable (m : ScreenManager) (displayId : ℕ) (state : DisplayState) (reason : StateChangeReason)
  (hw : MultiScreenAnswer)

theorem command_commands : ∃ first last : ScreenCommand,
    (m.command displayId state reason hw).commands = m.commands ++ [(displayId, first),
      (displayId, .setDisplayState (ScreenAction.parseDisplayState state)),
      (displayId, .setScreenPower (ScreenAction.parseScreenPowerState state) reason),
      (displayId, last)] := by
  refine ⟨if state = .on then .wakeUpBegin reason else .suspendBegin reason,
    if state = .on then .wakeUpEnd else .suspendEnd, ?_⟩
  simp [command, issue]

theorem command_displayState : (m.command displayId state reason hw).displayState =
    if hw.setDisplayState then
      Function.update m.displayState displayId (ScreenAction.parseDisplayState state)
    else m.displayState := by
  by_cases hon : state = .on
  · simp [command, issue, hon]
  · simp [command, issue, hon]

theorem command_screenPower : (m.command displayId state reason hw).screenPower =
    if hw.setScreenPower then
      Function.update m.screenPower displayId (ScreenAction.parseScreenPowerState state)
    else m.screenPower := by
  by_cases hon : state = .on
  · simp [command, issue, hon]
  · simp [command, issue, hon]

end ScreenManager

inductive ExtCall where
  | setDisplayState (id : ℕ) (state : DisplayState) (reason : StateChangeReason)
  | setScreenOnBrightness
  deriving DecidableEq, Repr

/-- The extension library loaded for one screen, with the calls that reached it. -/
structure BrightnessManagerExt where
  mBrightnessManagerExtEnable : Bool := true
  calls : List ExtCall := []
  deriving DecidableEq, Repr

def BrightnessManagerExt.forward (ext : BrightnessManagerExt) (call : ExtCall) :
    BrightnessManagerExt :=
  if ext.mBrightnessManagerExtEnable then { ext with calls := ext.calls ++ [call] } else ext

/-- The two builds: without the extension every id stands for the one service. -/
inductive BrightnessManager where
  | service (brightnessService : BrightnessService)
  | wrapper (mMultiBrtMgrExt : ℕ → Option BrightnessManagerExt)

namespace BrightnessManager

def forward (exts : ℕ → Option BrightnessManagerExt) (id : ℕ) (call : ExtCall) :
    ℕ → Option BrightnessManagerExt :=
  Function.update exts id ((exts id).map fun ext => ext.forward call)

def setDisplayState (m : BrightnessManager) (id : ℕ) (state : DisplayState)
    (reason : StateChangeReason) : BrightnessManager :=
  match m with
  | .service bs => .service (bs.setDisplayState state)
  | .wrapper exts => .wrapper (forward exts id (.setDisplayState id state reason))

def setScreenOnBrightness (m : BrightnessManager) (id : ℕ) : BrightnessManager :=
  match m with
  | .service bs => .service bs.setScreenOnBrightness
  | .wrapper exts => .wrapper (forward exts id .setScreenOnBrightness)

end BrightnessManager

/-- The controller of an id knows its display by a `uint32_t`. -/
structure StoredController (id : ℕ) where
  controller : ScreenController
  displayId_eq : controller.displayId = id % 2 ^ 32

/-- The constructor in the multi-screen build, which does not ask for the state of the display. -/
def StoredController.create (id : ℕ) : StoredController id where
  controller := { displayId := id % 2 ^ 32 }
  displayId_eq := rfl

structure MultiScreenChange where
  displayId : ℕ
  screenName : String
  state : DisplayState
  reason : StateChangeReason
  deriving DecidableEq, Repr

structure MultiScreenRequest where
  caller : Caller := {}
  displayId : ℕ
  screenName : String := ""
  state : DisplayState
  reason : StateChangeReason := .other 0
  deriving DecidableEq, Repr

def MultiScreenRequest.change (r : MultiScreenRequest) : MultiScreenChange :=
  ⟨r.displayId, r.screenName, r.state, r.reason⟩

/-- `DisplayPowerMgrService`, as far as the requests for one of several screens go. -/
structure MultiScreenService where
  controllerMap : (id : ℕ) → Option (StoredController id) := fun _ => none
  screens : ScreenManager := {}
  brightness : BrightnessManager
  notified : List MultiScreenChange := []
  published : List MultiScreenChange := []

namespace MultiScreenService

def MAX_SCREEN_NAME_LENGTH : ℕ := 100

/-- The checks that all multi-screen requests start with. -/
def checkPermission (caller : Caller) : DisplayErrors :=
  if !caller.isSystem then .systemApiDenied
  else if !caller.isNativePermissionGranted then .permissionDenied
  else .ok

/-- The checks of a request to change a screen; the length of a `std::string` is in bytes. -/
def checkRequest (r : MultiScreenRequest) : DisplayErrors :=
  if checkPermission r.caller ≠ .ok then checkPermission r.caller
  else if r.state ≠ .on ∧ r.state ≠ .off then .paramInvalid
  else if r.screenName.utf8ByteSize > MAX_SCREEN_NAME_LENGTH then .paramInvalid
  else .ok

def controllerOf (s : MultiScreenService) (id : ℕ) : StoredController id :=
  (s.controllerMap id).getD (.create id)

def setController (s : MultiScreenService) (id : ℕ) (c : StoredController id) :
    MultiScreenService :=
  { s with controllerMap := Function.update s.controllerMap id (some c) }

/-- The look-up itself, which makes a missing controller. -/
def findController (s : MultiScreenService) (id : ℕ) : MultiScreenService :=
  s.setController id (s.controllerOf id)

def getState (s : MultiScreenService) (id : ℕ) : DisplayState :=
  (s.controllerOf id).controller.state

def getDisplayId (s : MultiScreenService) (id : ℕ) : ℕ := (s.controllerOf id).controller.displayId

def issue (s : MultiScreenService) (displayId : ℕ) (command : ScreenCommand) (answer : Bool) :
    MultiScreenService :=
  { s with screens := s.screens.issue displayId command answer }

def setBrightnessState (s : MultiScreenService) (displayId : ℕ) (state : DisplayState)
    (reason : StateChangeReason) : MultiScreenService :=
  { s with brightness := s.brightness.setDisplayState displayId state reason }

def setScreenOnBrightness (s : MultiScreenService) (displayId : ℕ) : MultiScreenService :=
  { s with brightness := s.brightness.setScreenOnBrightness displayId }

def multiScreenBegin (s : MultiScreenService) (displayId : ℕ) (state : DisplayState)
    (reason : StateChangeReason) (answer : Bool) : MultiScreenService :=
  s.issue displayId (if state = .on then .wakeUpBegin reason else .suspendBegin reason) answer

def multiScreenSetDisplayState (s : MultiScreenService) (displayId : ℕ) (state : DisplayState)
    (answer : Bool) : MultiScreenService :=
  s.issue displayId (.setDisplayState (ScreenAction.parseDisplayState state)) answer

def multiScreenSetScreenPower (s : MultiScreenService) (displayId : ℕ) (state : DisplayState)
    (reason : StateChangeReason) (answer : Bool) : MultiScreenService :=
  s.issue displayId (.setScreenPower (ScreenAction.parseScreenPowerState state) reason) answer

def multiScreenEnd (s : MultiScreenService) (displayId : ℕ) (state : DisplayState)
    (answer : Bool) : MultiScreenService :=
  s.issue displayId (if state = .on then .wakeUpEnd else .suspendEnd) answer

def lightScreen (s : MultiScreenService) (displayId : ℕ) (state : DisplayState) :
    MultiScreenService :=
  if state = .on then s.setScreenOnBrightness displayId else s

def cacheState (s : MultiScreenService) (id : ℕ) (state : DisplayState)
    (reason : StateChangeReason) : MultiScreenService :=
  s.setController id
    { controller :=
        { (s.controllerOf id).controller with state := state, stateChangeReason := reason }
      displayId_eq := (s.controllerOf id).displayId_eq }

def notify (s : MultiScreenService) (change : MultiScreenChange) : MultiScreenService :=
  { s with notified := s.notified ++ [change] }

def publishCommonEvent (s : MultiScreenService) (change : MultiScreenChange) :
    MultiScreenService :=
  { s with published := s.published ++ [change] }

def notifyMultiScreenStateChanged (s : MultiScreenService) (change : MultiScreenChange) :
    MultiScreenService :=
  (s.notify change).publishCommonEvent change

/-- The four commands of a change, each issued whatever the ones before it were answered. -/
def command (s : MultiScreenService) (displayId : ℕ) (state : DisplayState)
    (reason : StateChangeReason) (hw : MultiScreenAnswer) : MultiScreenService :=
  let s := s.multiScreenBegin displayId state reason hw.begins
  let s := s.multiScreenSetDisplayState displayId state hw.setDisplayState
  let s := s.multiScreenSetScreenPower displayId state reason hw.setScreenPower
  s.multiScreenEnd displayId state hw.ends

def updateMultiScreenState (s : MultiScreenService) (id : ℕ) (state : DisplayState)
    (reason : StateChangeReason) (hw : MultiScreenAnswer) : MultiScreenService × Bool :=
  let displayId := s.getDisplayId id
  let s := s.command displayId state reason hw
  if !hw.setDisplayState || !hw.setScreenPower then (s, false)
  else ((s.lightScreen displayId state).cacheState id state reason, true)

/-- The last line lights the default display, whichever one the change was about. -/
def undoSetDisplayStateInner (s : MultiScreenService) (displayId : ℕ) (curState : DisplayState)
    (reason : StateChangeReason) : MultiScreenService :=
  let s := s.setBrightnessState displayId curState reason
  if curState = .on ∨ curState = .dim then s.setScreenOnBrightness 0 else s

def setMultiScreenDisplayStateInner (s : MultiScreenService) (r : MultiScreenRequest)
    (hw : MultiScreenAnswer) : MultiScreenService × DisplayErrors :=
  if checkRequest r ≠ .ok then (s, checkRequest r)
  else
    let s := s.findController r.displayId
    if s.getState r.displayId = r.state then (s, .ok)
    else
      let s := s.setBrightnessState (r.displayId % 2 ^ 32) r.state r.reason
      match s.updateMultiScreenState r.displayId r.state r.reason hw with
      | (s, false) =>
        (s.undoSetDisplayStateInner (r.displayId % 2 ^ 32) (s.getState r.displayId) r.reason,
          .stateChangeFailed)
      | (s, true) => (s.notifyMultiScreenStateChanged r.change, .ok)

/-- A refused caller is told that the state is unknown. -/
def getMultiScreenDisplayStateInner (s : MultiScreenService) (caller : Caller) (id : ℕ) :
    MultiScreenService × DisplayErrors × DisplayState :=
  if checkPermission caller ≠ .ok then (s, checkPermission caller, .unknown)
  else (s.findController id, .ok, (s.findController id).getState id)

theorem checkRequest_state {r : MultiScreenRequest} (h : checkRequest r = .ok) :
    r.state = .on ∨ r.state = .off := by
  by_contra hstate
  obtain ⟨hon, hoff⟩ := not_or.mp hstate
  rw [checkRequest] at h
  split at h
  · exact absurd h ‹_›
  · rw [if_pos ⟨hon, hoff⟩] at h
    cases h

@[simp] theorem setController_self (s : MultiScreenService) (id : ℕ) (c : StoredController id) :
    (s.setController id c).controllerOf id = c := by
  simp [setController, controllerOf]

@[simp] theorem setController_other {s : MultiScreenService} {id id' : ℕ}
    {c : StoredController id} (h : id' ≠ id) :
    (s.setController id c).controllerOf id' = s.controllerOf id' := by
  simp [setController, controllerOf, h]

@[simp] theorem findController_controllerOf (s : MultiScreenService) (id id' : ℕ) :
    (s.findController id).controllerOf id' = s.controllerOf id' := by
  by_cases h : id' = id
  · subst h
    exact setController_self _ _ _
  · exact setController_other h

@[simp] theorem getDisplayId_eq (s : MultiScreenService) (id : ℕ) :
    s.getDisplayId id = id % 2 ^ 32 := (s.controllerOf id).displayId_eq

@[simp] theorem getState_findController (s : MultiScreenService) (id id' : ℕ) :
    (s.findController id).getState id' = s.getState id' := by
  rw [getState, findController_controllerOf]
  rfl

@[simp] theorem getState_cacheState_self (s : MultiScreenService) (id : ℕ) (state : DisplayState)
    (reason : StateChangeReason) : (s.cacheState id state reason).getState id = state := by
  rw [getState, cacheState, setController_self]

@[simp] theorem getState_cacheState_other {s : MultiScreenService} {id id' : ℕ}
    {state : DisplayState} {reason : StateChangeReason} (h : id' ≠ id) :
    (s.cacheState id state reason).getState id' = s.getState id' := by
  rw [getState, cacheState, setController_other h]
  rfl

theorem lightScreen_controllerMap (s : MultiScreenService) (displayId : ℕ)
    (state : DisplayState) : (s.lightScreen displayId state).controllerMap = s.controllerMap := by
  rw [lightScreen]
  split
  · rfl
  · rfl

theorem undoSetDisplayStateInner_controllerMap (s : MultiScreenService) (displayId : ℕ)
    (curState : DisplayState) (reason : StateChangeReason) :
    (s.undoSetDisplayStateInner displayId curState reason).controllerMap = s.controllerMap := by
  rw [undoSetDisplayStateInner]
  split
  · rfl
  · rfl

def commanded (s : MultiScreenService) (r : MultiScreenRequest) (hw : MultiScreenAnswer) :
    MultiScreenService :=
  ((s.findController r.displayId).setBrightnessState (r.displayId % 2 ^ 32) r.state
    r.reason).command (r.displayId % 2 ^ 32) r.state r.reason hw

inductive Outcome (s : MultiScreenService) (r : MultiScreenRequest) (hw : MultiScreenAnswer) :
    MultiScreenService × DisplayErrors → Prop
  | refused (h : checkRequest r ≠ .ok) : Outcome s r hw (s, checkRequest r)
  | same (admitted : checkRequest r = .ok) (h : s.getState r.displayId = r.state) :
    Outcome s r hw (s.findController r.displayId, .ok)
  | failed (admitted : checkRequest r = .ok) (h : s.getState r.displayId ≠ r.state)
    (fails : ¬ hw.Succeeds) :
    Outcome s r hw ((s.commanded r hw).undoSetDisplayStateInner (r.displayId % 2 ^ 32)
      (s.getState r.displayId) r.reason, .stateChangeFailed)
  | changed (admitted : checkRequest r = .ok) (h : s.getState r.displayId ≠ r.state)
    (succeeds : hw.Succeeds) :
    Outcome s r hw ((((s.commanded r hw).lightScreen (r.displayId % 2 ^ 32) r.state).cacheState
      r.displayId r.state r.reason).notifyMultiScreenStateChanged r.change, .ok)

theorem undoSetDisplayStateInner_screens (s : MultiScreenService) (displayId : ℕ)
    (curState : DisplayState) (reason : StateChangeReason) :
    (s.undoSetDisplayStateInner displayId curState reason).screens = s.screens := by
  rw [undoSetDisplayStateInner]
  split
  · rfl
  · rfl

theorem lightScreen_screens (s : MultiScreenService) (displayId : ℕ) (state : DisplayState) :
    (s.lightScreen displayId state).screens = s.screens := by
  rw [lightScreen]
  split
  · rfl
  · rfl

theorem getState_commanded (s : MultiScreenService) (r : MultiScreenRequest)
    (hw : MultiScreenAnswer) (id : ℕ) : (s.commanded r hw).getState id = s.getState id :=
  getState_findController s r.displayId id

theorem outcome (s : MultiScreenService) (r : MultiScreenRequest) (hw : MultiScreenAnswer) :
    Outcome s r hw (s.setMultiScreenDisplayStateInner r hw) := by
  rw [setMultiScreenDisplayStateInner]
  by_cases hcheck : checkRequest r = .ok
  · rw [if_neg (not_not.mpr hcheck)]
    dsimp only
    rw [getState_findController]
    by_cases hsame : s.getState r.displayId = r.state
    · rw [if_pos hsame]
      exact .same hcheck hsame
    · rw [if_neg hsame, updateMultiScreenState, getDisplayId_eq]
      by_cases hsucceeds : hw.Succeeds
      · rw [if_neg (by simp [hsucceeds.1, hsucceeds.2])]
        exact .changed hcheck hsame hsucceeds
      · have hfails : (!hw.setDisplayState || !hw.setScreenPower) = true := by
          rw [← Bool.not_and, Bool.not_eq_true', ← Bool.not_eq_true, Bool.and_eq_true]
          exact hsucceeds
        rw [if_pos hfails]
        have hfailed := Outcome.failed hcheck hsame hsucceeds
        rw [← getState_commanded s r hw] at hfailed
        exact hfailed
  · rw [if_pos hcheck]
    exact .refused hcheck

/-- The state cached for a screen, and the states that its callbacks and its common events told. -/
structure ScreenView where
  state : DisplayState
  notified : List DisplayState
  published : List DisplayState
  deriving DecidableEq, Repr

def told (log : List MultiScreenChange) (id : ℕ) : List DisplayState :=
  (log.filter fun change => change.displayId = id).map MultiScreenChange.state

theorem told_append_self (log : List MultiScreenChange) (r : MultiScreenRequest) :
    told (log ++ [r.change]) r.displayId = told log r.displayId ++ [r.state] := by
  simp [told, MultiScreenRequest.change]

theorem told_append_other {log : List MultiScreenChange} {change : MultiScreenChange} {id : ℕ}
    (h : change.displayId ≠ id) : told (log ++ [change]) id = told log id := by
  simp [told, h]

def view (s : MultiScreenService) (id : ℕ) : ScreenView where
  state := s.getState id
  notified := told s.notified id
  published := told s.published id

@[simp] theorem view_findController (s : MultiScreenService) (id id' : ℕ) :
    (s.findController id).view id' = s.view id' := by
  rw [view, getState_findController]
  rfl

theorem view_cacheState_self (s : MultiScreenService) (id : ℕ) (state : DisplayState)
    (reason : StateChangeReason) :
    (s.cacheState id state reason).view id = { s.view id with state := state } := by
  rw [view, getState_cacheState_self]
  rfl

theorem view_cacheState_other {s : MultiScreenService} {id id' : ℕ} (state : DisplayState)
    (reason : StateChangeReason) (h : id' ≠ id) :
    (s.cacheState id state reason).view id' = s.view id' := by
  rw [view, getState_cacheState_other h]
  rfl

theorem view_notify_self (s : MultiScreenService) (r : MultiScreenRequest) :
    (s.notify r.change).view r.displayId = ⟨(s.view r.displayId).state,
      (s.view r.displayId).notified ++ [r.state], (s.view r.displayId).published⟩ := by
  rw [view, notify]
  dsimp only
  rw [told_append_self]
  rfl

theorem view_notify_other {s : MultiScreenService} {change : MultiScreenChange} {id : ℕ}
    (h : change.displayId ≠ id) : (s.notify change).view id = s.view id := by
  rw [view, notify]
  dsimp only
  rw [told_append_other h]
  rfl

theorem view_publishCommonEvent_self (s : MultiScreenService) (r : MultiScreenRequest) :
    (s.publishCommonEvent r.change).view r.displayId = ⟨(s.view r.displayId).state,
      (s.view r.displayId).notified, (s.view r.displayId).published ++ [r.state]⟩ := by
  rw [view, publishCommonEvent]
  dsimp only
  rw [told_append_self]
  rfl

theorem view_publishCommonEvent_other {s : MultiScreenService} {change : MultiScreenChange}
    {id : ℕ} (h : change.displayId ≠ id) : (s.publishCommonEvent change).view id = s.view id := by
  rw [view, publishCommonEvent]
  dsimp only
  rw [told_append_other h]
  rfl

end MultiScreenService

end DisplayPowerMgr
