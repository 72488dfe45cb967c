import DisplayPowerMgr.BrightnessModes

/-! `ScreenController`: the state cached for one display, what it commands of the display
manager and what it tells the brightness service and the registered callback on the way. -/
namespace DisplayPowerMgr

/-- What a controller acts on besides itself: the brightness service, the last state that the
display manager took and the last power it set, and the notifications sent, the oldest first. -/
structure DisplayHost where
  brightness : BrightnessService
  commanded : DisplayState := .unknown
  screenPower : DisplayState := .unknown
  notified : List (ℕ × DisplayState × StateChangeReason) := []

/-- `ScreenAction::SetDisplayState`; `none` when the display manager refuses. -/
def DisplayHost.setDisplayState (host : DisplayHost) (state : DisplayState) (hw : HwAnswer) :
    Option DisplayHost :=
  if hw.setDisplayState then some { host with commanded := state } else none

/-- `ScreenAction::SetDisplayPower`, which answers yes for two states whatever happened. -/
def DisplayHost.setDisplayPower (host : DisplayHost) (state : DisplayState) (hw : HwAnswer) :
    DisplayHost × Bool :=
  (if hw.setDisplayPower then { host with screenPower := state } else host,
    state = .dim || state = .suspend || hw.setDisplayPower)

def DisplayHost.setScreenOnBrightness (host : DisplayHost) : DisplayHost :=
  { host with brightness := host.brightness.setScreenOnBrightness }

def DisplayHost.notifyStateChangeCallback (host : DisplayHost) (displayId : ℕ)
    (state : DisplayState) (reason : StateChangeReason) : DisplayHost :=
  { host with notified := host.notified ++ [(displayId, state, reason)] }

structure ScreenController where
  displayId : ℕ
  state : DisplayState := .unknown
  stateChangeReason : StateChangeReason := .other 0
  deriving DecidableEq, Repr

namespace ScreenController

def setDelayOffState (c : ScreenController) : ScreenController := { c with state := .delayOff }

def setOnState (c : ScreenController) : ScreenController := { c with state := .on }

def updateCachedState (c : ScreenController) (state : DisplayState) : ScreenController :=
  { c with state := state }

def isScreenOn (c : ScreenController) : Bool := c.state.isScreenOn

def skipNotify (c : ScreenController) (targetState : DisplayState) : Bool :=
  c.state.isScreenOn == targetState.isScreenOn

def isNeedSkipNextProc (reason : StateChangeReason) : Bool :=
  reason = .preBright || reason = .preBrightAuthFailScreenOff

def enableSkipSetDisplayState (reason : StateChangeReason) : Bool :=
  reason = .preBrightAuthSuccess

/-- The state that a notification carries. -/
def notifiedState (state : DisplayState) : DisplayState :=
  if state = .suspend ∨ state = .doze then .off else state

def announce (c : ScreenController) (host : DisplayHost) (state : DisplayState)
    (reason : StateChangeReason) (ret : Bool) : DisplayHost :=
  let host := if state = .on then host.setScreenOnBrightness else host
  if ret then host.notifyStateChangeCallback c.displayId (notifiedState state) reason else host

def onStateChanged (c : ScreenController) (host : DisplayHost) (state : DisplayState)
    (reason : StateChangeReason) (hw : HwAnswer) : DisplayHost :=
  let (host, ret) := host.setDisplayPower state hw
  if reason = .preBright then host
  else if c.skipNotify state then host
  else c.announce host state reason ret

/-- The states for which `UpdateState` turns to the display manager; on after dim needs none. -/
def needsCommand (c : ScreenController) : DisplayState → Bool
  | .on => c.state ≠ .dim
  | .dozeSuspend | .doze | .off => true
  | _ => false

/-- The `switch` of `UpdateState`. The display manager runs the callback before it answers yes,
with the state asked for, and does not run it when it refuses. -/
def commandState (c : ScreenController) (host : DisplayHost) (state : DisplayState)
    (reason : StateChangeReason) (hw : HwAnswer) : Option DisplayHost :=
  if c.needsCommand state then
    if enableSkipSetDisplayState reason then some (c.onStateChanged host state reason hw)
    else (host.setDisplayState state hw).map fun host => c.onStateChanged host state reason hw
  else some host

/-- A request that is answered yes without any effect. -/
def ignores (c : ScreenController) (state : DisplayState) (reason : StateChangeReason) : Bool :=
  (reason ≠ .preBrightAuthFailScreenOff && state = c.state) || (state = .dim && c.state = .off)

def updateState (c : ScreenController) (host : DisplayHost) (state : DisplayState)
    (reason : StateChangeReason) (hw : HwAnswer) : ScreenController × DisplayHost × Bool :=
  if c.ignores state reason then (c, host, true)
  else
    match c.commandState host state reason hw with
    | none => (c, host, false)
    | some host =>
      if isNeedSkipNextProc reason then (c, host, false)
      else ({ c with state := state, stateChangeReason := reason }, host, true)

/-- The four ways in which `UpdateState` ends, with its result. -/
inductive Update (c : ScreenController) (host : DisplayHost) (state : DisplayState)
    (reason : StateChangeReason) (hw : HwAnswer) : ScreenController × DisplayHost × Bool → Prop
  | ignored (h : c.ignores state reason = true) : Update c host state reason hw (c, host, true)
  | refused (h : c.ignores state reason = false)
    (command : c.commandState host state reason hw = none) :
    Update c host state reason hw (c, host, false)
  | interrupted (h : c.ignores state reason = false) (host' : DisplayHost)
    (command : c.commandState host state reason hw = some host')
    (skip : isNeedSkipNextProc reason = true) :
    Update c host state reason hw (c, host', false)
  | cached (h : c.ignores state reason = false) (host' : DisplayHost)
    (command : c.commandState host state reason hw = some host')
    (noSkip : isNeedSkipNextProc reason = false) :
    Update c host state reason hw
      ({ c with state := state, stateChangeReason := reason }, host', true)

theorem updateState_update (c : ScreenController) (host : DisplayHost) (state : DisplayState)
    (reason : StateChangeReason) (hw : HwAnswer) :
    Update c host state reason hw (c.updateState host state reason hw) := by
  rw [updateState]
  cases h : c.ignores state reason with
  | true => exact .ignored h
  | false =>
    rw [if_neg (by simp)]
    cases hcommand : c.commandState host state reason hw with
    | none => exact .refused h hcommand
    | some host' =>
      cases hskip : isNeedSkipNextProc reason with
      | true => exact .interrupted h host' hcommand hskip
      | false => exact .cached h host' hcommand hskip

theorem ignores_iff {c : ScreenController} {state : DisplayState} {reason : StateChangeReason} :
    c.ignores state reason = true ↔
      reason ≠ .preBrightAuthFailScreenOff ∧ state = c.state ∨ state = .dim ∧ c.state = .off := by
  simp [ignores]

theorem ne_of_not_ignored {c : ScreenController} {state : DisplayState}
    {reason : StateChangeReason} (h : c.ignores state reason = false)
    (hreason : reason ≠ .preBrightAuthFailScreenOff) :
    state ≠ c.state ∧ ¬(state = .dim ∧ c.state = .off) := by
  have hnot := (not_congr ignores_iff).mp (Bool.eq_false_iff.mp h)
  rw [not_or] at hnot
  exact ⟨fun heq => hnot.1 ⟨hreason, heq⟩, hnot.2⟩

theorem isNeedSkipNextProc_iff {reason : StateChangeReason} :
    isNeedSkipNextProc reason = true ↔
      reason = .preBright ∨ reason = .preBrightAuthFailScreenOff := by
  simp [isNeedSkipNextProc]

theorem noSkip_of_plain {reason : StateChangeReason} (h : reason.isPreBright = false) :
    isNeedSkipNextProc reason = false ∧ enableSkipSetDisplayState reason = false ∧
      reason ≠ .preBrightAuthFailScreenOff := by
  cases reason with
  | other code => simp [isNeedSkipNextProc, enableSkipSetDisplayState]
  | _ => cases h

theorem commandState_isSome (c : ScreenController) (host : DisplayHost) (state : DisplayState)
    (reason : StateChangeReason) {hw : HwAnswer} (h : hw.Succeeds) :
    (c.commandState host state reason hw).isSome := by
  rw [commandState, DisplayHost.setDisplayState, h.1]
  by_cases hneeds : c.needsCommand state = true
  · rw [if_pos hneeds]
    split <;> rfl
  · rw [if_neg hneeds]
    rfl

theorem setDisplayPower_commanded (host : DisplayHost) (state : DisplayState) (hw : HwAnswer) :
    (host.setDisplayPower state hw).1.commanded = host.commanded := by
  rw [DisplayHost.setDisplayPower]
  by_cases h : hw.setDisplayPower = true
  · rw [if_pos h]
  · rw [if_neg h]

theorem announce_commanded (c : ScreenController) (host : DisplayHost) (state : DisplayState)
    (reason : StateChangeReason) (ret : Bool) :
    (c.announce host state reason ret).commanded = host.commanded := by
  rw [announce]
  by_cases hon : state = .on <;> cases ret <;>
    simp only [hon, if_true, if_false, Bool.false_eq_true] <;> rfl

theorem onStateChanged_commanded (c : ScreenController) (host : DisplayHost)
    (state : DisplayState) (reason : StateChangeReason) (hw : HwAnswer) :
    (c.onStateChanged host state reason hw).commanded = host.commanded := by
  rw [onStateChanged]
  by_cases hreason : reason = .preBright
  · simp only [hreason, if_true]
    exact setDisplayPower_commanded host state hw
  · by_cases hskip : c.skipNotify state = true
    · simp only [hreason, hskip, if_true, if_false]
      exact setDisplayPower_commanded host state hw
    · simp only [hreason, hskip, if_false, Bool.false_eq_true, announce_commanded]
      exact setDisplayPower_commanded host state hw

/-- Without a command nothing happens; with one, the display manager is asked first, unless the
reason skips that. -/
theorem commandState_cases {c : ScreenController} {host host' : DisplayHost}
    {state : DisplayState} {reason : StateChangeReason} {hw : HwAnswer}
    (h : c.commandState host state reason hw = some host') :
    (c.needsCommand state = false ∧ host' = host) ∨
      (c.needsCommand state = true ∧ host' = c.onStateChanged
        { host with
          commanded := if enableSkipSetDisplayState reason then host.commanded else state }
        state reason hw) := by
  rw [commandState] at h
  by_cases hneeds : c.needsCommand state = true
  · rw [if_pos hneeds] at h
    refine Or.inr ⟨hneeds, ?_⟩
    by_cases hskip : enableSkipSetDisplayState reason = true
    · rw [if_pos hskip] at h ⊢
      exact (Option.some.inj h).symm
    · rw [if_neg hskip] at h ⊢
      obtain ⟨asked, hset, rfl⟩ := Option.map_eq_some_iff.mp h
      obtain ⟨_, hasked⟩ := Option.ite_none_right_eq_some.mp hset
      rw [← Option.some.inj hasked]
  · rw [if_neg hneeds] at h
    exact Or.inl ⟨Bool.eq_false_iff.mpr hneeds, (Option.some.inj h).symm⟩

/-- What is commanded of the display manager: the state, unless none is needed or the reason
skips it. -/
theorem commandState_commanded {c : ScreenController} {host host' : DisplayHost}
    {state : DisplayState} {reason : StateChangeReason} {hw : HwAnswer}
    (h : c.commandState host state reason hw = some host') :
    host'.commanded =
      if c.needsCommand state && !enableSkipSetDisplayState reason then state
      else host.commanded := by
  rcases commandState_cases h with ⟨hneeds, rfl⟩ | ⟨hneeds, rfl⟩
  · rw [if_neg (by simp [hneeds])]
  · rw [onStateChanged_commanded]
    cases hskip : enableSkipSetDisplayState reason with
    | true => simp
    | false => simp [hneeds]

theorem setDisplayPower_brightness (host : DisplayHost) (state : DisplayState) (hw : HwAnswer) :
    (host.setDisplayPower state hw).1.brightness = host.brightness := by
  rw [DisplayHost.setDisplayPower]
  by_cases h : hw.setDisplayPower = true
  · rw [if_pos h]
  · rw [if_neg h]

theorem announce_mode (c : ScreenController) (host : DisplayHost) (state : DisplayState)
    (reason : StateChangeReason) (ret : Bool) :
    (c.announce host state reason ret).brightness.mode = host.brightness.mode := by
  rw [announce]
  by_cases hon : state = .on <;> cases ret <;>
    simp only [hon, if_true, if_false, Bool.false_eq_true]
  · exact (BrightnessService.setScreenOnBrightness_mode _).1
  · exact (BrightnessService.setScreenOnBrightness_mode _).1
  · rfl

theorem onStateChanged_mode (c : ScreenController) (host : DisplayHost) (state : DisplayState)
    (reason : StateChangeReason) (hw : HwAnswer) :
    (c.onStateChanged host state reason hw).brightness.mode = host.brightness.mode := by
  have hpower := congrArg BrightnessService.mode (setDisplayPower_brightness host state hw)
  rw [onStateChanged]
  by_cases hreason : reason = .preBright
  · simp only [hreason, if_true]
    exact hpower
  · by_cases hskip : c.skipNotify state = true
    · simp only [hreason, hskip, if_true, if_false]
      exact hpower
    · simp only [hreason, hskip, if_false, Bool.false_eq_true, announce_mode]
      exact hpower

theorem commandState_mode {c : ScreenController} {host host' : DisplayHost}
    {state : DisplayState} {reason : StateChangeReason} {hw : HwAnswer}
    (h : c.commandState host state reason hw = some host') :
    host'.brightness.mode = host.brightness.mode := by
  rcases commandState_cases h with ⟨_, rfl⟩ | ⟨_, rfl⟩
  · rfl
  · rw [onStateChanged_mode]

theorem updateState_mode (c : ScreenController) (host : DisplayHost) (state : DisplayState)
    (reason : StateChangeReason) (hw : HwAnswer) :
    (c.updateState host state reason hw).2.1.brightness.mode = host.brightness.mode := by
  have hupdate := updateState_update c host state reason hw
  generalize c.updateState host state reason hw = r at hupdate ⊢
  cases hupdate with
  | ignored => rfl
  | refused => rfl
  | interrupted _ _ command => exact commandState_mode command
  | cached _ _ command => exact commandState_mode command

/-- With an accepting display manager, a state other than the cached one is cached unless the
reason interrupts the update. -/
theorem updateState_cached {c : ScreenController} {state : DisplayState}
    {reason : StateChangeReason} {hw : HwAnswer} (host : DisplayHost) (hw' : hw.Succeeds)
    (hignore : c.ignores state reason = false) (hskip : isNeedSkipNextProc reason = false) :
    (c.updateState host state reason hw).1.state = state ∧
      (c.updateState host state reason hw).2.2 = true := by
  have hsome := commandState_isSome c host state reason hw'
  have hupdate := updateState_update c host state reason hw
  generalize c.updateState host state reason hw = r at hupdate
  cases hupdate with
  | ignored h => simp [hignore] at h
  | refused _ command => simp [command] at hsome
  | interrupted _ _ _ skip => simp [hskip] at skip
  | cached => exact ⟨rfl, rfl⟩

theorem updateState_skipped {c : ScreenController} {state : DisplayState}
    {reason : StateChangeReason} (host : DisplayHost) (hw : HwAnswer)
    (hskip : isNeedSkipNextProc reason = true) :
    (c.updateState host state reason hw).1 = c := by
  have hupdate := updateState_update c host state reason hw
  generalize c.updateState host state reason hw = r at hupdate
  cases hupdate with
  | ignored => rfl
  | refused => rfl
  | interrupted => rfl
  | cached _ _ _ noSkip => simp [hskip] at noSkip

/-- What the controller caches when it answers yes, against the state it was asked for. -/
theorem updateState_yes {c : ScreenController} {host : DisplayHost} {state : DisplayState}
    {reason : StateChangeReason} {hw : HwAnswer}
    (hyes : (c.updateState host state reason hw).2.2 = true) :
    (c.updateState host state reason hw).1.state =
      if state = .dim ∧ c.state = .off then .off else state := by
  have hupdate := updateState_update c host state reason hw
  generalize c.updateState host state reason hw = r at hyes hupdate ⊢
  cases hupdate with
  | ignored h =>
    rcases ignores_iff.mp h with ⟨_, hc⟩ | ⟨hdim, hoff⟩
    · by_cases hboth : state = .dim ∧ c.state = .off
      · rw [if_pos hboth]
        exact hboth.2
      · rw [if_neg hboth]
        exact hc.symm
    · rw [if_pos ⟨hdim, hoff⟩]
      exact hoff
  | refused => cases hyes
  | interrupted => cases hyes
  | cached h =>
    rw [if_neg]
    intro hboth
    have : c.ignores state reason = true := ignores_iff.mpr (Or.inr hboth)
    rw [h] at this
    cases this

theorem updateState_accepts (c : ScreenController) (host : DisplayHost) (state : DisplayState)
    {reason : StateChangeReason} (hplain : reason.isPreBright = false) {hw : HwAnswer}
    (hhw : hw.Succeeds) : (c.updateState host state reason hw).2.2 = true := by
  cases hignore : c.ignores state reason with
  | true => rw [updateState, if_pos hignore]
  | false => exact (updateState_cached host hhw hignore (noSkip_of_plain hplain).1).2

end ScreenController

end DisplayPowerMgr
