import DisplayPowerMgr.DisplayPowerMgrService

/-! Runs of `DisplayPowerMgrService`: the requests, the delayed screen-offs that fire in any
order, and everything the brightness service does in between. -/
namespace DisplayPowerMgr

/-- What the environment fixes at `Init`: the displays it finds with the states their power
tells, and how the layers below were left. -/
structure DisplayBoot where
  brightness : BrightnessBoot := {}
  displays : ℕ → Option DisplayState
  mainDisplayId : ℕ := 0
  commanded : DisplayState := .unknown
  screenPower : DisplayState := .unknown

def DisplayBoot.start (boot : DisplayBoot) : DisplayPowerMgrService where
  controllerMap id := (boot.displays id).map fun state => { displayId := id, state := state }
  mainDisplayId := boot.mainDisplayId
  host :=
    { brightness := boot.brightness.start
      commanded := boot.commanded
      screenPower := boot.screenPower }

def BrightnessEvent.isSetDisplayState : BrightnessEvent → Bool
  | .setDisplayState _ => true
  | _ => false

inductive DisplayEvent where
  | setDisplayState (isSystem : Bool) (id : ℕ) (state : DisplayState)
    (reason : StateChangeReason) (hw : HwAnswer)
  | overrideDisplayOffDelay (isSystem : Bool) (delayMs : ℕ)
  | screenOffDelay (task : ℕ) (hw : HwAnswer)
  | updateScreenPowerState (isSystem isScreenOn : Bool)
  | brightness (event : BrightnessEvent)
  deriving DecidableEq, Repr

namespace DisplayEvent

/-- Every command of the event that reaches the display manager is accepted. -/
def Succeeds : DisplayEvent → Prop
  | .setDisplayState _ _ _ _ hw => hw.Succeeds
  | .screenOffDelay _ hw => hw.Succeeds
  | _ => True

/-- All events but the one that overwrites a cached state from outside. -/
def IsPower : DisplayEvent → Prop
  | .updateScreenPowerState _ _ => False
  | _ => True

def PlainReason : DisplayEvent → Prop
  | .setDisplayState _ _ _ reason _ => reason.isPreBright = false
  | _ => True

instance : DecidablePred Succeeds
  | .setDisplayState _ _ _ _ hw => inferInstanceAs (Decidable hw.Succeeds)
  | .screenOffDelay _ hw => inferInstanceAs (Decidable hw.Succeeds)
  | .overrideDisplayOffDelay _ _ => inferInstanceAs (Decidable True)
  | .updateScreenPowerState _ _ => inferInstanceAs (Decidable True)
  | .brightness _ => inferInstanceAs (Decidable True)

instance : DecidablePred IsPower
  | .updateScreenPowerState _ _ => inferInstanceAs (Decidable False)
  | .setDisplayState _ _ _ _ _ => inferInstanceAs (Decidable True)
  | .screenOffDelay _ _ => inferInstanceAs (Decidable True)
  | .overrideDisplayOffDelay _ _ => inferInstanceAs (Decidable True)
  | .brightness _ => inferInstanceAs (Decidable True)

instance : DecidablePred PlainReason
  | .setDisplayState _ _ _ reason _ => inferInstanceAs (Decidable (reason.isPreBright = false))
  | .overrideDisplayOffDelay _ _ => inferInstanceAs (Decidable True)
  | .screenOffDelay _ _ => inferInstanceAs (Decidable True)
  | .updateScreenPowerState _ _ => inferInstanceAs (Decidable True)
  | .brightness _ => inferInstanceAs (Decidable True)

end DisplayEvent

namespace DisplayPowerMgrService

/-- Nobody but this service sends display states to the brightness service. -/
def brightnessStep (s : DisplayPowerMgrService) (event : BrightnessEvent) :
    Option DisplayPowerMgrService :=
  if event.isSetDisplayState then none
  else
    (s.host.brightness.step event).map fun brightness =>
      { s with host := { s.host with brightness := brightness } }

def step (s : DisplayPowerMgrService) : DisplayEvent → Option DisplayPowerMgrService
  | .setDisplayState isSystem id state reason hw =>
    some (s.setDisplayStateInner isSystem id state reason hw).1
  | .overrideDisplayOffDelay isSystem delayMs =>
    some (s.overrideDisplayOffDelayInner isSystem delayMs).1
  | .screenOffDelay task hw => s.runScreenOffDelay task hw
  | .updateScreenPowerState isSystem isScreenOn =>
    some (s.updateScreenPowerState isSystem isScreenOn)
  | .brightness event => s.brightnessStep event

def Reachable (s : DisplayPowerMgrService) : Prop :=
  Runs.Reachable step (fun s => ∃ boot : DisplayBoot, s = boot.start) s

theorem findController_some {s : DisplayPowerMgrService} {id id' : ℕ} {c : ScreenController}
    (h : s.findController id = some (id', c)) :
    s.controllerMap id' = some c ∧
      (id' = id ∨ id = DEFALUT_DISPLAY_ID ∧ id' = s.mainDisplayId) := by
  rw [findController] at h
  cases hc : s.controllerMap id with
  | some d =>
    rw [hc] at h
    cases h
    exact ⟨hc, Or.inl rfl⟩
  | none =>
    simp only [hc] at h
    by_cases hid : id = DEFALUT_DISPLAY_ID
    · rw [if_neg (not_not.mpr hid)] at h
      obtain ⟨d, hd, heq⟩ := Option.map_eq_some_iff.mp h
      cases heq
      exact ⟨hd, Or.inr ⟨hid, rfl⟩⟩
    · rw [if_pos hid] at h
      cases h

@[simp] theorem setController_controllerMap (s : DisplayPowerMgrService) (id : ℕ)
    (c : ScreenController) :
    (s.setController id c).controllerMap = Function.update s.controllerMap id (some c) := rfl

def SameDelay (a b : DisplayPowerMgrService) : Prop :=
  b = { a with controllerMap := b.controllerMap, host := b.host }

def SameScreens (a b : DisplayPowerMgrService) : Prop :=
  b = { a with host := { a.host with brightness := b.host.brightness } }

theorem SameDelay.trans {a b c : DisplayPowerMgrService} (hab : SameDelay a b)
    (hbc : SameDelay b c) : SameDelay a c := by
  rw [SameDelay] at *
  rw [hbc, hab]

theorem SameScreens.sameDelay {a b : DisplayPowerMgrService} (h : SameScreens a b) :
    SameDelay a b := by
  rw [SameScreens] at h
  rw [h]
  rfl

theorem undoSetDisplayStateInner_sameScreens (s : DisplayPowerMgrService)
    (curState : DisplayState) : SameScreens s (s.undoSetDisplayStateInner curState) := by
  rw [undoSetDisplayStateInner]
  by_cases h : curState = .on ∨ curState = .dim
  · simp only [h, if_true]
    rfl
  · simp only [h, if_false]
    rfl

theorem updateState_sameDelay (s : DisplayPowerMgrService) (id : ℕ) (c : ScreenController)
    (state : DisplayState) (reason : StateChangeReason) (hw : HwAnswer) :
    SameDelay s (s.updateState id c state reason hw).1 := rfl

theorem brightnessStep_sameScreens {s t : DisplayPowerMgrService} {event : BrightnessEvent}
    (h : s.brightnessStep event = some t) : SameScreens s t := by
  rw [brightnessStep] at h
  by_cases he : event.isSetDisplayState
  · rw [if_pos he] at h
    cases h
  · rw [if_neg he] at h
    obtain ⟨b, _, rfl⟩ := Option.map_eq_some_iff.mp h
    rfl

/-- The three ways in which `SetDisplayStateInner` ends once it told the brightness service: it
submits a delayed screen-off, takes one back, or has the controller apply the state at once,
after which an undo may touch the brightness service again. -/
inductive Change (s : DisplayPowerMgrService) (id : ℕ) (c : ScreenController)
    (state : DisplayState) (reason : StateChangeReason) (hw : HwAnswer) :
    DisplayPowerMgrService × Bool → Prop
  | submitted (armed : s.isDisplayDelayOff = true) (isOff : state = .off ∨ state = .doze) :
    Change s id c state reason hw (s.submitScreenOff id c state reason, true)
  | cancelled (armed : s.isDisplayDelayOff = true) (isOn : state = .on) :
    Change s id c state reason hw (s.cancelScreenOff id c, true)
  | applied (t : DisplayPowerMgrService)
    (free : s.isDisplayDelayOff = true → state ≠ .off ∧ state ≠ .doze ∧ state ≠ .on)
    (same : SameScreens (s.updateState id c state reason hw).1 t)
    (kept : (state = .off ∨ state = .doze → (s.updateState id c state reason hw).2 = true) →
      t = (s.updateState id c state reason hw).1)
    (undone : state = .off ∨ state = .doze → (s.updateState id c state reason hw).2 = false →
      t = (s.updateState id c state reason hw).1.undoSetDisplayStateInner c.state) :
    Change s id c state reason hw (t, (s.updateState id c state reason hw).2)

theorem screenOffImmediately_cases (s : DisplayPowerMgrService) (id : ℕ)
    (c : ScreenController) (state : DisplayState) (reason : StateChangeReason) (hw : HwAnswer) :
    (s.updateState id c state reason hw).2 = true ∧
        (s.screenOffImmediately id c state reason hw).1 = (s.updateState id c state reason hw).1 ∨
      (s.updateState id c state reason hw).2 = false ∧
        (s.screenOffImmediately id c state reason hw).1 =
          (s.updateState id c state reason hw).1.undoSetDisplayStateInner c.state := by
  rw [screenOffImmediately]
  cases h : (s.updateState id c state reason hw).2 with
  | true => exact Or.inl ⟨rfl, by simp [h]⟩
  | false => exact Or.inr ⟨rfl, by simp [h]⟩

theorem changeDisplayState_change (s : DisplayPowerMgrService) (id : ℕ) (c : ScreenController)
    (state : DisplayState) (reason : StateChangeReason) (hw : HwAnswer) :
    Change s id c state reason hw (s.changeDisplayState id c state reason hw) := by
  rw [changeDisplayState]
  by_cases hoff : state = .off ∨ state = .doze
  · rw [if_pos hoff]
    by_cases harmed : s.isDisplayDelayOff = true
    · rw [if_neg (by simp [harmed])]
      exact .submitted harmed hoff
    · rw [if_pos (by simp [harmed])]
      have hpair : s.screenOffImmediately id c state reason hw =
          ((s.screenOffImmediately id c state reason hw).1,
            (s.updateState id c state reason hw).2) := rfl
      rw [hpair]
      refine .applied _ (fun h => absurd h harmed) ?_ ?_ ?_
      · rcases screenOffImmediately_cases s id c state reason hw with ⟨_, heq⟩ | ⟨_, heq⟩
        · rw [heq]
          rfl
        · rw [heq]
          exact undoSetDisplayStateInner_sameScreens _ _
      · intro hret
        rcases screenOffImmediately_cases s id c state reason hw with ⟨_, heq⟩ | ⟨hno, _⟩
        · exact heq
        · rw [hret hoff] at hno
          cases hno
      · intro _ hret
        rcases screenOffImmediately_cases s id c state reason hw with ⟨hyes, _⟩ | ⟨_, heq⟩
        · rw [hret] at hyes
          cases hyes
        · exact heq
  · rw [if_neg hoff]
    by_cases hon : state = .on ∧ s.isDisplayDelayOff = true
    · rw [if_pos hon]
      exact .cancelled hon.2 hon.1
    · rw [if_neg hon]
      refine .applied _ ?_ rfl (fun _ => rfl) (fun he => absurd he hoff)
      intro h
      exact ⟨fun he => hoff (Or.inl he), fun he => hoff (Or.inr he), fun he => hon ⟨he, h⟩⟩

/-- A request without permission or display changes nothing and returns false. -/
theorem setDisplayStateInner_cases (s : DisplayPowerMgrService) (isSystem : Bool) (id : ℕ)
    (state : DisplayState) (reason : StateChangeReason) (hw : HwAnswer) :
    (isSystem = false ∨ s.findController id = none) ∧
        s.setDisplayStateInner isSystem id state reason hw = (s, false) ∨
      ∃ id' c, isSystem = true ∧ s.findController id = some (id', c) ∧
        Change (s.setBrightnessState state) id' c state reason hw
          (s.setDisplayStateInner isSystem id state reason hw) := by
  rw [setDisplayStateInner]
  cases isSystem with
  | false => exact Or.inl ⟨Or.inl rfl, rfl⟩
  | true =>
    rw [if_neg (by simp)]
    cases hf : s.findController id with
    | none => exact Or.inl ⟨Or.inr rfl, rfl⟩
    | some p => exact Or.inr ⟨p.1, p.2, rfl, rfl, changeDisplayState_change _ _ _ _ _ _⟩

/-- A permitted request for a display that is found is one of the three. -/
theorem setDisplayStateInner_change {s : DisplayPowerMgrService} {id id' : ℕ}
    {c : ScreenController} (hfind : s.findController id = some (id', c)) (state : DisplayState)
    (reason : StateChangeReason) (hw : HwAnswer) :
    Change (s.setBrightnessState state) id' c state reason hw
      (s.setDisplayStateInner true id state reason hw) := by
  rw [setDisplayStateInner, if_neg (by simp)]
  simp only [hfind]
  exact changeDisplayState_change _ id' c state reason hw

/-- A delayed screen-off that fires disarms the delay and applies the request that the service
holds at that moment. -/
theorem runScreenOffDelay_some {s t : DisplayPowerMgrService} {task : ℕ} {hw : HwAnswer}
    (h : s.runScreenOffDelay task hw = some t) :
    ∃ request, (task, request) ∈ s.screenOffDelayTasks.pending ∧
      t = { s with screenOffDelayTasks := s.screenOffDelayTasks.remove task }.screenOffDelay
        s.displayId s.displayState s.displayReason hw := by
  obtain ⟨request, hr, rfl⟩ := Option.map_eq_some_iff.mp h
  exact ⟨request, Tasks.find?_eq_some.mp hr, rfl⟩

theorem runScreenOffDelay_of_mem {s : DisplayPowerMgrService} {task : ℕ}
    {request : DelayedRequest} (h : (task, request) ∈ s.screenOffDelayTasks.pending)
    (hw : HwAnswer) :
    s.runScreenOffDelay task hw =
      some ({ s with screenOffDelayTasks := s.screenOffDelayTasks.remove task }.screenOffDelay
        s.displayId s.displayState s.displayReason hw) := by
  rw [runScreenOffDelay, Tasks.find?_eq_some.mpr h]
  rfl

theorem screenOffDelay_sameDelay (s : DisplayPowerMgrService) (id : ℕ) (state : DisplayState)
    (reason : StateChangeReason) (hw : HwAnswer) :
    SameDelay { s with isDisplayDelayOff := false } (s.screenOffDelay id state reason hw) := by
  rw [screenOffDelay]
  cases h : s.controllerMap id with
  | none => rfl
  | some c => rfl

theorem updateScreenPowerState_sameDelay (s : DisplayPowerMgrService)
    (isSystem isScreenOn : Bool) : SameDelay s (s.updateScreenPowerState isSystem isScreenOn) := by
  rw [updateScreenPowerState]
  cases isSystem with
  | false => rfl
  | true =>
    cases h : s.findController DEFALUT_DISPLAY_ID with
    | none => rfl
    | some p => rfl

theorem overrideDisplayOffDelayInner_fst (s : DisplayPowerMgrService) (isSystem : Bool)
    (delayMs : ℕ) :
    ∃ armed ms, (s.overrideDisplayOffDelayInner isSystem delayMs).1 =
      { s with isDisplayDelayOff := armed, displayOffDelayMs := ms } := by
  rw [overrideDisplayOffDelayInner]
  cases isSystem with
  | false => exact ⟨s.isDisplayDelayOff, s.displayOffDelayMs, rfl⟩
  | true =>
    by_cases h : s.getDisplayStateInner s.mainDisplayId ≠ .on ∨ delayMs = DELAY_TIME_UNSET
    · rw [if_neg (by simp), if_pos h]
      exact ⟨false, s.displayOffDelayMs, rfl⟩
    · rw [if_neg (by simp), if_neg h]
      exact ⟨true, delayMs, rfl⟩

theorem mem_cancelTask {tasks : Tasks DelayedRequest} {handle : Option ℕ}
    {p : ℕ × DelayedRequest} :
    p ∈ (cancelTask tasks handle).pending ↔ p ∈ tasks.pending ∧ handle ≠ some p.1 := by
  cases handle with
  | none => simp [cancelTask]
  | some k =>
    rw [cancelTask, Tasks.mem_remove]
    constructor
    · rintro ⟨hp, hne⟩
      refine ⟨hp, ?_⟩
      intro h
      exact hne (Option.some.inj h).symm
    · rintro ⟨hp, hne⟩
      refine ⟨hp, ?_⟩
      intro h
      exact hne (congrArg some h.symm)

/-- A step leaves the delay as it is, submits a screen-off, takes one back, sets the delay or
fires a screen-off. -/
inductive DelayStep (s : DisplayPowerMgrService) : DisplayEvent → DisplayPowerMgrService → Prop
  | kept {e : DisplayEvent} {t : DisplayPowerMgrService} (same : SameDelay s t) :
    DelayStep s e t
  | submitted {isSystem : Bool} {id : ℕ} {state : DisplayState} {reason : StateChangeReason}
    {hw : HwAnswer} {t : DisplayPowerMgrService} (id' : ℕ) (c : ScreenController)
    (permitted : isSystem = true) (find : s.findController id = some (id', c))
    (armed : s.isDisplayDelayOff = true) (isOff : state = .off ∨ state = .doze)
    (same : SameDelay (s.submitScreenOff id' c state reason) t) :
    DelayStep s (.setDisplayState isSystem id state reason hw) t
  | cancelled {isSystem : Bool} {id : ℕ} {reason : StateChangeReason} {hw : HwAnswer}
    {t : DisplayPowerMgrService} (id' : ℕ) (c : ScreenController)
    (armed : s.isDisplayDelayOff = true) (same : SameDelay (s.cancelScreenOff id' c) t) :
    DelayStep s (.setDisplayState isSystem id .on reason hw) t
  | overridden {isSystem : Bool} {delayMs : ℕ} {t : DisplayPowerMgrService} (armed : Bool)
    (ms : ℕ) (permitted : isSystem = true)
    (same : SameDelay { s with isDisplayDelayOff := armed, displayOffDelayMs := ms } t) :
    DelayStep s (.overrideDisplayOffDelay isSystem delayMs) t
  | fired {task : ℕ} {hw : HwAnswer} {t : DisplayPowerMgrService} (request : DelayedRequest)
    (pending : (task, request) ∈ s.screenOffDelayTasks.pending)
    (same : SameDelay
      { s with
        isDisplayDelayOff := false
        screenOffDelayTasks := s.screenOffDelayTasks.remove task } t) :
    DelayStep s (.screenOffDelay task hw) t

theorem step_delay {s t : DisplayPowerMgrService} {e : DisplayEvent} (h : step s e = some t) :
    DelayStep s e t := by
  cases e with
  | setDisplayState isSystem id state reason hw =>
    cases h
    rcases setDisplayStateInner_cases s isSystem id state reason hw with
      ⟨_, heq⟩ | ⟨id', c, hsystem, hfind, hchange⟩
    · rw [heq]
      exact .kept rfl
    · generalize s.setDisplayStateInner isSystem id state reason hw = r at hchange ⊢
      cases hchange with
      | submitted armed isOff => exact .submitted id' c hsystem hfind armed isOff rfl
      | cancelled armed isOn =>
        subst isOn
        exact .cancelled id' c armed rfl
      | applied t _ same =>
        have hupdate := updateState_sameDelay (s.setBrightnessState state) id' c state reason hw
        exact .kept (hupdate.trans same.sameDelay)
  | overrideDisplayOffDelay isSystem delayMs =>
    cases h
    cases isSystem with
    | false => exact .kept rfl
    | true =>
      obtain ⟨armed, ms, heq⟩ := overrideDisplayOffDelayInner_fst s true delayMs
      rw [heq]
      exact .overridden armed ms rfl rfl
  | screenOffDelay task hw =>
    obtain ⟨request, hmem, rfl⟩ := runScreenOffDelay_some h
    exact .fired request hmem (screenOffDelay_sameDelay _ _ _ _ _)
  | updateScreenPowerState isSystem isScreenOn =>
    cases h
    exact .kept (updateScreenPowerState_sameDelay s isSystem isScreenOn)
  | brightness event => exact .kept (brightnessStep_sameScreens h).sameDelay

def SameDisplays (a b : DisplayPowerMgrService) : Prop :=
  b.mainDisplayId = a.mainDisplayId ∧
    ∀ id, (b.controllerMap id).isSome = (a.controllerMap id).isSome

theorem SameDisplays.refl (s : DisplayPowerMgrService) : SameDisplays s s := ⟨rfl, fun _ => rfl⟩

theorem SameDisplays.trans {a b c : DisplayPowerMgrService} (hab : SameDisplays a b)
    (hbc : SameDisplays b c) : SameDisplays a c :=
  ⟨hbc.1.trans hab.1, fun id => (hbc.2 id).trans (hab.2 id)⟩

theorem SameScreens.sameDisplays {a b : DisplayPowerMgrService} (h : SameScreens a b) :
    SameDisplays a b := by
  rw [SameScreens] at h
  rw [h]
  exact SameDisplays.refl a

theorem update_isSome {map : ℕ → Option ScreenController} {id : ℕ} {c : ScreenController}
    (h : map id = some c) (c' : ScreenController) (i : ℕ) :
    (Function.update map id (some c') i).isSome = (map i).isSome := by
  by_cases hi : i = id
  · subst hi
    rw [Function.update_self, h]
    rfl
  · rw [Function.update_of_ne hi]

theorem Change.sameDisplays {s : DisplayPowerMgrService} {id : ℕ} {c : ScreenController}
    {state : DisplayState} {reason : StateChangeReason} {hw : HwAnswer}
    {r : DisplayPowerMgrService × Bool} (h : Change s id c state reason hw r)
    (hc : s.controllerMap id = some c) : SameDisplays s r.1 := by
  cases h with
  | submitted => exact ⟨rfl, fun i => update_isSome hc _ i⟩
  | cancelled => exact ⟨rfl, fun i => update_isSome hc _ i⟩
  | applied t _ same =>
    have hupdate : SameDisplays s (s.updateState id c state reason hw).1 :=
      ⟨rfl, fun i => update_isSome hc _ i⟩
    exact hupdate.trans same.sameDisplays

theorem screenOffDelay_sameDisplays (s : DisplayPowerMgrService) (id : ℕ) (state : DisplayState)
    (reason : StateChangeReason) (hw : HwAnswer) :
    SameDisplays s (s.screenOffDelay id state reason hw) := by
  rw [screenOffDelay]
  cases h : s.controllerMap id with
  | none => exact SameDisplays.refl s
  | some c => exact ⟨rfl, fun i => update_isSome h _ i⟩

theorem step_sameDisplays {s t : DisplayPowerMgrService} {e : DisplayEvent}
    (h : step s e = some t) : SameDisplays s t := by
  cases e with
  | setDisplayState isSystem id state reason hw =>
    cases h
    rcases setDisplayStateInner_cases s isSystem id state reason hw with
      ⟨_, heq⟩ | ⟨id', c, _, hfind, hchange⟩
    · rw [heq]
      exact SameDisplays.refl s
    · have hc : (s.setBrightnessState state).controllerMap id' = some c :=
        (findController_some hfind).1
      exact hchange.sameDisplays hc
  | overrideDisplayOffDelay isSystem delayMs =>
    cases h
    obtain ⟨armed, ms, heq⟩ := overrideDisplayOffDelayInner_fst s isSystem delayMs
    rw [heq]
    exact SameDisplays.refl s
  | screenOffDelay task hw =>
    obtain ⟨_, _, rfl⟩ := runScreenOffDelay_some h
    exact screenOffDelay_sameDisplays
      { s with screenOffDelayTasks := s.screenOffDelayTasks.remove task } _ _ _ _
  | updateScreenPowerState isSystem isScreenOn =>
    cases h
    rw [updateScreenPowerState]
    cases isSystem with
    | false => exact SameDisplays.refl s
    | true =>
      cases hf : s.findController DEFALUT_DISPLAY_ID with
      | none => exact SameDisplays.refl s
      | some p => exact ⟨rfl, fun i => update_isSome (findController_some hf).1 _ i⟩
  | brightness event => exact (brightnessStep_sameScreens h).sameDisplays

end DisplayPowerMgrService

end DisplayPowerMgr
