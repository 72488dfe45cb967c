import DisplayPowerMgr.DisplayPowerRuns

/-! A service with one display: its cached state, and the request that is stored for a delayed
screen-off while one is pending. -/
namespace DisplayPowerMgr

namespace DisplayPowerMgrService

def OneDisplay (s : DisplayPowerMgrService) : Prop :=
  ∀ id, (s.controllerMap id).isSome ↔ id = s.mainDisplayId

theorem OneDisplay.eq_main {s : DisplayPowerMgrService} (h : s.OneDisplay) {id : ℕ}
    {c : ScreenController} (hc : s.controllerMap id = some c) : id = s.mainDisplayId :=
  (h id).mp (by simp [hc])

theorem OneDisplay.exists_main {s : DisplayPowerMgrService} (h : s.OneDisplay) :
    ∃ c, s.controllerMap s.mainDisplayId = some c :=
  Option.isSome_iff_exists.mp ((h s.mainDisplayId).mpr rfl)

def mainState (s : DisplayPowerMgrService) : DisplayState := s.getDisplayStateInner s.mainDisplayId

theorem mainState_eq {s : DisplayPowerMgrService} {c : ScreenController}
    (hc : s.controllerMap s.mainDisplayId = some c) : s.mainState = c.state := by
  rw [mainState, getDisplayStateInner, findController, hc]

theorem mainState_setController (s : DisplayPowerMgrService) (c : ScreenController) :
    (s.setController s.mainDisplayId c).mainState = c.state :=
  mainState_eq (Function.update_self _ _ _)

theorem OneDisplay.of_sameDisplays {a b : DisplayPowerMgrService} (h : a.OneDisplay)
    (hab : SameDisplays a b) : b.OneDisplay := by
  intro id
  rw [hab.2 id, hab.1]
  exact h id

theorem OneDisplay.step {s t : DisplayPowerMgrService} {e : DisplayEvent} (h : s.OneDisplay)
    (hstep : s.step e = some t) : t.OneDisplay :=
  h.of_sameDisplays (step_sameDisplays hstep)

theorem OneDisplay.request_cases {s : DisplayPowerMgrService} (h : s.OneDisplay)
    (isSystem : Bool) (id : ℕ) (state : DisplayState) (reason : StateChangeReason)
    (hw : HwAnswer) :
    (isSystem = true → s.findController id = none) ∧
        s.setDisplayStateInner isSystem id state reason hw = (s, false) ∨
      ∃ c, isSystem = true ∧ s.findController id ≠ none ∧
        s.controllerMap s.mainDisplayId = some c ∧
        Change (s.setBrightnessState state) s.mainDisplayId c state reason hw
          (s.setDisplayStateInner isSystem id state reason hw) := by
  rcases setDisplayStateInner_cases s isSystem id state reason hw with
    ⟨hrejected, heq⟩ | ⟨id', c, hsystem, hfind, hchange⟩
  · refine Or.inl ⟨?_, heq⟩
    intro hsystem
    exact hrejected.resolve_left (by simp [hsystem])
  · have hc := (findController_some hfind).1
    obtain rfl : id' = s.mainDisplayId := h.eq_main hc
    exact Or.inr ⟨c, hsystem, by simp [hfind], hc, hchange⟩

def oneDisplayBoot (state : DisplayState) : DisplayBoot where
  brightness := { state := state }
  displays := Function.update (fun _ => none) 0 (some state)
  commanded := state
  screenPower := state

theorem oneDisplayBoot_start (state : DisplayState) :
    (oneDisplayBoot state).start.OneDisplay := by
  intro id
  by_cases hid : id = 0
  · simp [DisplayBoot.start, oneDisplayBoot, hid]
  · simp [DisplayBoot.start, oneDisplayBoot, hid]

/-- What the stored request says while a screen-off is pending. -/
def StoredOff (s : DisplayPowerMgrService) : Prop :=
  s.OneDisplay ∧ ∀ p ∈ s.screenOffDelayTasks.pending,
    s.displayId = s.mainDisplayId ∧ (s.displayState = .off ∨ s.displayState = .doze)

theorem step_storedOff {s t : DisplayPowerMgrService} {e : DisplayEvent} (h : StoredOff s)
    (hstep : s.step e = some t) : StoredOff t := by
  refine ⟨h.1.step hstep, ?_⟩
  intro p hp
  cases step_delay hstep with
  | kept same =>
    rw [same] at hp ⊢
    exact h.2 p hp
  | submitted id' c _ find _ isOff same =>
    rw [same]
    exact ⟨h.1.eq_main (findController_some find).1, isOff⟩
  | cancelled id' c _ same =>
    rw [same] at hp ⊢
    exact h.2 p (mem_cancelTask.mp hp).1
  | overridden armed ms _ same =>
    rw [same] at hp ⊢
    exact h.2 p hp
  | fired request _ same =>
    rw [same] at hp ⊢
    exact h.2 p (Tasks.mem_remove.mp hp).1

theorem start_storedOff {boot : DisplayBoot} (h : boot.start.OneDisplay) :
    StoredOff boot.start :=
  ⟨h, fun _ hp => absurd hp List.not_mem_nil⟩

theorem updateState_main (s : DisplayPowerMgrService) (c : ScreenController)
    (state : DisplayState) (reason : StateChangeReason) (hw : HwAnswer) :
    (s.updateState s.mainDisplayId c state reason hw).1.mainState =
      (c.updateState s.host state reason hw).1.state :=
  mainState_setController { s with host := (c.updateState s.host state reason hw).2.1 } _

theorem SameScreens.mainState_eq {a b : DisplayPowerMgrService} (h : SameScreens a b) :
    b.mainState = a.mainState := by
  rw [SameScreens] at h
  rw [h]
  rfl

theorem SameScreens.host_eq {a b : DisplayPowerMgrService} (h : SameScreens a b) :
    b.host = { a.host with brightness := b.host.brightness } := congrArg (·.host) h

theorem fire_main {s v : DisplayPowerMgrService} (h : StoredOff s) {task : ℕ}
    {hw : HwAnswer} {c : ScreenController} (hc : s.controllerMap s.mainDisplayId = some c)
    (hfire : s.runScreenOffDelay task hw = some v) :
    v.mainState = (c.updateState s.host s.displayState s.displayReason hw).1.state ∧
      v.host = (c.updateState s.host s.displayState s.displayReason hw).2.1 ∧
      (s.displayState = .off ∨ s.displayState = .doze) := by
  obtain ⟨request, hmem, rfl⟩ := runScreenOffDelay_some hfire
  obtain ⟨hid, hoff⟩ := h.2 _ hmem
  rw [hid, screenOffDelay]
  simp only [hc]
  refine ⟨?_, rfl, hoff⟩
  exact updateState_main { s with
    screenOffDelayTasks := s.screenOffDelayTasks.remove task
    isDisplayDelayOff := false } c s.displayState s.displayReason hw

end DisplayPowerMgrService

end DisplayPowerMgr
