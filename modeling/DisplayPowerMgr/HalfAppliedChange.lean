import DisplayPowerMgr.MultiScreen

/-! A change of a screen that only one of its two commands carried out. Both are issued whatever
the first was answered, and the undo tells the brightness layer alone. -/
namespace DisplayPowerMgr

open ScreenAction

namespace MultiScreenService

/-- What the display of a screen took last is what the cached state stands for. -/
structure MatchesCache (s : MultiScreenService) (id : ℕ) : Prop where
  displayState : s.screens.displayState (s.getDisplayId id) = parseDisplayState (s.getState id)
  screenPower : s.screens.screenPower (s.getDisplayId id) = parseScreenPowerState (s.getState id)

variable {s : MultiScreenService} {r : MultiScreenRequest} {hw : MultiScreenAnswer}

theorem commanded_displayState : (s.commanded r hw).screens.displayState =
    if hw.setDisplayState then
      Function.update s.screens.displayState (r.displayId % 2 ^ 32) (parseDisplayState r.state)
    else s.screens.displayState :=
  s.screens.command_displayState _ _ _ _

theorem commanded_screenPower : (s.commanded r hw).screens.screenPower =
    if hw.setScreenPower then
      Function.update s.screens.screenPower (r.displayId % 2 ^ 32) (parseScreenPowerState r.state)
    else s.screens.screenPower :=
  s.screens.command_screenPower _ _ _ _

theorem failed_eq (h : (s.setMultiScreenDisplayStateInner r hw).2 = .stateChangeFailed) :
    checkRequest r = .ok ∧ s.getState r.displayId ≠ r.state ∧
      (s.setMultiScreenDisplayStateInner r hw).1.getState r.displayId = s.getState r.displayId ∧
      (s.setMultiScreenDisplayStateInner r hw).1.screens = (s.commanded r hw).screens := by
  have hend := s.outcome r hw
  generalize s.setMultiScreenDisplayStateInner r hw = result at h hend
  cases hend with
  | refused hcheck =>
    have hpermission : checkPermission r.caller ≠ .stateChangeFailed := by
      rw [checkPermission]
      split
      · simp
      · split
        · simp
        · simp
    rw [checkRequest] at h
    split at h
    · exact absurd h hpermission
    · split at h
      · cases h
      · split at h
        · cases h
        · cases h
  | same => cases h
  | changed => cases h
  | failed admitted hnew fails =>
    refine ⟨admitted, hnew, ?_, undoSetDisplayStateInner_screens _ _ _ _⟩
    rw [getState, controllerOf, undoSetDisplayStateInner_controllerMap]
    exact getState_commanded s r hw r.displayId

/-- The command that was carried out asked for another state than the cached one. -/
theorem half_applied_never_matches (s : MultiScreenService) (r : MultiScreenRequest)
    (hw : MultiScreenAnswer)
    (h : (s.setMultiScreenDisplayStateInner r hw).2 = .stateChangeFailed)
    (half : hw.setDisplayState ≠ hw.setScreenPower) :
    ¬ (s.setMultiScreenDisplayStateInner r hw).1.MatchesCache r.displayId := by
  obtain ⟨hcheck, hnew, hcached, hscreens⟩ := failed_eq h
  have hstate := checkRequest_state hcheck
  rintro ⟨hdisplay, hpower⟩
  rw [getDisplayId_eq, hcached, hscreens] at hdisplay hpower
  cases hset : hw.setDisplayState with
  | true =>
    rw [commanded_displayState, if_pos hset, Function.update_self] at hdisplay
    exact hnew (parseDisplayState_injOn hstate hdisplay.symm)
  | false =>
    have hset' : hw.setScreenPower = true := by
      cases hw' : hw.setScreenPower with
      | true => rfl
      | false => exact absurd (hset.trans hw'.symm) half
    rw [commanded_screenPower, if_pos hset', Function.update_self] at hpower
    exact hnew (parseScreenPowerState_injOn hstate hpower.symm)

def litScreen : MultiScreenService :=
  (setMultiScreenDisplayStateInner { brightness := .wrapper fun _ => none }
    { displayId := 1, state := .on } {}).1

theorem power_refused_leaves_display_off :
    ¬ ∀ (s : MultiScreenService) (r : MultiScreenRequest) (hw : MultiScreenAnswer),
      (s.setMultiScreenDisplayStateInner r hw).2 = .stateChangeFailed →
      hw.setDisplayState ≠ hw.setScreenPower →
      (s.setMultiScreenDisplayStateInner r hw).1.MatchesCache r.displayId := by
  intro h
  have hmatch := h litScreen { displayId := 1, state := .off } { setScreenPower := false } rfl
    (by decide)
  exact absurd hmatch.displayState (by decide +kernel)

theorem lit_screen_never_matches :
    ¬ (litScreen.setMultiScreenDisplayStateInner { displayId := 1, state := .off }
      { setScreenPower := false }).1.MatchesCache 1 :=
  half_applied_never_matches litScreen { displayId := 1, state := .off }
    { setScreenPower := false } rfl (by decide)

/-- The request for the old state that would repair it is skipped. -/
theorem half_applied_stays (caller : Caller) (screenName : String) (reason : StateChangeReason)
    (hw' : MultiScreenAnswer)
    (h : (s.setMultiScreenDisplayStateInner r hw).2 = .stateChangeFailed) :
    ((s.setMultiScreenDisplayStateInner r hw).1.setMultiScreenDisplayStateInner
      ⟨caller, r.displayId, screenName, s.getState r.displayId, reason⟩ hw').1.screens =
      (s.commanded r hw).screens := by
  obtain ⟨-, -, hcached, hscreens⟩ := failed_eq h
  generalize (s.setMultiScreenDisplayStateInner r hw).1 = t at hcached hscreens
  have hend := t.outcome ⟨caller, r.displayId, screenName, s.getState r.displayId, reason⟩ hw'
  generalize t.setMultiScreenDisplayStateInner _ hw' = result at hend
  cases hend with
  | refused => exact hscreens
  | same => exact hscreens
  | failed _ hnew => exact absurd hcached hnew
  | changed _ hnew => exact absurd hcached hnew

end MultiScreenService

end DisplayPowerMgr
