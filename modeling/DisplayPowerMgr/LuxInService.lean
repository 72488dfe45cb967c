import DisplayPowerMgr.AutoBrightnessOff
import DisplayPowerMgr.LuxInvariants
import DisplayPowerMgr.FilteredLevel

/-! The filter inside `BrightnessService`: whatever the service goes through, it calls
`LightLuxManager` as the runs of `LuxTrace` do, so that what they keep holds in every service. -/
namespace DisplayPowerMgr

namespace BrightnessService

variable {a b c bs t : BrightnessService}

def KeepsFilter (a b : BrightnessService) : Prop :=
  b.lightLuxManager = a.lightLuxManager ∨ b.lightLuxManager = a.lightLuxManager.clearLuxData

theorem KeepsFilter.refl (a : BrightnessService) : KeepsFilter a a := .inl rfl

theorem KeepsFilter.trans (hab : KeepsFilter a b) (hbc : KeepsFilter b c) : KeepsFilter a c := by
  rw [KeepsFilter] at *
  rcases hab with hab | hab
  · rw [hab] at hbc
    exact hbc
  · rw [hab] at hbc
    -- to clear twice is to clear once
    exact .inr (hbc.elim id id)

theorem SameControl.keepsFilter (h : SameControl a b) : KeepsFilter a b := by
  rw [h]
  exact .inl rfl

theorem keepsFilter_of_setup (h : b.setup = a.setup) : KeepsFilter a b :=
  .inl (congrArg Setup.lightLuxManager h)

theorem activateAmbientSensor_keepsFilter (bs : BrightnessService) :
    KeepsFilter bs bs.activateAmbientSensor := by
  rw [activateAmbientSensor]
  split
  · exact .inl rfl
  · exact .refl _

theorem activateAmbientSensor1_keepsFilter (bs : BrightnessService) :
    KeepsFilter bs bs.activateAmbientSensor1 := by
  rw [activateAmbientSensor1]
  split
  · exact .inl rfl
  · exact .refl _

theorem deactivateAmbientSensor_keepsFilter (bs : BrightnessService) :
    KeepsFilter bs bs.deactivateAmbientSensor := by
  rw [deactivateAmbientSensor]
  split
  · exact .inr rfl
  · exact .refl _

theorem deactivateAmbientSensor1_keepsFilter (bs : BrightnessService) :
    KeepsFilter bs bs.deactivateAmbientSensor1 := by
  rw [deactivateAmbientSensor1]
  split
  · exact .inr rfl
  · exact .refl _

theorem activateValidAmbientSensor_keepsFilter (bs : BrightnessService) :
    KeepsFilter bs bs.activateValidAmbientSensor := by
  rw [activateValidAmbientSensor]
  split
  · exact activateAmbientSensor_keepsFilter bs
  · split
    · exact activateAmbientSensor_keepsFilter bs
    · split
      · exact activateAmbientSensor1_keepsFilter bs
      · exact .refl _

theorem deactivateAllAmbientSensor_keepsFilter (bs : BrightnessService) :
    KeepsFilter bs bs.deactivateAllAmbientSensor := by
  rw [deactivateAllAmbientSensor]
  split
  · exact deactivateAmbientSensor_keepsFilter bs
  · exact (deactivateAmbientSensor_keepsFilter bs).trans (deactivateAmbientSensor1_keepsFilter _)

theorem enterState_keepsFilter (bs : BrightnessService) (state : DisplayState) :
    KeepsFilter bs (bs.enterState state) := by
  have hstate : KeepsFilter bs { bs with state := state } := .inl rfl
  apply hstate.trans
  rw [enterState, stateChangedSetAutoBrightness]
  dsimp only
  split
  · exact .inl rfl
  · split
    · split
      · exact .refl _
      · exact activateValidAmbientSensor_keepsFilter _
    · split
      · exact .refl _
      · exact deactivateAllAmbientSensor_keepsFilter _

theorem foldSensors_keepsFilter (bs : BrightnessService) (foldStatus : FoldStatus) :
    KeepsFilter bs (bs.foldSensors foldStatus) := by
  have hunfold (sensorId : ℕ) (c d : Bool) : KeepsFilter bs
      (if c then { bs with currentSensorId := sensorId }.activateAmbientSensor
      else if d then { bs with currentSensorId := sensorId }.activateAmbientSensor1
      else { bs with currentSensorId := sensorId }) := by
    have hset : KeepsFilter bs { bs with currentSensorId := sensorId } := .inl rfl
    split
    · exact hset.trans (activateAmbientSensor_keepsFilter _)
    · split
      · exact hset.trans (activateAmbientSensor1_keepsFilter _)
      · exact hset
  cases foldStatus with
  | unknown => exact .refl _
  | expand => exact hunfold _ _ _
  | folded => exact hunfold _ _ _
  | halfFold =>
    unfold foldSensors
    dsimp only
    split
    · exact deactivateAmbientSensor_keepsFilter bs
    · split
      · exact deactivateAmbientSensor1_keepsFilter bs
      · exact .refl _

theorem onFoldStatusChanged_keepsFilter (bs : BrightnessService) (foldStatus : FoldStatus) :
    KeepsFilter bs (bs.onFoldStatusChanged foldStatus) := by
  by_cases hlast : bs.lastFoldStatus = foldStatus
  · rw [onFoldStatusChanged, if_pos hlast]
    exact .refl _
  · obtain ⟨displayId, u, hupdate, hu⟩ := onFoldStatusChanged_changes hlast
    rw [hu]
    exact (foldSensors_keepsFilter (bs.setDisplayId displayId) foldStatus).trans
      hupdate.keepsFilter

theorem autoAdjustBrightness_keepsFilter (bs : BrightnessService) (enable : Bool) :
    KeepsFilter bs (bs.autoAdjustBrightness enable).1 := by
  rw [autoAdjustBrightness]
  split
  · exact .inl rfl
  · split
    · split
      · exact .refl _
      · exact activateValidAmbientSensor_keepsFilter { bs with isAutoBrightnessEnabled := true }
    · split
      · exact .refl _
      · exact deactivateAllAmbientSensor_keepsFilter bs

theorem setDisplayState_keepsFilter (bs : BrightnessService) (state : DisplayState) :
    KeepsFilter bs (bs.setDisplayState state) := by
  apply (enterState_keepsFilter bs state).trans
  exact keepsFilter_of_setup (setDisplayState_butRequests bs state).setup

theorem processLightLux_filter {lux : ℚ} {currentTime : ℤ}
    (ht : bs.processLightLux lux currentTime = some t) :
    t.lightLuxManager = bs.lightLuxManager ∨ ∃ isNeed,
      bs.lightLuxManager.isNeedUpdateBrightness lux currentTime =
        some (t.lightLuxManager, isNeed) := by
  rw [processLightLux] at ht
  split at ht
  · exact .inl (by rw [Option.some.inj ht])
  · obtain ⟨⟨m, isNeed⟩, hreading, hrest⟩ := Option.bind_eq_some_iff.mp ht
    obtain rfl := Option.some.inj hrest
    refine .inr ⟨isNeed, ?_⟩
    rw [hreading]
    split
    · rw [(updateCurrentBrightnessLevel_chosen _ _ _).2]
    · rfl

/-- What an event of the service is for its filter. -/
theorem step_filter {e : BrightnessEvent} (ht : bs.step e = some t) :
    KeepsFilter bs t ∨ ∃ lux currentTime isNeed,
      bs.lightLuxManager.isNeedUpdateBrightness lux currentTime =
        some (t.lightLuxManager, isNeed) := by
  cases e with
  | processLightLux lux currentTime =>
    rcases processLightLux_filter ht with hsame | ⟨isNeed, hreading⟩
    · exact .inl (.inl hsame)
    · exact .inr ⟨lux, currentTime, isNeed, hreading⟩
  | setDisplayState state =>
    exact .inl (Option.some.inj ht ▸ setDisplayState_keepsFilter bs state)
  | autoAdjustBrightness enable =>
    exact .inl (Option.some.inj ht ▸ autoAdjustBrightness_keepsFilter bs enable)
  | onFoldStatusChanged foldStatus =>
    exact .inl (Option.some.inj ht ▸ onFoldStatusChanged_keepsFilter bs foldStatus)
  | _ => exact .inl (keepsFilter_of_setup (step_setup (by trivial) ht))

/-- The filter of the service is where some run of readings and clears leads. -/
def Filters (modeArray : List (String × LuxThresholdMode)) (bs : BrightnessService) : Prop :=
  ∃ calls s, Runs.run LuxTrace.step (LuxTrace.start modeArray) calls = some s ∧
    s.manager = bs.lightLuxManager

variable {modeArray : List (String × LuxThresholdMode)}

theorem filters_step (h : bs.Filters modeArray) {e : BrightnessEvent} (ht : bs.step e = some t) :
    t.Filters modeArray := by
  obtain ⟨calls, s, hs, hmanager⟩ := h
  rcases step_filter ht with (hsame | hcleared) | ⟨lux, currentTime, isNeed, hreading⟩
  · exact ⟨calls, s, hs, hmanager.trans hsame.symm⟩
  · refine ⟨calls ++ [.clearLuxData], _,
      Runs.run_append_some.mpr ⟨s, hs, Runs.run_cons_some.mpr ⟨_, rfl, rfl⟩⟩, ?_⟩
    rw [hcleared, ← hmanager]
  · rw [← hmanager] at hreading
    refine ⟨calls ++ [.isNeedUpdateBrightness lux currentTime],
      s.remember lux currentTime t.lightLuxManager,
      Runs.run_append_some.mpr ⟨s, hs, Runs.run_cons_some.mpr ⟨_, ?_, rfl⟩⟩, rfl⟩
    rw [LuxTrace.step, hreading]
    rfl

theorem run_filters (boot : BrightnessBoot) {events : List BrightnessEvent}
    (hr : Runs.run step boot.start events = some bs) : bs.Filters boot.modeArray := by
  refine Runs.run_invariant (C := fun _ _ => True) (fun _ _ _ hs _ ht => filters_step hs ht)
    ?_ (Runs.always_of_forall (fun _ _ _ => trivial) _) hr
  exact ⟨[], LuxTrace.start boot.modeArray, rfl, rfl⟩

theorem Reachable.filter_sound (h : bs.Reachable) : bs.lightLuxManager.Sound := by
  obtain ⟨_, events, ⟨boot, rfl⟩, hr⟩ := h
  obtain ⟨calls, s, hs, hmanager⟩ := run_filters boot hr
  rw [← hmanager]
  exact LuxTrace.run_manager_sound hs

/-- `ClearOffset` takes the offset of the user back in every service. -/
theorem Reachable.clearOffset_resets (h : bs.Reachable) :
    bs.clearOffset.calculationManager.NoOffset :=
  DisplayPowerMgr.clearOffset_resets h.filter_sound.filteredLux

theorem light_report_safe {boot : BrightnessBoot} {mode : LuxThresholdMode}
    (hmode : boot.modeArray.lookup "DefaultMode" = some mode) {events : List BrightnessEvent}
    (hr : Runs.run step boot.start events = some bs) (lux : ℚ) (currentTime : ℤ) :
    ∃ t, bs.processLightLux lux currentTime = some t := by
  obtain ⟨calls, s, hs, hmanager⟩ := run_filters boot hr
  obtain ⟨s', hs', hsound⟩ := LuxTrace.run_isSome (LuxTrace.sound_start hmode) calls
  obtain rfl := Option.some.inj (hs.symm.trans hs')
  obtain ⟨_, _, _, hreading, _⟩ := LightLuxManager.reading_spec hsound.manager hsound.mode lux
    currentTime
  rw [hmanager] at hreading
  rw [processLightLux]
  split
  · exact ⟨bs, rfl⟩
  · rw [hreading]
    exact ⟨_, rfl⟩

end BrightnessService

end DisplayPowerMgr
