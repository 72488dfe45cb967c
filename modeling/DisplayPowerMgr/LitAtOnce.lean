import DisplayPowerMgr.AutoBrightnessOff
import DisplayPowerMgr.BoostAndOverride

/-! Whether the panel is lit at once. `SetScreenOnBrightness` waits for light whenever a flag is
set that only a brightness update clears, also when the reason to wait has gone since. -/
namespace DisplayPowerMgr

namespace BrightnessService

/-- The brightness to show is known without a light report. -/
def KnowsBrightness (bs : BrightnessService) : Prop :=
  bs.isAutoBrightnessEnabled = false ∨ bs.isBrightnessOverridden = true ∨
    bs.isBrightnessBoosted = true ∨ 0 < bs.brightnessTarget

/-- `SetScreenOnBrightness` commands the level it chose, and submits at most a write of the
setting. -/
structure LightsAtOnce (bs : BrightnessService) : Prop where
  written : bs.setScreenOnBrightness.device.written =
    bs.device.written ++ [(bs.displayId, bs.deviceLevel (bs.getScreenOnBrightness true).2)]
  undeferred : ∀ id task, (id, task) ∈ bs.setScreenOnBrightness.tasks.pending →
    (id, task) ∈ bs.tasks.pending ∨ ∃ value, task = .settingBrightness value

def EndsNoWait (bs : BrightnessService) (e : BrightnessEvent) : Prop :=
  e = .autoAdjustBrightness false → bs.waitForFirstLux = false

instance (bs : BrightnessService) : DecidablePred bs.EndsNoWait :=
  fun e => inferInstanceAs (Decidable (e = _ → _))

theorem getScreenOnBrightness_known {bs : BrightnessService} (h : bs.KnowsBrightness) :
    (bs.getScreenOnBrightness true).1 = bs := by
  rw [getScreenOnBrightness]
  cases hboosted : bs.isBrightnessBoosted with
  | true => rfl
  | false =>
    cases hover : bs.isBrightnessOverridden with
    | true => rfl
    | false =>
      cases hauto : bs.isAutoBrightnessEnabled with
      | false => rfl
      | true =>
        have htarget : 0 < bs.brightnessTarget := by
          simpa [KnowsBrightness, hboosted, hover, hauto] using h
        simp [htarget]

theorem setScreenOnBrightness_waits {bs : BrightnessService}
    (h : (bs.getScreenOnBrightness true).1.waitForFirstLux = true) :
    bs.setScreenOnBrightness.device = bs.device := by
  rw [setScreenOnBrightness]
  dsimp only
  rw [if_pos h, getScreenOnBrightness_fst]
  split
  · rfl
  · rfl

theorem setScreenOnBrightness_lights {bs : BrightnessService} (h : bs.KnowsBrightness)
    (hflag : bs.waitForFirstLux = false) :
    bs.setScreenOnBrightness =
      (bs.updateBrightness (bs.getScreenOnBrightness true).2 0
        !(bs.isBrightnessBoosted || bs.isBrightnessOverridden)).1 := by
  have hknown := getScreenOnBrightness_known h
  rw [setScreenOnBrightness]
  dsimp only
  rw [hknown, if_neg (by simp [hflag])]

theorem mem_updateBrightness_now {bs : BrightnessService} {value : ℕ} {updateSetting : Bool}
    {id : ℕ} {task : BrightnessTask}
    (h : (id, task) ∈ (bs.updateBrightness value 0 updateSetting).1.tasks.pending) :
    (id, task) ∈ bs.tasks.pending ∨ ∃ value, task = .settingBrightness value := by
  rw [updateBrightness_now] at h
  dsimp only at h
  split at h
  · rcases List.mem_append.mp h with hold | hnew
    · exact Or.inl (mem_halted hold)
    · exact Or.inr ⟨_, (Prod.mk.inj (List.mem_singleton.mp hnew)).2⟩
  · exact Or.inl (mem_halted h)

theorem updateBrightness_now_written (bs : BrightnessService) (value : ℕ)
    (updateSetting : Bool) :
    (bs.updateBrightness value 0 updateSetting).1.device.written =
      bs.device.written ++ [(bs.displayId, bs.deviceLevel value)] := by
  rw [updateBrightness_now]
  dsimp only
  split
  · rfl
  · rfl

theorem lightsAtOnce_iff {bs : BrightnessService} (h : bs.KnowsBrightness) :
    bs.LightsAtOnce ↔ bs.waitForFirstLux = false := by
  constructor
  · intro hlit
    by_contra hflag
    have hwaits : (bs.getScreenOnBrightness true).1.waitForFirstLux = true := by
      rw [getScreenOnBrightness_known h]
      simpa using hflag
    have hwritten := hlit.written
    rw [setScreenOnBrightness_waits hwaits] at hwritten
    simp at hwritten
  · intro hflag
    have hlights := setScreenOnBrightness_lights h hflag
    refine ⟨?_, ?_⟩
    · rw [hlights]
      exact updateBrightness_now_written _ _ _
    · intro id task hp
      rw [hlights] at hp
      exact mem_updateBrightness_now hp

/-- `b` waits at most as `a` does: for the light that has not set a target yet. -/
def WaitsAs (a b : BrightnessService) : Prop :=
  b.waitForFirstLux = true → b.brightnessTarget = a.brightnessTarget ∨ b.brightnessTarget = 0

theorem SameControl.waitsAs {a b : BrightnessService} (h : SameControl a b) : WaitsAs a b := by
  intro _
  rw [h]
  exact Or.inl rfl

theorem SameButSensors.waitsAs {a b : BrightnessService} (h : SameButSensors a b) :
    WaitsAs a b := by
  intro _
  rw [h]
  exact Or.inl rfl

theorem updateBrightness_waitsAs (a bs : BrightnessService) (value duration : ℕ)
    (updateSetting : Bool) : WaitsAs a (bs.updateBrightness value duration updateSetting).1 := by
  intro hwaits
  have hover := Timers.updateBrightness_waitOver bs value duration updateSetting
  rw [hover] at hwaits
  cases hwaits

theorem setDisplayState_waitsAs (bs : BrightnessService) (state : DisplayState) :
    WaitsAs bs (bs.setDisplayState state) := by
  intro _
  have hmode : (bs.setDisplayState state).brightnessTarget =
      (bs.config.enter bs.mode state).brightnessTarget :=
    congrArg BrightnessMode.brightnessTarget (setDisplayState_mode bs state).2
  have henter : (bs.config.enter bs.mode state).brightnessTarget = bs.brightnessTarget ∨
      (bs.config.enter bs.mode state).brightnessTarget = 0 := by
    cases state with
    | off => exact Or.inr rfl
    | dim =>
      left
      rw [BrightnessConfig.enter, BrightnessConfig.settle]
      split
      · rfl
      · split
        · rfl
        · rfl
    | _ => exact Or.inl rfl
  rw [hmode]
  exact henter

theorem setBrightness_waitsAs (bs : BrightnessService) (value duration : ℕ)
    (continuous : Bool) : WaitsAs bs (bs.setBrightness value duration continuous).1 := by
  rw [setBrightness]
  split
  · exact fun _ => Or.inl rfl
  · exact updateBrightness_waitsAs _ _ _ _ _

theorem discountBrightness_waitsAs (bs : BrightnessService) (discount : ℚ) (duration : ℕ) :
    WaitsAs bs (bs.discountBrightness discount duration).1 := by
  by_cases hon : bs.isScreenOn = true
  · rw [discountBrightness_eq hon]
    exact updateBrightness_waitsAs _ _ _ _ _
  · rw [discountBrightness, canDiscountBrightness, if_pos (by simp [hon])]
    exact fun _ => Or.inl rfl

theorem boostBrightness_waitsAs (bs : BrightnessService) (duration : ℕ) :
    WaitsAs bs (bs.boostBrightness duration).1 := by
  have hsame := updateBrightness_sameControl { bs with isBrightnessBoosted := true }
    bs.param.maxBrightness duration false
  have htarget := congrArg BrightnessMode.brightnessTarget hsame.mode
  rw [boostBrightness]
  by_cases hrefused : (!bs.canBoostBrightness || !bs.hasQueue) = true
  · rw [if_pos hrefused]
    exact fun _ => Or.inl rfl
  · rw [if_neg hrefused]
    by_cases hboosted : bs.isBrightnessBoosted = true
    · rw [if_pos hboosted]
      exact fun _ => Or.inl rfl
    · rw [if_neg hboosted]
      exact fun _ => Or.inl htarget

theorem changeMaxBrightness_waitsAs (bs : BrightnessService) (maxValue : ℕ) :
    WaitsAs bs (bs.changeMaxBrightness maxValue).1 := by
  rw [changeMaxBrightness, followMaxBrightness]
  split
  · exact fun _ => Or.inl rfl
  · split
    · exact updateBrightness_waitsAs _ _ _ _ _
    · split
      · exact fun _ => Or.inl rfl
      · exact updateBrightness_waitsAs _ _ _ _ _

theorem processLightLux_waitsAs {bs t : BrightnessService} {lux : ℚ} {currentTime : ℤ}
    (ht : bs.processLightLux lux currentTime = some t) : WaitsAs bs t := by
  rcases Timers.processLightLux_cases ht with rfl | ⟨m, rfl | rfl⟩
  · exact fun _ => Or.inl rfl
  · exact fun _ => Or.inl rfl
  · rw [updateCurrentBrightnessLevel]
    dsimp only
    split
    · exact updateBrightness_waitsAs _ _ _ _ _
    · exact fun _ => Or.inl rfl

theorem autoAdjustBrightness_waitsAs (bs : BrightnessService) (enable : Bool) :
    WaitsAs bs (bs.autoAdjustBrightness enable).1 := by
  rw [autoAdjustBrightness]
  split
  · exact fun _ => Or.inl rfl
  · split
    · split
      · exact fun _ => Or.inl rfl
      · exact (activateValidAmbientSensor_same { bs with
          isAutoBrightnessEnabled := true }).waitsAs
    · split
      · exact fun _ => Or.inl rfl
      · exact (deactivateAllAmbientSensor_same bs).waitsAs

theorem onFoldStatusChanged_waitsAs (bs : BrightnessService) (foldStatus : FoldStatus) :
    WaitsAs bs (bs.onFoldStatusChanged foldStatus) := by
  by_cases hlast : bs.lastFoldStatus = foldStatus
  · rw [onFoldStatusChanged, if_pos hlast]
    exact fun _ => Or.inl rfl
  · obtain ⟨displayId, u, hupdate, hu⟩ := onFoldStatusChanged_changes hlast
    intro _
    have hsensors := foldSensors_same (bs.setDisplayId displayId) foldStatus
    rw [hu]
    refine Or.inl ?_
    have htarget : u.brightnessTarget =
        ((bs.setDisplayId displayId).foldSensors foldStatus).brightnessTarget :=
      congrArg BrightnessMode.brightnessTarget hupdate.mode
    refine htarget.trans ?_
    rw [hsensors]
    rfl

theorem runTask_waitsAs {bs t : BrightnessService} {id : ℕ} (ht : bs.runTask id = some t) :
    WaitsAs bs t := by
  obtain ⟨task, _, rfl⟩ := Option.map_eq_some_iff.mp ht
  cases task with
  | nextStep => exact (nextStep_sameControl { bs with tasks := bs.tasks.remove id }).waitsAs
  | settingBrightness value => exact fun _ => Or.inl rfl
  | dimmingSettingBrightness value => exact fun _ => Or.inl rfl
  | cancelBoostBrightness duration =>
    rw [perform, cancelBoostBrightness]
    split
    · exact fun _ => Or.inl rfl
    · exact updateBrightness_waitsAs _ _ _ _ _
  | waitForFirstLux value => exact updateBrightness_waitsAs _ _ _ _ _

theorem step_waitsAs {bs t : BrightnessService} {e : BrightnessEvent}
    (ht : bs.step e = some t) : WaitsAs bs t := by
  cases e with
  | setDisplayState state => exact Option.some.inj ht ▸ setDisplayState_waitsAs bs state
  | setScreenOnBrightness =>
    have hmode := congrArg BrightnessMode.brightnessTarget (setScreenOnBrightness_mode bs).1
    exact Option.some.inj ht ▸ fun _ => Or.inl hmode
  | setBrightness value duration continuous =>
    exact Option.some.inj ht ▸ setBrightness_waitsAs bs value duration continuous
  | discountBrightness discount duration =>
    exact Option.some.inj ht ▸ discountBrightness_waitsAs bs discount duration
  | overrideBrightness value duration =>
    have hmode := (overrideBrightness_mode bs value duration).2
    refine Option.some.inj ht ▸ fun _ => Or.inl ?_
    refine (congrArg BrightnessMode.brightnessTarget hmode).trans ?_
    split
    · rfl
    · rfl
  | restoreBrightness duration =>
    have hmode := congrArg BrightnessMode.brightnessTarget (restoreBrightness_mode bs duration).2
    exact Option.some.inj ht ▸ fun _ => Or.inl hmode
  | boostBrightness duration => exact Option.some.inj ht ▸ boostBrightness_waitsAs bs duration
  | cancelBoostBrightness duration =>
    rw [← Option.some.inj ht, cancelBoostBrightness]
    split
    · exact fun _ => Or.inl rfl
    · exact updateBrightness_waitsAs _ _ _ _ _
  | setMaxBrightness value =>
    exact Option.some.inj ht ▸ changeMaxBrightness_waitsAs bs (bs.maxValueOf value)
  | setMaxBrightnessNit maxNit =>
    exact Option.some.inj ht ▸ changeMaxBrightness_waitsAs bs (getBrightnessLevelFromNit maxNit)
  | processLightLux lux currentTime => exact processLightLux_waitsAs ht
  | autoAdjustBrightness enable =>
    exact Option.some.inj ht ▸ autoAdjustBrightness_waitsAs bs enable
  | clearOffset => exact Option.some.inj ht ▸ fun _ => Or.inr rfl
  | onFoldStatusChanged foldStatus =>
    exact Option.some.inj ht ▸ onFoldStatusChanged_waitsAs bs foldStatus
  | foldDisplayModeChanged mode => exact Option.some.inj ht ▸ fun _ => Or.inl rfl
  | setDisplayId displayId => exact Option.some.inj ht ▸ fun _ => Or.inl rfl
  | runTask id => exact runTask_waitsAs ht

theorem step_begins {bs t : BrightnessService} {e : BrightnessEvent}
    (hon : e ≠ .setScreenOnBrightness) (ht : bs.step e = some t)
    (hwaits : t.waitForFirstLux = true) : bs.waitForFirstLux = true := by
  have hkeeps {v : Timers} (h : Timers.Moves bs.timers v) (hv : v.waitForFirstLux = true) :
      bs.waitForFirstLux = true := by
    refine h.keeps (J := fun u => u.waitForFirstLux = true → bs.waitForFirstLux = true) ?_ id hv
    intro u w hmove hu hw
    cases hmove with
    | boostEnded =>
      rw [Timers.endBoost] at hw
      split at hw
      · exact hu hw
      · exact hu hw
    | boostExpired =>
      rw [Timers.endBoost] at hw
      split at hw
      · exact hu hw
      · exact hu hw
    | lightArrived => cases hw
    | waitOver => cases hw
    | overridden => cases hw
    | _ => exact hu hw
  by_cases hboost : bs.AcceptsBoost e
  · cases e with
    | boostBrightness duration =>
      obtain ⟨v, hmoves, _, _, _, hv⟩ := Timers.boostBrightness_moves hboost
      have hflag : t.timers.waitForFirstLux = (v.boost duration).waitForFirstLux := by
        rw [← Option.some.inj ht, hv]
      exact hkeeps hmoves (hflag.symm.trans hwaits)
    | _ => exact absurd hboost id
  · exact hkeeps (Timers.step_moves hon hboost ht) hwaits

theorem not_knowsBrightness {bs : BrightnessService} :
    ¬ bs.KnowsBrightness ↔
      bs.isAutoBrightnessEnabled = true ∧ bs.isBrightnessOverridden = false ∧
        bs.isBrightnessBoosted = false ∧ bs.brightnessTarget = 0 := by
  simp [KnowsBrightness]

end BrightnessService

namespace LitAtOnce

open BrightnessService

def AlwaysLit : Prop :=
  ∀ boot : BrightnessBoot, boot.hasQueue = true → ∀ es s,
    Runs.run step boot.start es = some s → s.KnowsBrightness → s.LightsAtOnce

theorem setScreenOnBrightness_unknown {bs : BrightnessService}
    (hlit : bs.KnowsBrightness → bs.LightsAtOnce)
    (hwaits : bs.setScreenOnBrightness.waitForFirstLux = true) :
    ¬ bs.KnowsBrightness := by
  intro hknows
  have hflag := (lightsAtOnce_iff hknows).mp (hlit hknows)
  rw [setScreenOnBrightness_lights hknows hflag,
    Timers.updateBrightness_waitOver] at hwaits
  cases hwaits

theorem step_keeps_auto {bs t : BrightnessService} {e : BrightnessEvent}
    (hreach : Reachable bs) (hwaits : bs.waitForFirstLux = true) (hends : bs.EndsNoWait e)
    (ht : bs.step e = some t) (hauto : bs.isAutoBrightnessEnabled = true) :
    t.isAutoBrightnessEnabled = true := by
  cases e with
  | setDisplayState state =>
    have hmode := Option.some.inj ht ▸ setDisplayState_autoMode bs state
    exact (congrArg AutoMode.isAutoBrightnessEnabled hmode).trans hauto
  | autoAdjustBrightness enable =>
    cases enable with
    | false => exact absurd (hwaits.symm.trans (hends rfl)) (by simp)
    | true =>
      have hmode := Option.some.inj ht ▸ autoAdjustBrightness_autoMode bs true
      refine (congrArg AutoMode.isAutoBrightnessEnabled hmode).trans ?_
      exact if_pos (hreach.supportsAuto hauto)
  | _ =>
    have hmode := step_autoMode (by simp) (by simp) ht
    exact (congrArg AutoMode.isAutoBrightnessEnabled hmode).trans hauto

theorem step_lit {bs t : BrightnessService} {e : BrightnessEvent} (hreach : Reachable bs)
    (hlit : bs.KnowsBrightness → bs.LightsAtOnce) (hends : bs.EndsNoWait e)
    (ht : bs.step e = some t) : t.KnowsBrightness → t.LightsAtOnce := by
  intro hknows
  apply (lightsAtOnce_iff hknows).mpr
  by_contra hflag
  have hwaits : t.waitForFirstLux = true := by simpa using hflag
  have hfree := (BoostAndOverride.Reachable.oneEnd (Runs.Reachable.next hreach ht)).waits hwaits
  apply absurd hknows
  apply not_knowsBrightness.mpr
  by_cases hon : e = .setScreenOnBrightness
  · subst hon
    have hsame := Option.some.inj ht
    have hunknown := not_knowsBrightness.mp
      (setScreenOnBrightness_unknown hlit (hsame ▸ hwaits))
    have hmode := congrArg BrightnessMode.brightnessTarget (setScreenOnBrightness_mode bs).1
    have hauto := congrArg (fun m : Setup => m.autoMode.isAutoBrightnessEnabled)
      (setScreenOnBrightness_butRequests bs).setup
    rw [hsame] at hmode hauto
    exact ⟨hauto.trans hunknown.1, hfree.1, hfree.2, hmode.trans hunknown.2.2.2⟩
  · have hwaited := step_begins hon ht hwaits
    have hunknown : ¬ bs.KnowsBrightness := by
      intro hbs
      exact absurd (hwaited.symm.trans ((lightsAtOnce_iff hbs).mp (hlit hbs))) (by simp)
    obtain ⟨hauto, _, _, htarget⟩ := not_knowsBrightness.mp hunknown
    refine ⟨step_keeps_auto hreach hwaited hends ht hauto, hfree.1, hfree.2, ?_⟩
    rcases step_waitsAs ht hwaits with hsame | hzero
    · exact hsame.trans htarget
    · exact hzero

/-- Switching the automatic mode off during a wait leaves a wait without a reason. -/
theorem endsNoWait_of_lit {bs : BrightnessService} {e : BrightnessEvent} (hreach : Reachable bs)
    (hlit : bs.KnowsBrightness → bs.LightsAtOnce)
    (hkeeps : ∀ t, bs.step e = some t → t.KnowsBrightness → t.LightsAtOnce) :
    bs.EndsNoWait e := by
  rintro rfl
  by_contra hflag
  have hwaits : bs.waitForFirstLux = true := by simpa using hflag
  have hunknown : ¬ bs.KnowsBrightness := by
    intro hbs
    exact hflag ((lightsAtOnce_iff hbs).mp (hlit hbs))
  have hsupport := hreach.supportsAuto (not_knowsBrightness.mp hunknown).1
  have hmode := congrArg AutoMode.isAutoBrightnessEnabled (autoAdjustBrightness_autoMode bs false)
  have hoff : (bs.autoAdjustBrightness false).1.isAutoBrightnessEnabled = false :=
    hmode.trans (if_pos hsupport)
  have htimers := congrArg Timers.waitForFirstLux (Timers.autoAdjustBrightness_timers bs false)
  have hstill : (bs.autoAdjustBrightness false).1.waitForFirstLux = true := htimers.trans hwaits
  have hlights := hkeeps _ rfl (Or.inl hoff)
  have hover := (lightsAtOnce_iff (Or.inl hoff)).mp hlights
  exact absurd (hstill.symm.trans hover) (by simp)

/-- In every state of a run the panel is lit at once when its brightness is known, exactly as long
as the automatic mode is never switched off while the service waits for light. -/
theorem lit_at_once_iff (boot : BrightnessBoot) (es : List BrightnessEvent) :
    Runs.Always step
        (fun s e => ∀ t, s.step e = some t → t.KnowsBrightness → t.LightsAtOnce) boot.start es ↔
      Runs.Always step EndsNoWait boot.start es := by
  refine Runs.always_keeps_iff (J := Reachable) (P := fun _ => True)
    (A := fun s => s.KnowsBrightness → s.LightsAtOnce) ?_ ?_ ?_ ?_ (fun _ _ => trivial)
  · intro s e t hs _ ht
    exact Runs.Reachable.next hs ht
  · intro s e hs hlit _
    constructor
    · intro hends t ht
      exact step_lit hs hlit hends ht
    · intro hkeeps
      exact endsNoWait_of_lit hs hlit hkeeps
  · exact ⟨boot.start, [], ⟨boot, rfl⟩, rfl⟩
  · intro hknows
    exact (lightsAtOnce_iff hknows).mpr rfl

/-- The screen is turned on in the automatic mode and waits for light; the mode is switched off,
and turning the screen on waits again. -/
theorem waits_without_reason : ¬ AlwaysLit := by
  intro h
  have hlit := h { isSupportLightSensor := true, state := .on } rfl
    [.autoAdjustBrightness true, .setScreenOnBrightness, .autoAdjustBrightness false] _ rfl
    (Or.inl (by decide +kernel))
  have hflag := (lightsAtOnce_iff (Or.inl (by decide +kernel))).mp hlit
  exact absurd hflag (by decide +kernel)

end LitAtOnce

end DisplayPowerMgr
