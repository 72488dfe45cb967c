import DisplayPowerMgr.AutoBrightnessSwitch

/-! The two ways to switch automatic brightness off, by a call and by the setting, and what each
leaves of the offset, the target and the fade. -/
namespace DisplayPowerMgr

namespace BrightnessService

theorem changeMaxBrightness_setup (bs : BrightnessService) (maxValue : ℕ) :
    (bs.changeMaxBrightness maxValue).1.setup = bs.setup := by
  rw [changeMaxBrightness]
  split
  · rfl
  · exact (followMaxBrightness_butRequests (bs.storeMaxBrightness maxValue)).setup

/-- The events that are not about the automatic mode, the sensors or the light. -/
def LeavesSetup : BrightnessEvent → Prop
  | .setDisplayState _ => False
  | .autoAdjustBrightness _ => False
  | .onFoldStatusChanged _ => False
  | .processLightLux .. => False
  | _ => True

theorem step_setup {bs t : BrightnessService} {e : BrightnessEvent} (h : LeavesSetup e)
    (ht : bs.step e = some t) : t.setup = bs.setup := by
  cases e with
  | setDisplayState state => exact h.elim
  | autoAdjustBrightness enable => exact h.elim
  | onFoldStatusChanged foldStatus => exact h.elim
  | processLightLux lux currentTime => exact h.elim
  | discountBrightness discount duration =>
    exact Option.some.inj ht ▸ (discountBrightness_butRequests bs discount duration).setup
  | setMaxBrightness value =>
    exact Option.some.inj ht ▸ changeMaxBrightness_setup bs (bs.maxValueOf value)
  | setMaxBrightnessNit maxNit =>
    exact Option.some.inj ht ▸ changeMaxBrightness_setup bs (getBrightnessLevelFromNit maxNit)
  | foldDisplayModeChanged mode => exact Option.some.inj ht ▸ rfl
  | setDisplayId displayId => exact Option.some.inj ht ▸ rfl
  | _ => exact (step_butRequests (by trivial) ht).setup

theorem processLightLux_autoMode {bs t : BrightnessService} {lux : ℚ} {currentTime : ℤ}
    (ht : bs.processLightLux lux currentTime = some t) : t.autoMode = bs.autoMode :=
  congrArg Setup.autoMode (processLightLux_butRequests ht).setup

theorem step_autoMode {bs t : BrightnessService} {e : BrightnessEvent}
    (hstate : ∀ state, e ≠ .setDisplayState state)
    (hswitch : ∀ enable, e ≠ .autoAdjustBrightness enable) (ht : bs.step e = some t) :
    t.autoMode = bs.autoMode := by
  cases e with
  | setDisplayState state => exact absurd rfl (hstate state)
  | autoAdjustBrightness enable => exact absurd rfl (hswitch enable)
  | processLightLux lux currentTime => exact processLightLux_autoMode ht
  | onFoldStatusChanged foldStatus =>
    exact Option.some.inj ht ▸ onFoldStatusChanged_autoMode bs foldStatus
  | _ => exact congrArg Setup.autoMode (step_setup (by trivial) ht)

theorem step_supportsAuto {bs t : BrightnessService} {e : BrightnessEvent}
    (h : bs.isAutoBrightnessEnabled = true → bs.isSupportLightSensor = true)
    (ht : bs.step e = some t) :
    t.isAutoBrightnessEnabled = true → t.isSupportLightSensor = true := by
  intro hauto
  cases e with
  | setDisplayState state =>
    have hmode := Option.some.inj ht ▸ setDisplayState_autoMode bs state
    exact (congrArg AutoMode.isSupportLightSensor hmode).trans
      (h ((congrArg AutoMode.isAutoBrightnessEnabled hmode).symm.trans hauto))
  | autoAdjustBrightness enable =>
    have hmode := Option.some.inj ht ▸ autoAdjustBrightness_autoMode bs enable
    refine (congrArg AutoMode.isSupportLightSensor hmode).trans ?_
    by_contra hnone
    have hwas := (congrArg AutoMode.isAutoBrightnessEnabled hmode).symm.trans hauto
    exact hnone (h ((if_neg hnone).symm.trans hwas))
  | _ =>
    have hmode := step_autoMode (by simp) (by simp) ht
    exact (congrArg AutoMode.isSupportLightSensor hmode).trans
      (h ((congrArg AutoMode.isAutoBrightnessEnabled hmode).symm.trans hauto))

theorem Reachable.supportsAuto {bs : BrightnessService} (h : Reachable bs)
    (hauto : bs.isAutoBrightnessEnabled = true) : bs.isSupportLightSensor = true := by
  refine Runs.reachable_invariant
    (J := fun s => s.isAutoBrightnessEnabled = true → s.isSupportLightSensor = true) ?_
    (fun _ _ _ hs ht => step_supportsAuto hs ht) h hauto
  rintro _ ⟨boot, rfl⟩ hstart
  cases hstart

end BrightnessService

namespace AutoBrightnessOff

open BrightnessService AutoBrightnessSwitch

/-- What the queue and the observer do by themselves. -/
def Internal : SwitchEvent → Prop
  | .autoAdjustBrightness .. => False
  | .writeSetting _ => False
  | _ => True

/-- The event and everything that it sets off. -/
def Settles (sw : AutoBrightnessSwitch) (e : SwitchEvent) (t : AutoBrightnessSwitch) : Prop :=
  ∃ es, (∀ f ∈ es, Internal f) ∧ Runs.run AutoBrightnessSwitch.step sw (e :: es) = some t ∧ Quiet t

/-- Nothing is left of the automatic mode: no offset, no target and no fade. -/
structure Cleared (bs : BrightnessService) : Prop where
  offset : bs.calculationManager.NoOffset
  target : bs.brightnessTarget = 0
  fade : bs.dimming.isDimming = false

def SameEnd (sw : AutoBrightnessSwitch) : Prop :=
  ∀ a b, Settles sw (.autoAdjustBrightness true false) a → Settles sw (.writeSetting false) b →
    a.brightness = b.brightness ∧ Cleared a.brightness

def rested (bs : BrightnessService) (setting : Bool) : AutoBrightnessSwitch where
  brightness := bs.setSettingAutoBrightness setting

def AlwaysSameEnd : Prop :=
  ∀ bs setting, Reachable bs → bs.isAutoBrightnessEnabled = true → SameEnd (rested bs setting)

/-- How often an event can happen as things are. -/
def share (sw : AutoBrightnessSwitch) : SwitchEvent → ℕ
  | .settingObserved => sw.notices
  | .callbackFires => sw.callbackTimer.isSome.toNat
  | .updateFires => sw.updateTimer.isSome.toNat
  | .resumes => sw.running.isSome.toNat
  | _ => 0

/-- At most one thing is left to do, on a device with a light sensor. -/
structure Single (sw : AutoBrightnessSwitch) : Prop where
  supported : sw.brightness.isSupportLightSensor = true
  single : sw.notices + sw.callbackTimer.isSome.toNat + sw.updateTimer.isSome.toNat +
    sw.running.isSome.toNat ≤ 1

theorem share_pos {sw t : AutoBrightnessSwitch} {e : SwitchEvent} (he : Internal e)
    (ht : sw.step e = some t) : 0 < share sw e := by
  cases e with
  | autoAdjustBrightness => exact he.elim
  | writeSetting => exact he.elim
  | settingObserved =>
    obtain ⟨hnotices, _⟩ := Option.ite_none_left_eq_some.mp ht
    exact Nat.pos_of_ne_zero hnotices
  | callbackFires =>
    obtain ⟨_, ht⟩ := Option.ite_none_left_eq_some.mp ht
    obtain ⟨task, htimer, _⟩ := Option.map_eq_some_iff.mp ht
    simp [share, htimer]
  | updateFires =>
    obtain ⟨_, ht⟩ := Option.ite_none_left_eq_some.mp ht
    obtain ⟨enable, htimer, _⟩ := Option.map_eq_some_iff.mp ht
    simp [share, htimer]
  | resumes =>
    obtain ⟨task, hrunning, _⟩ := Option.map_eq_some_iff.mp ht
    simp [share, hrunning]

theorem Single.one {sw t u : AutoBrightnessSwitch} {e f : SwitchEvent} (h : Single sw)
    (he : Internal e) (hf : Internal f) (ht : sw.step e = some t) (hu : sw.step f = some u) :
    e = f := by
  have hfirst := share_pos he ht
  have hsecond := share_pos hf hu
  have hsum := h.single
  cases e <;> cases f <;> simp only [share] at hfirst hsecond <;> first | rfl | omega

theorem callback_same (sw : AutoBrightnessSwitch) (task : SwitchCallback) :
    sw.callback task = { sw with running := (sw.callback task).running } := by
  cases task with
  | bootCompleted => rfl
  | settingUpdate =>
    rw [callback]
    split
    · rfl
    · rfl

theorem update_same (sw : AutoBrightnessSwitch) (enable : Bool) :
    (sw.update enable).notices ≤ sw.notices + 1 ∧
      sw.update enable =
        { sw with
          brightness := (sw.update enable).brightness
          notices := (sw.update enable).notices } := by
  by_cases hsame : sw.setting = enable
  · rw [update_skips hsame]
    exact ⟨Nat.le_succ _, rfl⟩
  · rw [update_writes hsame]
    exact ⟨le_rfl, rfl⟩

theorem resume_same {sw : AutoBrightnessSwitch} (h : sw.brightness.isSupportLightSensor = true)
    (task : SwitchTask) :
    sw.resume task =
      { sw with
        brightness := (sw.resume task).brightness
        running := (sw.resume task).running } := by
  cases task with
  | adjust enable clears => rw [resume_adjust h]
  | clearOffset => rfl

theorem Single.step {sw t : AutoBrightnessSwitch} {e : SwitchEvent} (h : Single sw)
    (he : Internal e) (ht : sw.step e = some t) : Single t := by
  refine ⟨step_supported h.supported ht, ?_⟩
  have hsum := h.single
  cases e with
  | autoAdjustBrightness => exact he.elim
  | writeSetting => exact he.elim
  | settingObserved =>
    obtain ⟨hnotices, ht⟩ := Option.ite_none_left_eq_some.mp ht
    obtain rfl := Option.some.inj ht
    simp only [Option.isSome_some, Bool.toNat_true]
    omega
  | callbackFires =>
    obtain ⟨_, ht⟩ := Option.ite_none_left_eq_some.mp ht
    obtain ⟨task, htimer, rfl⟩ := Option.map_eq_some_iff.mp ht
    rw [htimer, Option.isSome_some, Bool.toNat_true] at hsum
    rw [callback_same]
    have hone := Bool.toNat_le
      (({ sw with callbackTimer := none } : AutoBrightnessSwitch).callback task).running.isSome
    simp only [Option.isSome_none, Bool.toNat_false]
    omega
  | updateFires =>
    obtain ⟨_, ht⟩ := Option.ite_none_left_eq_some.mp ht
    obtain ⟨enable, htimer, rfl⟩ := Option.map_eq_some_iff.mp ht
    rw [htimer, Option.isSome_some, Bool.toNat_true] at hsum
    obtain ⟨hnotices, hsame⟩ :=
      update_same ({ sw with updateTimer := none } : AutoBrightnessSwitch) enable
    rw [hsame]
    simp only [Option.isSome_none, Bool.toNat_false] at hnotices ⊢
    omega
  | resumes =>
    obtain ⟨task, hrunning, rfl⟩ := Option.map_eq_some_iff.mp ht
    rw [hrunning, Option.isSome_some, Bool.toNat_true] at hsum
    rw [resume_same h.supported]
    have hone := Bool.toNat_le (sw.resume task).running.isSome
    dsimp only
    omega

theorem step_of_quiet {sw : AutoBrightnessSwitch} (h : Quiet sw) {e : SwitchEvent}
    (he : Internal e) : sw.step e = none := by
  cases e with
  | autoAdjustBrightness => exact he.elim
  | writeSetting => exact he.elim
  | settingObserved => exact if_pos h.notices
  | callbackFires => simp [AutoBrightnessSwitch.step, h.callbackTimer]
  | updateFires => simp [AutoBrightnessSwitch.step, h.updateTimer]
  | resumes => simp [AutoBrightnessSwitch.step, h.running]

theorem Settles.unique {sw s t u : AutoBrightnessSwitch} {e : SwitchEvent}
    (hs : sw.step e = some s) (hsingle : Single s) (ht : Settles sw e t) (hu : Settles sw e u) :
    t = u := by
  obtain ⟨es, hes, hrunt, hquiett⟩ := ht
  obtain ⟨fs, hfs, hrunu, hquietu⟩ := hu
  obtain ⟨v, hv, hvt⟩ := Runs.run_cons_some.mp hrunt
  obtain ⟨w, hw, hwu⟩ := Runs.run_cons_some.mp hrunu
  obtain rfl := Option.some.inj (hs.symm.trans hv)
  obtain rfl := Option.some.inj (hs.symm.trans hw)
  exact Runs.ends_unique (fun _ _ _ h he ht => h.step he ht)
    (fun _ _ _ _ _ h he hf ht hu => h.one he hf ht hu) hsingle hes hfs hvt hwu
    (fun _ he => step_of_quiet hquiett he) (fun _ he => step_of_quiet hquietu he)

def switchedOff (bs : BrightnessService) : BrightnessService :=
  ((bs.setSettingAutoBrightness false).autoAdjustBrightness false).1

theorem deactivateAll_setting (bs : BrightnessService) (setting : Bool) :
    (bs.setSettingAutoBrightness setting).deactivateAllAmbientSensor =
      bs.deactivateAllAmbientSensor.setSettingAutoBrightness setting := by
  have hfirst (b : BrightnessService) :
      (b.setSettingAutoBrightness setting).deactivateAmbientSensor =
        b.deactivateAmbientSensor.setSettingAutoBrightness setting := by
    rw [deactivateAmbientSensor, deactivateAmbientSensor]
    by_cases hon : (b.isAutoBrightnessEnabled && b.isLightSensorEnabled) = true
    · rw [if_pos hon, if_pos (by exact hon)]
      rfl
    · rw [if_neg hon, if_neg (by exact hon)]
  have hsecond (b : BrightnessService) :
      (b.setSettingAutoBrightness setting).deactivateAmbientSensor1 =
        b.deactivateAmbientSensor1.setSettingAutoBrightness setting := by
    rw [deactivateAmbientSensor1, deactivateAmbientSensor1]
    by_cases hon : (b.isAutoBrightnessEnabled && b.isLightSensor1Enabled) = true
    · rw [if_pos hon, if_pos (by exact hon)]
      rfl
    · rw [if_neg hon, if_neg (by exact hon)]
  rw [deactivateAllAmbientSensor, deactivateAllAmbientSensor]
  by_cases hfold : (!bs.isFoldable) = true
  · rw [if_pos hfold, if_pos (by exact hfold), hfirst]
  · rw [if_neg hfold, if_neg (by exact hfold), hfirst, hsecond]

theorem autoAdjustBrightness_off {bs : BrightnessService}
    (hsupport : bs.isSupportLightSensor = true)
    (hauto : bs.isAutoBrightnessEnabled = true) :
    (bs.autoAdjustBrightness false).1 =
      { bs.deactivateAllAmbientSensor with isAutoBrightnessEnabled := false } := by
  rw [autoAdjustBrightness, if_neg (by simp [hsupport]), if_neg (by simp), if_neg (by simp [hauto])]

theorem switchedOff_setting {bs : BrightnessService} (hsupport : bs.isSupportLightSensor = true)
    (hauto : bs.isAutoBrightnessEnabled = true) (setting : Bool) :
    ((bs.setSettingAutoBrightness setting).autoAdjustBrightness false).1.setSettingAutoBrightness
      false = switchedOff bs := by
  rw [switchedOff, autoAdjustBrightness_off (by exact hsupport) (by exact hauto),
    autoAdjustBrightness_off (by exact hsupport) (by exact hauto), deactivateAll_setting,
    deactivateAll_setting]
  rfl

theorem switchedOff_same {bs : BrightnessService} (hsupport : bs.isSupportLightSensor = true)
    (hauto : bs.isAutoBrightnessEnabled = true) :
    (switchedOff bs).calculationManager = bs.calculationManager ∧
      (switchedOff bs).brightnessTarget = bs.brightnessTarget ∧
        (switchedOff bs).dimming = bs.dimming ∧
          (switchedOff bs).isAutoBrightnessEnabled = false ∧
            (switchedOff bs).settings.autoBrightness = false := by
  have hsame := deactivateAllAmbientSensor_same bs
  rw [switchedOff, autoAdjustBrightness_off (by exact hsupport) (by exact hauto),
    deactivateAll_setting, hsame]
  exact ⟨rfl, rfl, rfl, rfl, rfl⟩

theorem cleared_switchedOff_iff {bs : BrightnessService}
    (hsupport : bs.isSupportLightSensor = true) (hauto : bs.isAutoBrightnessEnabled = true) :
    Cleared (switchedOff bs) ↔ Cleared bs := by
  obtain ⟨hoffset, htarget, hdimming, _⟩ := switchedOff_same hsupport hauto
  constructor
  · rintro ⟨offset, target, fade⟩
    rw [hoffset] at offset
    rw [htarget] at target
    rw [hdimming] at fade
    exact ⟨offset, target, fade⟩
  · rintro ⟨offset, target, fade⟩
    refine ⟨?_, ?_, ?_⟩
    · rw [hoffset]
      exact offset
    · rw [htarget]
      exact target
    · rw [hdimming]
      exact fade

theorem clearOffset_of_cleared {bs : BrightnessService} (h : Cleared bs) : bs.clearOffset = bs := by
  have hoffset (lux : ℚ) :
      bs.calculationManager.updateBrightnessOffset (float 0) lux = bs.calculationManager := by
    rw [BrightnessCalculationManager.updateBrightnessOffset]
    split
    · rfl
    · rw [if_pos (by simp [BrightnessCalculationManager.SMALL_VALUE])]
      exact h.offset.eq_reset.symm
  have hstop : bs.stopIfDimming = bs := if_neg (by simp [h.fade])
  rw [clearOffset, hstop, hoffset, ← h.target]

theorem quiet_of_brightness (brightness : BrightnessService) :
    Quiet { brightness := brightness } := by
  constructor
  · rfl
  · rfl
  · rfl
  · rfl

/-- The call, the write that it schedules, and the observer that finds nothing to do. -/
theorem call_settles {bs : BrightnessService} (hsupport : bs.isSupportLightSensor = true)
    (hauto : bs.isAutoBrightnessEnabled = true) (setting : Bool) :
    Settles (rested bs setting) (.autoAdjustBrightness true false)
      { brightness := switchedOff bs } := by
  have hsetting : ((bs.setSettingAutoBrightness setting).autoAdjustBrightness false).1.settings =
      (bs.setSettingAutoBrightness setting).settings :=
    autoAdjustBrightness_settings (by exact hsupport) false
  have hauto' : ((bs.setSettingAutoBrightness setting).autoAdjustBrightness
      false).1.isAutoBrightnessEnabled = false :=
    (autoAdjustBrightness_supported (by exact hsupport) false).1
  have hoff := switchedOff_setting hsupport hauto setting
  have hcall : (rested bs setting).step (.autoAdjustBrightness true false) =
      some { brightness := ((bs.setSettingAutoBrightness setting).autoAdjustBrightness false).1,
             updateTimer := some false } := by
    rw [AutoBrightnessSwitch.step, autoAdjustBrightnessInner_eq (by exact hsupport), if_pos rfl]
    rfl
  generalize ((bs.setSettingAutoBrightness setting).autoAdjustBrightness false).1 = b
    at hsetting hauto' hoff hcall
  have hb : b.settings.autoBrightness = setting := congrArg SettingStore.autoBrightness hsetting
  cases setting with
  | false =>
    have hsame : b = switchedOff bs := by
      rw [← hoff, setSettingAutoBrightness, ← hb]
    refine ⟨[.updateFires], by simp [Internal],
      Runs.run_cons_some.mpr ⟨_, hcall, Runs.run_cons_some.mpr ⟨_, ?_, rfl⟩⟩,
      quiet_of_brightness _⟩
    rw [AutoBrightnessSwitch.step, if_neg (by simp), ← hsame]
    exact congrArg some (if_neg (by simpa [AutoBrightnessSwitch.setting] using hb))
  | true =>
    have hwrite : ({ brightness := b, updateTimer := some false } : AutoBrightnessSwitch).step
        .updateFires = some { brightness := switchedOff bs, notices := 1 } := by
      have hdiffers : ({ brightness := b } : AutoBrightnessSwitch).setting ≠ false :=
        fun hsame => absurd (hb.symm.trans hsame) (by simp)
      have hupdate := update_writes hdiffers
      rw [hoff] at hupdate
      exact congrArg some hupdate
    have hobserved : ({ brightness := switchedOff bs, notices := 1 } : AutoBrightnessSwitch).step
        .settingObserved =
          some { brightness := switchedOff bs, callbackTimer := some .settingUpdate } := rfl
    have hskip : ({ brightness := switchedOff bs, callbackTimer := some .settingUpdate }
        : AutoBrightnessSwitch).step .callbackFires = some { brightness := switchedOff bs } := by
      obtain ⟨_, _, _, henabled, hset⟩ := switchedOff_same hsupport hauto
      exact congrArg some (if_pos (hset.trans henabled.symm))
    exact ⟨[.updateFires, .settingObserved, .callbackFires], by simp [Internal],
      Runs.run_cons_some.mpr ⟨_, hcall, Runs.run_cons_some.mpr ⟨_, hwrite,
        Runs.run_cons_some.mpr ⟨_, hobserved, Runs.run_cons_some.mpr ⟨_, hskip, rfl⟩⟩⟩⟩,
      quiet_of_brightness _⟩

/-- The write, the observer, and its callback, which clears the offset. -/
theorem write_settles {bs : BrightnessService} (hsupport : bs.isSupportLightSensor = true)
    (hauto : bs.isAutoBrightnessEnabled = true) :
    Settles (rested bs true) (.writeSetting false)
      { brightness := (switchedOff bs).clearOffset } := by
  have hwrite : (rested bs true).step (.writeSetting false) =
      some { brightness := bs.setSettingAutoBrightness false, notices := 1 } := by
    rcases (rested bs true).writeSetting_cases false with ⟨hsame, _⟩ | ⟨_, hchanged⟩
    · cases hsame
    · exact congrArg some hchanged
  have hobserved : ({ brightness := bs.setSettingAutoBrightness false, notices := 1 }
      : AutoBrightnessSwitch).step .settingObserved =
        some { brightness := bs.setSettingAutoBrightness false
               callbackTimer := some .settingUpdate } := rfl
  have hcallback : ({ brightness := bs.setSettingAutoBrightness false
                      callbackTimer := some .settingUpdate }
      : AutoBrightnessSwitch).step .callbackFires =
        some { brightness := bs.setSettingAutoBrightness false
               running := some (.adjust false true) } := by
    have hdiffers : ¬ ({ brightness := bs.setSettingAutoBrightness false }
        : AutoBrightnessSwitch).setting =
        ({ brightness := bs.setSettingAutoBrightness false } : AutoBrightnessSwitch).isEnabled :=
      fun hsame => Bool.false_ne_true (hsame.trans hauto)
    exact congrArg some (if_neg hdiffers)
  have hadjust : ({ brightness := bs.setSettingAutoBrightness false
                    running := some (.adjust false true) } : AutoBrightnessSwitch).step .resumes =
      some { brightness := switchedOff bs, running := some .clearOffset } := by
    rw [step_resumes rfl, resume_adjust (by exact hsupport)]
    rfl
  have hclear : ({ brightness := switchedOff bs, running := some .clearOffset }
      : AutoBrightnessSwitch).step .resumes =
        some { brightness := (switchedOff bs).clearOffset } := rfl
  exact ⟨[.settingObserved, .callbackFires, .resumes, .resumes], by simp [Internal],
    Runs.run_cons_some.mpr ⟨_, hwrite, Runs.run_cons_some.mpr ⟨_, hobserved,
      Runs.run_cons_some.mpr ⟨_, hcallback, Runs.run_cons_some.mpr ⟨_, hadjust,
        Runs.run_cons_some.mpr ⟨_, hclear, rfl⟩⟩⟩⟩⟩, quiet_of_brightness _⟩

theorem write_settles_off (bs : BrightnessService) :
    Settles (rested bs false) (.writeSetting false) (rested bs false) := by
  have hwrite : (rested bs false).step (.writeSetting false) = some (rested bs false) := by
    rcases (rested bs false).writeSetting_cases false with ⟨_, hsame⟩ | ⟨hdiffers, _⟩
    · exact congrArg some hsame
    · exact absurd rfl hdiffers
  exact ⟨[], by simp, Runs.run_cons_some.mpr ⟨_, hwrite, rfl⟩, quiet_of_brightness _⟩

theorem single_of_first {bs : BrightnessService} (hsupport : bs.isSupportLightSensor = true)
    (setting : Bool) {e : SwitchEvent}
    (he : e = .autoAdjustBrightness true false ∨ e = .writeSetting false) :
    ∃ s, (rested bs setting).step e = some s ∧ Single s := by
  rcases he with rfl | rfl
  · refine ⟨_, rfl, ?_⟩
    rw [autoAdjustBrightnessInner_eq (by exact hsupport), if_pos rfl]
    exact ⟨(autoAdjustBrightness_supported (by exact hsupport) false).2.1, by simp [rested]⟩
  · refine ⟨_, rfl, ?_⟩
    rcases (rested bs setting).writeSetting_cases false with ⟨_, hsame⟩ | ⟨_, hchanged⟩
    · rw [hsame]
      exact ⟨hsupport, by simp [rested]⟩
    · rw [hchanged]
      exact ⟨hsupport, by simp [rested]⟩

theorem cleared_of_sameEnd {bs : BrightnessService} (hsupport : bs.isSupportLightSensor = true)
    (hauto : bs.isAutoBrightnessEnabled = true) {setting : Bool}
    (h : SameEnd (rested bs setting)) : setting = true ∧ Cleared bs := by
  have hcall := call_settles hsupport hauto setting
  cases setting with
  | false =>
    obtain ⟨hequal, _⟩ := h _ _ hcall (write_settles_off bs)
    have hoff := (switchedOff_same hsupport hauto).2.2.2.1
    have hon : (switchedOff bs).isAutoBrightnessEnabled = true :=
      (congrArg isAutoBrightnessEnabled hequal).trans hauto
    exact absurd (hoff.symm.trans hon) (by simp)
  | true =>
    obtain ⟨_, hcleared⟩ := h _ _ hcall (write_settles hsupport hauto)
    exact ⟨rfl, (cleared_switchedOff_iff hsupport hauto).mp hcleared⟩

/-- Both ways end in the same, cleared, state exactly when the setting is on and the state is
cleared already: only the write of the setting clears anything. -/
theorem same_end_iff {bs : BrightnessService} (hreach : Reachable bs)
    (hauto : bs.isAutoBrightnessEnabled = true) (setting : Bool) :
    SameEnd (rested bs setting) ↔ setting = true ∧ Cleared bs := by
  have hsupport := hreach.supportsAuto hauto
  refine ⟨cleared_of_sameEnd hsupport hauto, ?_⟩
  rintro ⟨rfl, hcleared⟩ a b ha hb
  obtain ⟨s, hs, hsingle⟩ := single_of_first hsupport true (Or.inl rfl)
  obtain ⟨t, ht, hsingle'⟩ := single_of_first hsupport true (Or.inr rfl)
  obtain rfl := (call_settles hsupport hauto true).unique hs hsingle ha
  obtain rfl := (write_settles hsupport hauto).unique ht hsingle' hb
  have hoff := (cleared_switchedOff_iff hsupport hauto).mpr hcleared
  exact ⟨(clearOffset_of_cleared hoff).symm, hoff⟩

def automaticBoot : BrightnessBoot where
  isSupportLightSensor := true
  state := .on

def chosenAt200 : BrightnessService :=
  ((automaticBoot.start.autoAdjustBrightness true).1.setBrightness 200 0 false).1

theorem chosenAt200_reachable : Reachable chosenAt200 :=
  ⟨_, [.autoAdjustBrightness true, .setBrightness 200 0 false], ⟨automaticBoot, rfl⟩, rfl⟩

/-- The call leaves the target where it is. -/
theorem call_keeps_target : ¬ AlwaysSameEnd := by
  intro h
  have hauto : chosenAt200.isAutoBrightnessEnabled = true := by decide +kernel
  have hcleared := (cleared_of_sameEnd (by decide +kernel) hauto
    (h chosenAt200 true chosenAt200_reachable hauto)).2
  exact absurd hcleared.target (by decide +kernel)

def clearedBefore : BrightnessService :=
  (automaticBoot.start.autoAdjustBrightness true).1.clearOffset

theorem clearedBefore_same_end : SameEnd (rested clearedBefore true) := by
  have hreach : Reachable clearedBefore :=
    ⟨_, [.autoAdjustBrightness true, .clearOffset], ⟨automaticBoot, rfl⟩, rfl⟩
  refine (same_end_iff hreach (by decide +kernel) true).mpr ⟨rfl, ?_, ?_, ?_⟩
  · decide +kernel
  · decide +kernel
  · decide +kernel

end AutoBrightnessOff

end DisplayPowerMgr
