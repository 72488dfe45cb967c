import DisplayPowerMgr.BrightnessBounds

/-! What a step of `BrightnessService` shows to the outside: a level commanded to the device, a
fade that starts, or a write of the persisted setting; and exactly when an update shows any. -/
namespace DisplayPowerMgr

/-- The tasks that drive the device or the setting without a guard of their own. -/
def BrightnessTask.shows : BrightnessTask → Bool
  | .nextStep => true
  | .settingBrightness _ => true
  | .dimmingSettingBrightness _ => true
  | .cancelBoostBrightness _ => false
  | .waitForFirstLux _ => false

def BrightnessTask.writesSetting : BrightnessTask → Bool
  | .settingBrightness _ => true
  | .dimmingSettingBrightness _ => true
  | _ => false

namespace BrightnessService

def shown (bs : BrightnessService) : ℕ := bs.device.level bs.displayId

def accepts (bs : BrightnessService) : Bool := bs.device.answers.headD true

theorem setBrightness_level (d : Device) (displayId value : ℕ) :
    (d.setBrightness displayId value).1.level displayId =
      if d.answers.headD true then value else d.level displayId := by
  rw [Device.setBrightness]
  dsimp only
  split
  · exact Function.update_self ..
  · rfl

structure SilentBetween (written written' : List (ℕ × ℕ)) (brightness brightness' : Option ℕ)
    (next : ℕ) (pending : List (ℕ × BrightnessTask)) : Prop where
  written : written' = written
  brightness : brightness' = brightness
  submitted : ∀ p ∈ pending, next ≤ p.1 → p.2.shows = false

/-- Between `a` and `b` nothing is commanded to the device, no fade is started and the setting
is neither written nor about to be. -/
def Silent (a b : BrightnessService) : Prop :=
  SilentBetween a.device.written b.device.written a.settings.brightness b.settings.brightness
    a.tasks.next b.tasks.pending

theorem Silent.of_subset {a b : BrightnessService} (hw : b.device.written = a.device.written)
    (hs : b.settings.brightness = a.settings.brightness)
    (ht : ∀ p ∈ b.tasks.pending, p ∈ a.tasks.pending) : Silent a b := by
  refine ⟨hw, hs, ?_⟩
  intro p hp hnew
  have hold := a.tasks.fresh p (ht p hp)
  omega

theorem Silent.refl (a : BrightnessService) : Silent a a :=
  Silent.of_subset rfl rfl fun _ hp => hp

/-- A gradual update starts a fade when there is a queue and the setting, on its own scale, is
not the same number as the device level to reach. -/
def StartsFade (bs : BrightnessService) (value : ℕ) : Prop :=
  bs.dimming.hasQueue = true ∧ bs.getSettingBrightness ≠ bs.deviceLevel value

instance (bs : BrightnessService) (value : ℕ) : Decidable (bs.StartsFade value) :=
  inferInstanceAs (Decidable (_ ∧ _))

theorem StartsFade.not_iff {bs : BrightnessService} {value : ℕ} :
    ¬ bs.StartsFade value ↔
      bs.dimming.hasQueue = false ∨ bs.getSettingBrightness = bs.deviceLevel value := by
  rw [StartsFade]
  rw [not_and_or, Bool.not_eq_true, not_not]

/-- An update of this duration would command a level or start a fade. -/
def Shows (bs : BrightnessService) (value duration : ℕ) : Prop :=
  duration = 0 ∨ bs.StartsFade value

instance (bs : BrightnessService) (value duration : ℕ) : Decidable (bs.Shows value duration) :=
  inferInstanceAs (Decidable (_ ∨ _))

theorem startDimming_stays {bs : BrightnessService} {f t : ℕ}
    (hd : bs.dimming.isDimming = false) (h : bs.dimming.hasQueue = false ∨ f = t)
    (duration : ℕ) :
    bs.startDimming f t duration =
        { bs with dimming := (bs.dimming.startDimming f t duration).1 } ∧
      (bs.dimming.startDimming f t duration).1.isDimming = false := by
  have hstay := BrightnessDimming.startDimming_stays hd h duration
  rw [startDimming]
  dsimp only
  rw [hstay.1]
  exact ⟨rfl, hstay.2⟩

theorem startDimming_starts {bs : BrightnessService} {f t duration : ℕ}
    (hd : bs.dimming.isDimming = false) (hq : bs.dimming.hasQueue = true)
    (hf : f < 2 ^ 31) (ht : t < 2 ^ 31) (hne : f ≠ t) :
    bs.startDimming f t duration =
      { bs with dimming := (bs.dimming.startDimming f t duration).1 }.submitNextStep := by
  have hstart := BrightnessDimming.startDimming_eq duration hd hq hf ht hne
  rw [startDimming]
  dsimp only
  rw [hstart]
  rfl

theorem halted_settings (bs : BrightnessService) : bs.halted.settings = bs.settings := by
  rw [halted_sameControl bs]

theorem halted_stays {bs : BrightnessService} {value duration : ℕ} (h : ¬ bs.StartsFade value) :
    bs.halted.startDimming bs.getSettingBrightness (bs.deviceLevel value) duration =
      { bs.halted with
        dimming := (bs.halted.dimming.startDimming bs.getSettingBrightness (bs.deviceLevel value)
          duration).1 } := by
  rw [StartsFade.not_iff, ← halted_hasQueue] at h
  exact (startDimming_stays (halted_isDimming bs) h duration).1

/-- `b` has shown as much as `a`, and handed out as many tasks. -/
structure ShownAlike (a b : BrightnessService) : Prop where
  written : b.device.written = a.device.written
  brightness : b.settings.brightness = a.settings.brightness
  next : b.tasks.next = a.tasks.next

/-- An update is silent exactly when it is gradual and starts no fade. -/
theorem updateBrightness_silent_iff {a bs : BrightnessService} (h : Bounded bs)
    (ha : ShownAlike a bs) (value duration : ℕ) (updateSetting : Bool) :
    Silent a (bs.updateBrightness value duration updateSetting).1 ↔ ¬ bs.Shows value duration := by
  rw [Silent]
  rw [← ha.written, ← ha.brightness, ← ha.next]
  rcases Nat.eq_zero_or_pos duration with rfl | hd
  · rw [updateBrightness_now]
    refine iff_of_false ?_ (by simp [Shows])
    intro hsilent
    have hw := hsilent.written
    dsimp only at hw
    split at hw <;> simp [submitTask, Device.setBrightness] at hw
  · rw [updateBrightness_gradual bs hd]
    by_cases hstart : bs.StartsFade value
    · refine iff_of_false ?_ (not_not.mpr (Or.inr hstart))
      rw [startDimming_starts (halted_isDimming bs) (by rw [halted_hasQueue]; exact hstart.1)
        h.getSettingBrightness_lt (deviceLevel_lt bs value) hstart.2]
      intro hsilent
      have hnew := hsilent.submitted (bs.halted.tasks.next, .nextStep)
        (by simp [submitNextStep, submitTask]) (by rw [halted_next])
      simp [BrightnessTask.shows] at hnew
    · refine iff_of_true ?_ (not_or.mpr ⟨by omega, hstart⟩)
      rw [halted_stays hstart]
      exact Silent.of_subset (by rw [halted_device]) (by rw [halted_settings])
        fun p hp => mem_halted hp

theorem updateBrightness_submits_nothing {bs : BrightnessService} {value duration : ℕ}
    (h : duration = 0 ∨ ¬ bs.StartsFade value) {p : ℕ × BrightnessTask}
    (hp : p ∈ (bs.updateBrightness value duration false).1.tasks.pending) :
    p ∈ bs.tasks.pending := by
  rcases Nat.eq_zero_or_pos duration with rfl | hd
  · rw [updateBrightness_now] at hp
    simp only [Bool.and_false, Bool.false_eq_true, if_false] at hp
    exact mem_halted hp
  · have hstay := h.resolve_left (by omega)
    rw [updateBrightness_gradual bs hd, halted_stays hstay] at hp
    exact mem_halted hp

/-- Fields that an update and a fade step neither read nor write. -/
structure Surroundings where
  state : DisplayState
  isBrightnessBoosted : Bool
  isLightSensorEnabled : Bool
  isLightSensor1Enabled : Bool
  currentSensorId : ℕ
  brightnessTarget : ℕ
  isDisplayOnWhenFirstLuxReport : Bool
  lightLuxManager : LightLuxManager
  autoBrightness : Bool

def surroundings (bs : BrightnessService) : Surroundings where
  state := bs.state
  isBrightnessBoosted := bs.isBrightnessBoosted
  isLightSensorEnabled := bs.isLightSensorEnabled
  isLightSensor1Enabled := bs.isLightSensor1Enabled
  currentSensorId := bs.currentSensorId
  brightnessTarget := bs.brightnessTarget
  isDisplayOnWhenFirstLuxReport := bs.isDisplayOnWhenFirstLuxReport
  lightLuxManager := bs.lightLuxManager
  autoBrightness := bs.settings.autoBrightness

/-- The same service in other surroundings. -/
def within (bs : BrightnessService) (m : Surroundings) : BrightnessService :=
  { bs with
    state := m.state
    isBrightnessBoosted := m.isBrightnessBoosted
    isLightSensorEnabled := m.isLightSensorEnabled
    isLightSensor1Enabled := m.isLightSensor1Enabled
    currentSensorId := m.currentSensorId
    brightnessTarget := m.brightnessTarget
    isDisplayOnWhenFirstLuxReport := m.isDisplayOnWhenFirstLuxReport
    lightLuxManager := m.lightLuxManager
    settings := { bs.settings with autoBrightness := m.autoBrightness } }

theorem stopIfDimming_within (bs : BrightnessService) (m : Surroundings) :
    (bs.within m).stopIfDimming = bs.stopIfDimming.within m := by
  cases hdim : bs.dimming.isDimming with
  | true => simp [stopIfDimming, within, hdim, stopDimming]
  | false => simp [stopIfDimming, within, hdim]

theorem startDimming_within (bs : BrightnessService) (m : Surroundings) (f t duration : ℕ) :
    (bs.within m).startDimming f t duration = (bs.startDimming f t duration).within m := by
  cases hsubmit : (bs.dimming.startDimming f t duration).2 with
  | true => simp [startDimming, within, hsubmit, submitNextStep, submitTask]
  | false => simp [startDimming, within, hsubmit]

theorem updateBrightness_within (bs : BrightnessService) (m : Surroundings) (value duration : ℕ)
    (updateSetting : Bool) :
    (bs.within m).updateBrightness value duration updateSetting =
      ((bs.updateBrightness value duration updateSetting).1.within m,
        (bs.updateBrightness value duration updateSetting).2) := by
  have hhalt : (bs.within m).halted = bs.halted.within m :=
    stopIfDimming_within { bs with waitForFirstLux := false } m
  rcases Nat.eq_zero_or_pos duration with rfl | hd
  · have hwrite : (bs.within m).device.setBrightness (bs.within m).displayId
        ((bs.within m).deviceLevel value) =
        bs.device.setBrightness bs.displayId (bs.deviceLevel value) := rfl
    rw [updateBrightness_now, updateBrightness_now, hhalt, hwrite]
    dsimp only
    split
    · rfl
    · rfl
  · rw [updateBrightness_gradual _ hd, updateBrightness_gradual _ hd, hhalt]
    exact Prod.ext (startDimming_within bs.halted m bs.getSettingBrightness (bs.deviceLevel value)
      duration) rfl

theorem nextStep_idle {bs : BrightnessService}
    (h : bs.dimming.isDimming = false ∨ bs.dimming.hasQueue = false) : bs.nextStep = bs := by
  have hstep : bs.dimming.nextStep = ⟨bs.dimming, none, false⟩ :=
    h.elim BrightnessDimming.nextStep_idle BrightnessDimming.nextStep_noQueue
  rw [nextStep]
  rw [hstep]
  rfl

theorem nextStep_device (bs : BrightnessService) :
    bs.nextStep.device = (bs.notifyChanged bs.dimming.nextStep.changed).device := by
  rw [nextStep]
  dsimp only
  split <;> rfl

theorem onChanged_device {bs : BrightnessService} (h : bs.dimming.isDimming = true)
    (currentValue : ℕ) :
    (bs.onChanged currentValue).device = (bs.device.setBrightness bs.displayId currentValue).1 := by
  rw [onChanged]
  rw [if_neg (by simp [h])]
  dsimp only
  split <;> rfl

end BrightnessService

end DisplayPowerMgr
