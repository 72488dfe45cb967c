import DisplayPowerMgr.BrightnessSteps
import DisplayPowerMgr.LevelScale

/-! A panel at rest keeps its level: what a fade stores of the level it reached is shown again as
that level, however often the screen goes off and on and whatever setting writes are still to be
executed. -/
namespace DisplayPowerMgr

open Rescale

namespace BrightnessService

theorem getSafeBrightness_crossed {bs : BrightnessService}
    (h : bs.brightnessValueMax < bs.brightnessValueMin) (value : ℕ) :
    bs.getSafeBrightness value = bs.brightnessValueMin := by
  simp only [getSafeBrightness]
  repeat' split
  all_goals omega

/-- What a fade to `value` stores when it is over stands for the level it reached, also where a
cap or the lowest level cuts it off. -/
theorem deviceLevel_orig {bs : BrightnessService} (hfull : bs.discount = 1) (value : ℕ) :
    bs.deviceLevel (getOrigBrightnessLevel (bs.deviceLevel value)) = bs.deviceLevel value := by
  rw [deviceLevel_full hfull, deviceLevel_full hfull]
  rcases le_or_gt bs.brightnessValueMin bs.brightnessValueMax with hordered | hcrossed
  · rw [getSafeBrightness_eq hordered, getSafeBrightness_eq hordered]
    apply clamp_same (getMappingBrightnessLevel_mono _)
    · exact le_max_left _ _
    · exact max_le hordered (min_le_left _ _)
    · exact mapping_orig_mapping _ _
  · rw [getSafeBrightness_crossed hcrossed, getSafeBrightness_crossed hcrossed]

structure Panel where
  drive : Drive
  displayId : ℕ
  discount : ℚ
  isAutoBrightnessEnabled : Bool
  isBrightnessOverridden : Bool
  isBrightnessBoosted : Bool
  waitForFirstLux : Bool

def panel (bs : BrightnessService) : Panel where
  drive := bs.drive
  displayId := bs.displayId
  discount := bs.discount
  isAutoBrightnessEnabled := bs.isAutoBrightnessEnabled
  isBrightnessOverridden := bs.isBrightnessOverridden
  isBrightnessBoosted := bs.isBrightnessBoosted
  waitForFirstLux := bs.waitForFirstLux

/-- No fade runs, nothing temporary is in force, and the setting, like every value still to be
stored or shown, stands for the level shown; `base` was commanded before. -/
structure Settled (level : ℕ) (base : List (ℕ × ℕ)) (bs : BrightnessService) : Prop where
  idle : bs.dimming.isDimming = false
  full : bs.discount = 1
  manual : bs.isAutoBrightnessEnabled = false
  notOverridden : bs.isBrightnessOverridden = false
  notBoosted : bs.isBrightnessBoosted = false
  lit : bs.waitForFirstLux = false
  setting : bs.deviceLevel bs.getSettingBrightness = level
  queued : ∀ p ∈ bs.tasks.pending, ∀ value,
    p.2 = .settingBrightness value ∨ p.2 = .waitForFirstLux value → bs.deviceLevel value = level
  faded : ∀ p ∈ bs.tasks.pending, ∀ value, p.2 = .dimmingSettingBrightness value →
    bs.deviceLevel (getOrigBrightnessLevel value) = level
  shown : bs.shown = level
  written : ∃ n, bs.device.written = base ++ List.replicate n (bs.displayId, level)

/-- The calls that ask for no other brightness: the screen goes off and on, what is not in force
ends, a discount is lifted, automatic brightness is turned off, and any task fires. -/
def AsksNothing : BrightnessEvent → Prop
  | .setDisplayState state => state ≠ .dim
  | .setScreenOnBrightness => True
  | .discountBrightness discount duration => 1 ≤ discount ∧ duration = 0
  | .restoreBrightness _ => True
  | .cancelBoostBrightness _ => True
  | .autoAdjustBrightness enable => enable = false
  | .clearOffset => True
  | .foldDisplayModeChanged _ => True
  | .runTask _ => True
  | _ => False

section Settled

variable {level : ℕ} {base : List (ℕ × ℕ)} {a b bs t : BrightnessService}

theorem deviceLevel_of_panel (h : b.panel = a.panel) (value : ℕ) :
    b.deviceLevel value = a.deviceLevel value := by
  have hparam : b.param = a.param := congrArg (fun p => p.drive.param) h
  have hmax : b.brightnessValueMax = a.brightnessValueMax :=
    congrArg (fun p => p.drive.brightnessValueMax) h
  have hmin : b.brightnessValueMin = a.brightnessValueMin :=
    congrArg (fun p => p.drive.brightnessValueMin) h
  have hdiscount : b.discount = a.discount := congrArg Panel.discount h
  rw [deviceLevel, deviceLevel, getSafeBrightness, getSafeBrightness, hparam, hmax, hmin, hdiscount]

theorem Settled.of_panel (h : Settled level base a) (heq : b.panel = a.panel) :
    Settled level base b := by
  have hlevel := deviceLevel_of_panel heq
  have htasks : b.tasks = a.tasks := congrArg (fun p => p.drive.tasks) heq
  have hdevice : b.device = a.device := congrArg (fun p => p.drive.device) heq
  have hid : b.displayId = a.displayId := congrArg Panel.displayId heq
  have hsetting : b.getSettingBrightness = a.getSettingBrightness :=
    congrArg (fun p => p.drive.brightness.getD DEFAULT_BRIGHTNESS) heq
  constructor
  · exact (congrArg (fun p => p.drive.dimming.isDimming) heq).trans h.idle
  · exact (congrArg Panel.discount heq).trans h.full
  · exact (congrArg Panel.isAutoBrightnessEnabled heq).trans h.manual
  · exact (congrArg Panel.isBrightnessOverridden heq).trans h.notOverridden
  · exact (congrArg Panel.isBrightnessBoosted heq).trans h.notBoosted
  · exact (congrArg Panel.waitForFirstLux heq).trans h.lit
  · rw [hsetting, hlevel]
    exact h.setting
  · rw [htasks]
    intro p hp value hv
    rw [hlevel]
    exact h.queued p hp value hv
  · rw [htasks]
    intro p hp value hv
    rw [hlevel]
    exact h.faded p hp value hv
  · rw [BrightnessService.shown, hdevice, hid]
    exact h.shown
  · rw [hdevice, hid]
    exact h.written

theorem Settled.remove (h : Settled level base bs) (id : ℕ) :
    Settled level base { bs with tasks := bs.tasks.remove id } where
  idle := h.idle
  full := h.full
  manual := h.manual
  notOverridden := h.notOverridden
  notBoosted := h.notBoosted
  lit := h.lit
  setting := h.setting
  queued := fun p hp => h.queued p (Tasks.mem_remove.mp hp).1
  faded := fun p hp => h.faded p (Tasks.mem_remove.mp hp).1
  shown := h.shown
  written := h.written

/-- Storing a value that stands for the level changes nothing that counts. -/
theorem Settled.stores (h : Settled level base bs) {value : ℕ} (hv : bs.deviceLevel value = level) :
    Settled level base (bs.setSettingBrightness value) where
  idle := h.idle
  full := h.full
  manual := h.manual
  notOverridden := h.notOverridden
  notBoosted := h.notBoosted
  lit := h.lit
  setting := by
    have hold := h.setting
    have hnew : (bs.setSettingBrightness value).getSettingBrightness = bs.getSettingBrightness ∨
        (bs.setSettingBrightness value).getSettingBrightness = value := by
      rw [getSettingBrightness, getSettingBrightness, setSettingBrightness]
      cases hs : bs.settings.brightness with
      | none =>
        left
        simp [SettingStore.setSettingBrightness, hs]
      | some _ =>
        right
        simp [SettingStore.setSettingBrightness, hs]
    rcases hnew with hnew | hnew
    · rw [hnew]
      exact hold
    · rw [hnew]
      exact hv
  queued := h.queued
  faded := h.faded
  shown := h.shown
  written := h.written

theorem Settled.halted (h : Settled level base bs) : bs.halted = bs := by
  have hlit := h.lit
  rw [BrightnessService.halted, stopIfDimming, if_neg (by simp [h.idle])]
  rw [← hlit]

theorem Settled.update (h : Settled level base bs) {value : ℕ} (hv : bs.deviceLevel value = level)
    (updateSetting : Bool) :
    Settled level base (bs.updateBrightness value 0 updateSetting).1 := by
  have hcommanded : Settled level base
      { bs with device := (bs.device.setBrightness bs.displayId level).1 } := by
    refine ⟨h.idle, h.full, h.manual, h.notOverridden, h.notBoosted, h.lit, h.setting, h.queued,
      h.faded, ?_, ?_⟩
    · have hold := h.shown
      refine (setBrightness_level _ _ _).trans ?_
      split
      · rfl
      · exact hold
    · obtain ⟨n, hn⟩ := h.written
      refine ⟨n + 1, ?_⟩
      show bs.device.written ++ [(bs.displayId, level)] = _
      rw [hn, List.append_assoc, List.replicate_succ']
  rw [updateBrightness_now, h.halted, hv]
  dsimp only
  split
  · refine ⟨hcommanded.idle, hcommanded.full, hcommanded.manual, hcommanded.notOverridden,
      hcommanded.notBoosted, hcommanded.lit, hcommanded.setting, ?_, ?_, hcommanded.shown,
      hcommanded.written⟩
    · intro p hp v hval
      rcases List.mem_append.mp hp with hp | hp
      · exact hcommanded.queued p hp v hval
      · obtain rfl := List.mem_singleton.mp hp
        rcases hval with hval | hval
        · cases hval
          exact (deviceLevel_safe bs value).trans hv
        · cases hval
    · intro p hp v hval
      rcases List.mem_append.mp hp with hp | hp
      · exact hcommanded.faded p hp v hval
      · obtain rfl := List.mem_singleton.mp hp
        cases hval
  · exact hcommanded

theorem SameButSensors.panel (h : SameButSensors a b) : b.panel = a.panel := by
  rw [h]
  rfl

theorem Settled.restoreBrightness (h : Settled level base bs) (duration : ℕ) :
    Settled level base (bs.restoreBrightness duration).1 := by
  rw [BrightnessService.restoreBrightness, if_pos (by simp [h.notOverridden])]
  exact h

theorem Settled.cancelBoostBrightness (h : Settled level base bs) (duration : ℕ) :
    Settled level base (bs.cancelBoostBrightness duration).1 := by
  rw [BrightnessService.cancelBoostBrightness, if_pos (by simp [h.notBoosted])]
  exact h

theorem Settled.stopIfDimming (h : Settled level base bs) :
    Settled level base bs.stopIfDimming := by
  rw [BrightnessService.stopIfDimming, if_neg (by simp [h.idle])]
  exact h

theorem Settled.setDisplayState (h : Settled level base bs) {state : DisplayState}
    (hdim : state ≠ .dim) : Settled level base (bs.setDisplayState state) := by
  have henter : Settled level base (bs.enterState state) := by
    refine h.of_panel (((enterState_same bs state).panel).trans ?_)
    rfl
  cases state with
  | off =>
    rw [BrightnessService.setDisplayState]
    apply Settled.stopIfDimming
    split
    · exact ⟨henter.idle, henter.full, henter.manual, rfl, henter.notBoosted, henter.lit,
        henter.setting, henter.queued, henter.faded, henter.shown, henter.written⟩
    · exact henter.of_panel rfl
  | dim => exact absurd rfl hdim
  | on =>
    have hon :
        Settled level base { bs.enterState .on with isDisplayOnWhenFirstLuxReport := true } :=
      henter.of_panel rfl
    rw [BrightnessService.setDisplayState]
    dsimp only
    split
    · exact (hon.restoreBrightness 0).of_panel rfl
    · exact hon
  | _ => exact henter

theorem Settled.setScreenOnBrightness (h : Settled level base bs) :
    Settled level base bs.setScreenOnBrightness := by
  have hget : bs.getScreenOnBrightness true = (bs, bs.getSettingBrightness) := by
    rw [getScreenOnBrightness, if_neg (by simp [h.notBoosted]), if_neg (by simp [h.notOverridden]),
      if_neg (by simp [h.manual])]
  rw [BrightnessService.setScreenOnBrightness, hget]
  dsimp only
  rw [if_neg (by simp [h.lit])]
  exact h.update h.setting _

theorem safeDiscount_full {discount : ℚ} (h : 1 ≤ discount) : safeDiscount discount = 1 := by
  have hmin : ¬ (1 : ℚ) < DISCOUNT_MIN := by decide +kernel
  rw [safeDiscount, DISCOUNT_MAX]
  rcases h.eq_or_lt with rfl | hlt
  · rw [if_neg (lt_irrefl _), if_neg hmin]
  · rw [if_pos hlt, if_neg hmin]

theorem Settled.discountBrightness (h : Settled level base bs) {discount : ℚ}
    (hfull : 1 ≤ discount) : Settled level base (bs.discountBrightness discount 0).1 := by
  by_cases hon : bs.isScreenOn = true
  · have hforce : bs.brightnessInForce = bs.getSettingBrightness := by
      rw [brightnessInForce, if_neg (by simp [h.notBoosted]), if_neg (by simp [h.notOverridden])]
    have hsame : { bs with discount := safeDiscount discount } = bs := by
      rw [safeDiscount_full hfull, ← h.full]
    rw [discountBrightness_eq hon, hsame, hforce]
    exact h.update h.setting false
  · rw [BrightnessService.discountBrightness, canDiscountBrightness, if_pos (by simp [hon])]
    exact h

theorem Settled.nextStep (h : Settled level base bs) : Settled level base bs.nextStep := by
  have hidle := BrightnessDimming.nextStep_idle h.idle
  rw [BrightnessService.nextStep, hidle]
  exact h

theorem Settled.runTask (h : Settled level base bs) {id : ℕ} (ht : bs.runTask id = some t) :
    Settled level base t := by
  obtain ⟨task, hfind, rfl⟩ := Option.map_eq_some_iff.mp ht
  have hpending := Tasks.find?_eq_some.mp hfind
  have htaken := h.remove id
  cases task with
  | nextStep => exact htaken.nextStep
  | settingBrightness value => exact htaken.stores (h.queued _ hpending value (Or.inl rfl))
  | dimmingSettingBrightness value => exact htaken.stores (h.faded _ hpending value rfl)
  | cancelBoostBrightness duration => exact htaken.cancelBoostBrightness duration
  | waitForFirstLux value => exact htaken.update (h.queued _ hpending value (Or.inr rfl)) true

theorem Settled.step (h : Settled level base bs) {e : BrightnessEvent} (he : AsksNothing e)
    (ht : bs.step e = some t) : Settled level base t := by
  cases e with
  | setDisplayState state => exact Option.some.inj ht ▸ h.setDisplayState he
  | setScreenOnBrightness => exact Option.some.inj ht ▸ h.setScreenOnBrightness
  | discountBrightness discount duration =>
    obtain ⟨hfull, rfl⟩ := he
    exact Option.some.inj ht ▸ h.discountBrightness hfull
  | restoreBrightness duration => exact Option.some.inj ht ▸ h.restoreBrightness duration
  | cancelBoostBrightness duration => exact Option.some.inj ht ▸ h.cancelBoostBrightness duration
  | autoAdjustBrightness enable =>
    obtain rfl := he
    have hmanual := h.manual
    obtain rfl := Option.some.inj ht
    rw [autoAdjustBrightness]
    split
    · exact h.of_panel rfl
    · rw [if_neg (by simp), if_pos (by simp [hmanual])]
      exact h
  | clearOffset =>
    obtain rfl := Option.some.inj ht
    exact h.stopIfDimming.of_panel rfl
  | foldDisplayModeChanged mode => exact Option.some.inj ht ▸ h.of_panel rfl
  | runTask id => exact h.runTask ht
  | _ => exact he.elim

end Settled

/-- A fade to `value` has ended and stored what it reached, with a setting that can be stored: no
discount or automatic brightness, nothing temporary in force, and no older write under way. -/
structure FadedTo (bs : BrightnessService) (value : ℕ) : Prop where
  idle : bs.dimming.isDimming = false
  full : bs.discount = 1
  manual : bs.isAutoBrightnessEnabled = false
  notOverridden : bs.isBrightnessOverridden = false
  notBoosted : bs.isBrightnessBoosted = false
  lit : bs.waitForFirstLux = false
  setting : bs.getSettingBrightness = getOrigBrightnessLevel (bs.deviceLevel value)
  queue : ∀ p ∈ bs.tasks.pending,
    p.2 = .nextStep ∨ ∃ duration, p.2 = .cancelBoostBrightness duration
  shown : bs.shown = bs.deviceLevel value

/-- The task `id` is the last step of a fade to `value` that the panel will accept, with no
discount or automatic brightness, nothing temporary in force and no write of a setting under way. -/
structure LastStepTo (bs : BrightnessService) (value id : ℕ) : Prop where
  due : bs.tasks.find? id = some .nextStep
  running : bs.dimming.Running
  last : bs.dimming.nextStep.again = false
  target : bs.dimming.toBrightness = bs.deviceLevel value
  accepts : bs.accepts = true
  awake : bs.isSleepStatus = false
  stored : bs.settings.brightness.isSome = true
  full : bs.discount = 1
  manual : bs.isAutoBrightnessEnabled = false
  notOverridden : bs.isBrightnessOverridden = false
  notBoosted : bs.isBrightnessBoosted = false
  lit : bs.waitForFirstLux = false
  queue : ∀ p ∈ bs.tasks.pending,
    p.2 = .nextStep ∨ ∃ duration, p.2 = .cancelBoostBrightness duration

theorem nextStep_last {bs : BrightnessService} (hrun : bs.dimming.Running)
    (hlast : bs.dimming.nextStep.again = false) (haccepts : bs.accepts = true)
    (hawake : bs.isSleepStatus = false) :
    bs.nextStep = { bs with
        device := (bs.device.setBrightness bs.displayId bs.dimming.toBrightness).1
        tasks := bs.tasks.submit (.dimmingSettingBrightness bs.dimming.toBrightness)
        dimming := bs.dimming.nextStep.dimming } ∧
      bs.dimming.nextStep.dimming.isDimming = false := by
  obtain ⟨v, hv⟩ := hrun.nextStep_advances
  rcases hv.outcome with ⟨hagain, _⟩ | ⟨_, hover, rfl⟩
  · exact absurd (hagain.symm.trans hlast) (by decide)
  · refine ⟨?_, hover⟩
    have hsuccess : (bs.device.setBrightness bs.displayId bs.dimming.toBrightness).2 = true :=
      haccepts
    have hchanged : bs.notifyChanged bs.dimming.nextStep.changed =
        { bs with
          device := (bs.device.setBrightness bs.displayId bs.dimming.toBrightness).1
          tasks := bs.tasks.submit (.dimmingSettingBrightness bs.dimming.toBrightness) } := by
      rw [hv.shown, notifyChanged, onChanged, hrun.active]
      dsimp only
      rw [hsuccess, hawake]
      rfl
    rw [nextStep, hchanged, hlast]
    rfl

/-- So a fade to `value` does end like this, once the write that its last step submits ran. -/
theorem LastStepTo.fadedTo {bs t : BrightnessService} {value id : ℕ} (h : LastStepTo bs value id)
    (ht : Runs.run step bs [.runTask id, .runTask bs.tasks.next] = some t) :
    FadedTo t value ∧ t.device.written = bs.device.written ++ [(t.displayId, t.shown)] ∧
      t.deviceLevel value = bs.deviceLevel value := by
  have hend := @nextStep_last { bs with tasks := bs.tasks.remove id } h.running h.last h.accepts
    h.awake
  have hfirst : step bs (.runTask id) = some { bs with
      device := (bs.device.setBrightness bs.displayId bs.dimming.toBrightness).1
      tasks := (bs.tasks.remove id).submit (.dimmingSettingBrightness bs.dimming.toBrightness)
      dimming := bs.dimming.nextStep.dimming } :=
    (runTask_eq h.due).trans (congrArg some hend.1)
  obtain ⟨u, hu, hut⟩ := Runs.run_cons_some.mp ht
  obtain rfl := Option.some.inj (hfirst.symm.trans hu)
  obtain ⟨v, hv, hvt⟩ := Runs.run_cons_some.mp hut
  obtain rfl := Option.some.inj hvt
  have hfind : ((bs.tasks.remove id).submit
      (BrightnessTask.dimmingSettingBrightness bs.dimming.toBrightness)).find? bs.tasks.next =
        some (.dimmingSettingBrightness bs.dimming.toBrightness) := by
    rw [Tasks.find?_eq_some]
    exact List.mem_append_right _ (List.mem_singleton_self _)
  obtain rfl := Option.some.inj ((runTask_eq hfind).symm.trans hv)
  have hshown : (bs.device.setBrightness bs.displayId bs.dimming.toBrightness).1.level
      bs.displayId = bs.deviceLevel value := by
    refine (setBrightness_level _ _ _).trans ?_
    exact (if_pos h.accepts).trans h.target
  refine ⟨⟨hend.2, h.full, h.manual, h.notOverridden, h.notBoosted, h.lit, ?_, ?_, hshown⟩, ?_, rfl⟩
  · obtain ⟨old, hold⟩ := Option.isSome_iff_exists.mp h.stored
    show (bs.settings.brightness.map fun _ =>
      getOrigBrightnessLevel bs.dimming.toBrightness).getD DEFAULT_BRIGHTNESS = _
    rw [hold, h.target]
    rfl
  · intro p hp
    obtain ⟨hp, hne⟩ := Tasks.mem_remove.mp hp
    rcases List.mem_append.mp hp with hp | hp
    · exact h.queue p (Tasks.mem_remove.mp hp).1
    · obtain rfl := List.mem_singleton.mp hp
      exact absurd rfl hne
  · have hcommanded : (bs.displayId, bs.dimming.toBrightness) = (bs.displayId,
        (bs.device.setBrightness bs.displayId bs.dimming.toBrightness).1.level bs.displayId) := by
      rw [hshown, h.target]
    exact congrArg (fun p => bs.device.written ++ [p]) hcommanded

theorem FadedTo.settled {bs : BrightnessService} {value : ℕ} (h : FadedTo bs value)
    {base : List (ℕ × ℕ)} (hwritten : bs.device.written = base ++ [(bs.displayId, bs.shown)]) :
    Settled (bs.deviceLevel value) base bs where
  idle := h.idle
  full := h.full
  manual := h.manual
  notOverridden := h.notOverridden
  notBoosted := h.notBoosted
  lit := h.lit
  setting := by
    rw [h.setting]
    exact deviceLevel_orig h.full value
  queued := by
    intro p hp v hv
    rcases h.queue p hp with hstep | ⟨duration, hend⟩
    · rw [hstep] at hv
      simp at hv
    · rw [hend] at hv
      simp at hv
  faded := by
    intro p hp v hv
    rcases h.queue p hp with hstep | ⟨duration, hend⟩
    · rw [hstep] at hv
      cases hv
    · rw [hend] at hv
      cases hv
  shown := h.shown
  written := ⟨1, h.shown ▸ hwritten⟩

/-- The level a fade reached never drifts: as long as no other brightness is asked for, however
often the screen goes off and on and in whatever order the tasks run, it is the only level
commanded, the panel keeps it, and the setting stands for it. -/
theorem faded_level_kept {bs t : BrightnessService} {value id : ℕ} (h : LastStepTo bs value id)
    {es : List BrightnessEvent} (hes : ∀ e ∈ es, AsksNothing e)
    (ht : Runs.run step bs (.runTask id :: .runTask bs.tasks.next :: es) = some t) :
    (∃ n, t.device.written =
      bs.device.written ++ List.replicate n (t.displayId, bs.deviceLevel value)) ∧
      t.shown = bs.deviceLevel value ∧
      t.deviceLevel t.getSettingBrightness = bs.deviceLevel value := by
  obtain ⟨u, hu, hut⟩ := Runs.run_append_some.mp
    (show Runs.run step bs ([.runTask id, .runTask bs.tasks.next] ++ es) = some t from ht)
  obtain ⟨hfaded, hwritten, hsame⟩ := h.fadedTo hu
  have hend := Runs.run_invariant_of (J := Settled (u.deviceLevel value) bs.device.written)
    (P := AsksNothing) (fun s e v hs he hv => hs.step he hv) (hfaded.settled hwritten) hes hut
  rw [← hsame]
  exact ⟨hend.written, hend.shown, hend.setting⟩

theorem setting50_lt : ∀ value ∈ ({ brightness := some 50 } : SettingStore).brightness,
    value < 2 ^ 31 := by
  simp

def shortFadeBoot : BrightnessBoot where
  state := .on
  device := { level := fun _ => 50 }
  settings := { brightness := some 50 }
  settings_lt := setting50_lt

def shortFade : BrightnessService := (shortFadeBoot.start.updateBrightness 100 32 true).1

theorem faded_relit_kept : ∃ t, Runs.run step shortFade [.runTask 0,
      .runTask shortFade.tasks.next, .setDisplayState .off, .setDisplayState .on,
      .setScreenOnBrightness] = some t ∧
    (∃ n, t.device.written =
      shortFade.device.written ++ List.replicate n (t.displayId, shortFade.deviceLevel 100)) ∧
      t.shown = shortFade.deviceLevel 100 ∧
      t.deviceLevel t.getSettingBrightness = shortFade.deviceLevel 100 := by
  have hlast : LastStepTo shortFade 100 0 := by
    have hrunning : shortFade.dimming.Running := by
      constructor
      all_goals decide +kernel
    have htasks : shortFade.tasks.pending = [(0, .nextStep)] := by decide +kernel
    have hqueue : ∀ p ∈ shortFade.tasks.pending,
        p.2 = .nextStep ∨ ∃ duration, p.2 = .cancelBoostBrightness duration := by
      intro p hp
      rw [htasks] at hp
      obtain rfl := List.mem_singleton.mp hp
      exact .inl rfl
    refine ⟨?_, hrunning, ?_, ?_, ?_, ?_, ?_, ?_, ?_, ?_, ?_, ?_, hqueue⟩
    all_goals decide +kernel
  obtain ⟨t, ht⟩ : ∃ t, Runs.run step shortFade [.runTask 0,
      .runTask shortFade.tasks.next, .setDisplayState .off, .setDisplayState .on,
      .setScreenOnBrightness] = some t :=
    Option.isSome_iff_exists.mp (by decide +kernel)
  refine ⟨t, ht, ?_⟩
  refine @faded_level_kept _ _ _ _ hlast [.setDisplayState .off, .setDisplayState .on,
    .setScreenOnBrightness] ?_ ht
  intro e he
  simp only [List.mem_cons, List.not_mem_nil, or_false] at he
  rcases he with rfl | rfl | rfl
  · exact DisplayState.noConfusion
  · exact DisplayState.noConfusion
  · trivial

end BrightnessService

end DisplayPowerMgr
