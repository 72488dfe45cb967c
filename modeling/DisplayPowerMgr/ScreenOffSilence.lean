import DisplayPowerMgr.BrightnessEffects

/-! Which requests and timers reach the device, start a fade or write the setting while the
screen is neither `ON` nor `DIM`. -/
namespace DisplayPowerMgr.ScreenOffSilence

open BrightnessService

/-- The operations that should be silent: the brightness requests, the two cap setters, a light
report, and the timers that a boost or a fade left behind. -/
def Operation (bs : BrightnessService) : BrightnessEvent → Prop
  | .setBrightness .. => True
  | .discountBrightness .. => True
  | .overrideBrightness .. => True
  | .restoreBrightness _ => True
  | .boostBrightness _ => True
  | .cancelBoostBrightness _ => True
  | .setMaxBrightness _ => True
  | .setMaxBrightnessNit _ => True
  | .processLightLux .. => True
  | .runTask id =>
    (∃ duration, (id, .cancelBoostBrightness duration) ∈ bs.tasks.pending) ∨
      (id, .nextStep) ∈ bs.tasks.pending
  | _ => False

def AlwaysSilent : Prop :=
  ∀ bs, Reachable bs → bs.isScreenOn = false → ∀ e, Operation bs e →
    ∀ t, bs.step e = some t → Silent bs t

/-- Cancelling a boost shows nothing when there is none, or when its update shows nothing. -/
def CancelsSilently (bs : BrightnessService) (duration : ℕ) : Prop :=
  bs.isBrightnessBoosted = false ∨ bs.hasQueue = false ∨
    ¬ bs.Shows bs.cachedSettingBrightness duration

/-- A cap setter shows nothing when the cap stays, or when the level it then chooses is already
the one that the setting stands for. -/
def CapsSilently (bs : BrightnessService) (maxValue : ℕ) : Prop :=
  maxValue = bs.brightnessValueMax ∨
    let t := bs.storeMaxBrightness maxValue
    if t.brightnessValueMax < t.getSettingBrightness then
      ¬ t.Shows t.brightnessValueMax DEFAULT_MAX_BRIGHTNESS_DURATION
    else t.currentBrightness = 0 ∨ ¬ t.Shows t.currentBrightness DEFAULT_MAX_BRIGHTNESS_DURATION

def SilentWhenOff (bs : BrightnessService) : BrightnessEvent → Prop
  | .setBrightness value duration _ =>
    bs.isBrightnessOverridden = false ∨ ¬ bs.Shows value duration
  | .restoreBrightness duration =>
    bs.isBrightnessOverridden = false ∨ ¬ bs.Shows bs.beforeOverriddenBrightness duration
  | .cancelBoostBrightness duration => CancelsSilently bs duration
  | .setMaxBrightness value => CapsSilently bs (bs.maxValueOf value)
  | .setMaxBrightnessNit maxNit => CapsSilently bs (getBrightnessLevelFromNit maxNit)
  | .runTask id =>
    match bs.tasks.find? id with
    | some (.cancelBoostBrightness duration) => CancelsSilently bs duration
    | some .nextStep => bs.dimming.isDimming = false ∨ bs.dimming.hasQueue = false
    | _ => True
  | _ => True

theorem setBrightness_silent_iff {bs : BrightnessService} (h : Bounded bs)
    (hoff : bs.isScreenOn = false) (value duration : ℕ) (continuous : Bool) :
    Silent bs (bs.setBrightness value duration continuous).1 ↔
      bs.isBrightnessOverridden = false ∨ ¬ bs.Shows value duration := by
  rw [BrightnessService.setBrightness]
  by_cases hov : bs.isBrightnessOverridden = true
  · rw [if_neg (by simp [hov])]
    simp only [hov, Bool.true_eq_false, false_or]
    split <;>
      · refine updateBrightness_silent_iff ?_ ?_ value duration _
        · exact h
        · exact ⟨rfl, rfl, rfl⟩
  · have hov : bs.isBrightnessOverridden = false := Bool.eq_false_iff.mpr hov
    rw [if_pos (by simp [hov, canSetBrightness, hoff])]
    exact iff_of_true (Silent.refl bs) (Or.inl hov)

theorem discountBrightness_off {bs : BrightnessService} (hoff : bs.isScreenOn = false)
    (discount : ℚ) (duration : ℕ) : bs.discountBrightness discount duration = (bs, false) := by
  simp [discountBrightness, canDiscountBrightness, hoff]

theorem overrideBrightness_off {bs : BrightnessService} (hoff : bs.isScreenOn = false)
    (value duration : ℕ) : bs.overrideBrightness value duration = (bs, false) := by
  simp [overrideBrightness, canOverrideBrightness, hoff]

theorem boostBrightness_off {bs : BrightnessService} (hoff : bs.isScreenOn = false)
    (duration : ℕ) : bs.boostBrightness duration = (bs, false) := by
  simp [boostBrightness, canBoostBrightness, hoff]

theorem processLightLux_off {bs : BrightnessService} (hoff : bs.isScreenOn = false) (lux : ℚ)
    (currentTime : ℤ) : bs.processLightLux lux currentTime = some bs := by
  simp [processLightLux, canSetBrightness, hoff]

theorem restoreBrightness_silent_iff {bs : BrightnessService} (h : Bounded bs) (duration : ℕ) :
    Silent bs (bs.restoreBrightness duration).1 ↔
      bs.isBrightnessOverridden = false ∨
        ¬ bs.Shows bs.beforeOverriddenBrightness duration := by
  rw [BrightnessService.restoreBrightness]
  cases hov : bs.isBrightnessOverridden with
  | false => simp [Silent.refl]
  | true =>
    simp only [Bool.not_true, Bool.false_eq_true, if_false, Bool.true_eq_false, false_or]
    refine updateBrightness_silent_iff ?_ ?_ bs.beforeOverriddenBrightness duration _
    · exact h
    · exact ⟨rfl, rfl, rfl⟩

theorem cancelBoostBrightness_silent_iff {a bs : BrightnessService} (h : Bounded bs)
    (ha : ShownAlike a bs) (ht : ∀ p ∈ bs.tasks.pending, p ∈ a.tasks.pending) (duration : ℕ) :
    Silent a (bs.cancelBoostBrightness duration).1 ↔ CancelsSilently bs duration := by
  rw [BrightnessService.cancelBoostBrightness, CancelsSilently]
  by_cases hidle : bs.isBrightnessBoosted = false ∨ bs.hasQueue = false
  · rw [if_pos (by simpa using hidle)]
    exact iff_of_true (Silent.of_subset ha.written ha.brightness ht)
      (hidle.elim Or.inl fun hq => Or.inr (Or.inl hq))
  · rw [if_neg (by simpa using hidle), ← or_assoc, or_iff_right hidle]
    refine updateBrightness_silent_iff ?_ ?_ bs.cachedSettingBrightness duration _
    · apply BoundedBy.of_subset h
      intro p hp
      exact mem_ffrtCancel hp
    · exact ⟨ha.written, ha.brightness, (ffrtCancel_next _ _ _).trans ha.next⟩

theorem changeMaxBrightness_silent_iff {bs : BrightnessService} (h : Bounded bs)
    (maxValue : ℕ) : Silent bs (bs.changeMaxBrightness maxValue).1 ↔ CapsSilently bs maxValue := by
  rw [BrightnessService.changeMaxBrightness, CapsSilently]
  by_cases hsame : maxValue = bs.brightnessValueMax
  · rw [if_pos hsame]
    exact iff_of_true (Silent.refl bs) (Or.inl hsame)
  · rw [if_neg hsame, or_iff_right hsame]
    have hcap := h.storeMaxBrightness maxValue
    rw [followMaxBrightness]
    dsimp only
    split
    · exact updateBrightness_silent_iff hcap ⟨rfl, rfl, rfl⟩ _ _ _
    · split
      · rename_i hzero
        exact iff_of_true (Silent.refl bs) (Or.inl hzero)
      · rename_i hzero
        rw [or_iff_right hzero]
        exact updateBrightness_silent_iff hcap ⟨rfl, rfl, rfl⟩ _ _ _

theorem nextStep_silent_iff {a bs : BrightnessService} (ha : ShownAlike a bs)
    (ht : ∀ p ∈ bs.tasks.pending, p ∈ a.tasks.pending) :
    Silent a bs.nextStep ↔ bs.dimming.isDimming = false ∨ bs.dimming.hasQueue = false := by
  by_cases hidle : bs.dimming.isDimming = false ∨ bs.dimming.hasQueue = false
  · rw [nextStep_idle hidle]
    exact iff_of_true (Silent.of_subset ha.written ha.brightness ht) hidle
  · refine iff_of_false ?_ hidle
    rw [not_or, Bool.not_eq_false, Bool.not_eq_false] at hidle
    obtain ⟨v, hv⟩ := BrightnessDimming.nextStep_shows hidle.1 hidle.2
    intro hsilent
    have hw := hsilent.written
    have hlog : bs.nextStep.device.written = bs.device.written ++ [(bs.displayId, v)] := by
      rw [nextStep_device, hv]
      exact congrArg Device.written (onChanged_device hidle.1 v)
    rw [hlog, ha.written] at hw
    simp at hw

theorem runTask_silent_iff {bs : BrightnessService} (h : Bounded bs) {id : ℕ}
    (hop : Operation bs (.runTask id)) :
    (∀ t, bs.runTask id = some t → Silent bs t) ↔ SilentWhenOff bs (.runTask id) := by
  have hsub : ∀ p ∈ (bs.tasks.remove id).pending, p ∈ bs.tasks.pending :=
    fun p hp => (Tasks.mem_remove.mp hp).1
  rcases hop with ⟨duration, hp⟩ | hp
  · have hfind := Tasks.find?_eq_some.mpr hp
    simp only [runTask, hfind, SilentWhenOff, Option.map_some, Option.some.injEq, forall_eq']
    refine cancelBoostBrightness_silent_iff ?_ ?_ hsub duration
    · exact BoundedBy.of_subset h hsub
    · exact ⟨rfl, rfl, rfl⟩
  · have hfind := Tasks.find?_eq_some.mpr hp
    simp only [runTask, hfind, SilentWhenOff, Option.map_some, Option.some.injEq, forall_eq']
    refine nextStep_silent_iff ?_ hsub
    exact ⟨rfl, rfl, rfl⟩

/-- In every reachable state with the screen off, exactly these operations are silent. -/
theorem silent_iff {bs : BrightnessService} (h : Reachable bs) (hoff : bs.isScreenOn = false)
    {e : BrightnessEvent} (hop : Operation bs e) :
    (∀ t, bs.step e = some t → Silent bs t) ↔ SilentWhenOff bs e := by
  have hb := h.bounded
  cases e with
  | runTask id => exact runTask_silent_iff hb hop
  | setBrightness value duration continuous =>
    simp only [step, Option.some.injEq, forall_eq']
    exact setBrightness_silent_iff hb hoff value duration continuous
  | restoreBrightness duration =>
    simp only [step, Option.some.injEq, forall_eq']
    exact restoreBrightness_silent_iff hb duration
  | cancelBoostBrightness duration =>
    simp only [step, Option.some.injEq, forall_eq']
    exact cancelBoostBrightness_silent_iff hb ⟨rfl, rfl, rfl⟩ (fun _ hp => hp) duration
  | setMaxBrightness value =>
    simp only [step, Option.some.injEq, forall_eq']
    exact changeMaxBrightness_silent_iff hb _
  | setMaxBrightnessNit maxNit =>
    simp only [step, Option.some.injEq, forall_eq']
    exact changeMaxBrightness_silent_iff hb _
  | discountBrightness discount duration =>
    simp [step, discountBrightness_off hoff, SilentWhenOff, Silent.refl]
  | overrideBrightness value duration =>
    simp [step, overrideBrightness_off hoff, SilentWhenOff, Silent.refl]
  | boostBrightness duration =>
    simp [step, boostBrightness_off hoff, SilentWhenOff, Silent.refl]
  | processLightLux lux currentTime =>
    simp [step, processLightLux_off hoff, SilentWhenOff, Silent.refl]
  | setDisplayState state => exact hop.elim
  | setScreenOnBrightness => exact hop.elim
  | autoAdjustBrightness enable => exact hop.elim
  | clearOffset => exact hop.elim
  | onFoldStatusChanged foldStatus => exact hop.elim
  | foldDisplayModeChanged mode => exact hop.elim
  | setDisplayId displayId => exact hop.elim

def overriddenThenOff : BrightnessService :=
  (({ state := .on : BrightnessBoot }.start).overrideBrightness 100 0).1.setDisplayState .off

theorem overriddenThenOff_reachable : Reachable overriddenThenOff :=
  ⟨_, [.overrideBrightness 100 0, .setDisplayState .off], ⟨{ state := .on }, rfl⟩, rfl⟩

/-- `RestoreBrightness` has no guard on the screen state: it writes the level in the dark. -/
theorem restore_writes_in_the_dark : ¬ AlwaysSilent := by
  intro h
  have hs := h overriddenThenOff overriddenThenOff_reachable (by decide +kernel)
    (.restoreBrightness 0) trivial _ rfl
  exact absurd hs.written (by decide +kernel)

def plainlyOff : BrightnessService := ({ state := .on : BrightnessBoot }.start).setDisplayState .off

/-- Without an override the same call is silent. -/
theorem silent_without_override : Silent plainlyOff (plainlyOff.restoreBrightness 0).1 :=
  (silent_iff (e := .restoreBrightness 0) ⟨_, [.setDisplayState .off], ⟨{ state := .on }, rfl⟩, rfl⟩
    (by decide +kernel) trivial).mpr (Or.inl (by decide +kernel)) _ rfl

end DisplayPowerMgr.ScreenOffSilence
