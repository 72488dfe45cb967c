import DisplayPowerMgr.BrightnessLimits

/-! What a new cap does to the level in effect: the cap calls look at the persisted setting and
apply the last requested brightness again, neither of which need be what is shown. -/
namespace DisplayPowerMgr

namespace BrightnessService

/-- The device level that a value stands for under the cap `c`. -/
def levelUnder (bs : BrightnessService) (c value : ℕ) : ℕ :=
  getMappingBrightnessLevel bs.param.minBrightness
    (toUint32 (double ((min value c : ℕ) * bs.discount)))

/-- The level the device is driven to, or keeps when no fade is running. -/
def targetLevel (bs : BrightnessService) : ℕ :=
  if bs.dimming.isDimming then bs.dimming.toBrightness else bs.shown

/-- The device scale lies below that of the setting, so nothing up to the lowest device level is
mapped above it. -/
theorem getMappingBrightnessLevel_low {m level : ℕ} (hm : 1 ≤ m) (hlevel : level ≤ m) :
    getMappingBrightnessLevel m level = m := by
  have hmapped (l : ℕ) (hl : 1 ≤ l) (hlm : l ≤ m) :
      toUint32 (((l - 1 : ℕ) : ℚ) * 222 / 254 + 1 + 1 / 2) ≤ m := by
    have hlt : toUint32 (((l - 1 : ℕ) : ℚ) * 222 / 254 + 1 + 1 / 2) < l + 1 := by
      apply toUint32_lt (by omega)
      rw [Nat.cast_sub hl]
      have hcast : (1 : ℚ) ≤ l := by exact_mod_cast hl
      push_cast
      linarith
    omega
  have hclamp : ∀ l, (l = if (if level < 1 then 1 else level) > 255 then 255
      else if level < 1 then 1 else level) → 1 ≤ l ∧ l ≤ m := by
    rintro l rfl
    repeat' split
    all_goals omega
  obtain ⟨hone, hle⟩ := hclamp _ rfl
  have hout := hmapped _ hone hle
  have hpick (x : ℕ) (hx : x ≤ m) : (if x < m then m else x) = m := by
    split <;> omega
  refine hpick _ ?_
  convert hout using 2
  norm_num [MIN_DEFAULT_BRGIHTNESS_LEVEL, MAX_DEFAULT_BRGIHTNESS_LEVEL,
    MIN_MAPPING_BRGIHTNESS_LEVEL, MAX_MAPPING_BRGIHTNESS_LEVEL]

theorem toUint32_mul_le {discount : ℚ} (hone : discount ≤ 1) {value : ℕ} (hvalue : value ≤ 2 ^ 53) :
    toUint32 (double (value * discount)) ≤ value := by
  have hlt : toUint32 (double (value * discount)) < value + 1 := by
    apply toUint32_lt (by omega)
    have hnonneg : (0 : ℚ) ≤ value := Nat.cast_nonneg value
    have hmul := mul_le_mul_of_nonneg_left hone hnonneg
    have hround := double_le_natCast hvalue (by linarith : value * discount ≤ value)
    push_cast
    linarith
  omega

theorem deviceLevel_capped {bs : BrightnessService} (h : Regular bs.param bs.limits) (c value : ℕ) :
    { bs with brightnessValueMax := c }.deviceLevel value = bs.levelUnder c value := by
  have hvalueMin : bs.brightnessValueMin = bs.param.minBrightness := h.valueMin
  have hone : bs.discount ≤ 1 := h.discount_le
  have hcapped : (if value > c then c else value) = min value c := by
    split <;> omega
  rw [deviceLevel, levelUnder, getSafeBrightness]
  dsimp only
  rw [hcapped, hvalueMin]
  by_cases hlow : min value c < bs.param.minBrightness
  · rw [if_pos hlow]
    have hmin := bs.param.min_lt
    have hraised := @toUint32_mul_le _ hone bs.param.minBrightness (by omega)
    have hsmall := @toUint32_mul_le _ hone (min value c) (by omega)
    rw [getMappingBrightnessLevel_low (by omega) hraised,
      getMappingBrightnessLevel_low (by omega) (by omega)]
  · rw [if_neg hlow]

theorem Reachable.regular {bs : BrightnessService} (h : Reachable bs) :
    Regular bs.param bs.limits := by
  refine Runs.reachable_invariant (J := fun s => Regular s.param s.limits) ?_ ?_ h
  · rintro s ⟨boot, rfl⟩
    exact start_regular boot
  · intro s e t hs ht
    have hnext := hs.step ht
    have hparam : t.param = s.param := hnext.param
    rw [hparam]
    exact hnext

theorem updateBrightness_target {bs : BrightnessService} (h : Bounded bs) (value : ℕ)
    {duration : ℕ} (hd : 0 < duration) (updateSetting : Bool) :
    (bs.updateBrightness value duration updateSetting).1.targetLevel =
      if bs.StartsFade value then bs.deviceLevel value else bs.shown := by
  have hidle := bs.halted_isDimming
  rw [updateBrightness_gradual bs hd]
  by_cases hstart : bs.StartsFade value
  · have hqueue : bs.halted.dimming.hasQueue = true := by
      rw [halted_hasQueue]
      exact hstart.1
    rw [startDimming_starts hidle hqueue h.getSettingBrightness_lt (deviceLevel_lt bs value)
        hstart.2, if_pos hstart]
    dsimp only
    rw [BrightnessDimming.startDimming_eq duration hidle hqueue h.getSettingBrightness_lt
      (deviceLevel_lt bs value) hstart.2]
    rfl
  · have hstays := hstart
    rw [StartsFade.not_iff, ← halted_hasQueue] at hstays
    obtain ⟨heq, hover⟩ := startDimming_stays hidle hstays duration
    rw [heq, if_neg hstart, targetLevel]
    dsimp only
    rw [hover, if_neg (by simp), shown, shown, halted_device, halted_sameControl bs]

/-- The value a cap call applies again: the cap where it lies below the setting, else the last
requested brightness, if there is one. -/
def reapplied (bs : BrightnessService) (c : ℕ) : Option ℕ :=
  if c < bs.getSettingBrightness then some c
  else if bs.currentBrightness = 0 then none
  else some bs.currentBrightness

/-- A value can be faded to under the cap: there is a queue, and the setting is another number
than its device level. -/
def FadesTo (bs : BrightnessService) (c value : ℕ) : Prop :=
  bs.dimming.hasQueue = true ∧ bs.getSettingBrightness ≠ bs.levelUnder c value

instance (bs : BrightnessService) (c value : ℕ) : Decidable (bs.FadesTo c value) :=
  inferInstanceAs (Decidable (_ ∧ _))

theorem followMaxBrightness_target {bs : BrightnessService} (h : Bounded bs) :
    bs.followMaxBrightness.1.targetLevel =
      match bs.reapplied bs.brightnessValueMax with
      | none => bs.targetLevel
      | some value => if bs.StartsFade value then bs.deviceLevel value else bs.shown := by
  rw [followMaxBrightness, reapplied]
  split
  · exact updateBrightness_target h _ (by decide) _
  · split
    · rfl
    · exact updateBrightness_target h _ (by decide) _

/-- Where a cap call that changes the cap leaves the device heading. -/
theorem changeMaxBrightness_target {bs : BrightnessService} (h : Bounded bs)
    (hreg : Regular bs.param bs.limits) {maxValue c : ℕ}
    (hc : (bs.changeMaxBrightness maxValue).1.brightnessValueMax = c)
    (hne : c ≠ bs.brightnessValueMax) :
    (bs.changeMaxBrightness maxValue).1.targetLevel =
      match bs.reapplied c with
      | none => bs.targetLevel
      | some value => if bs.FadesTo c value then bs.levelUnder c value else bs.shown := by
  have hlimits := changeMaxBrightness_limits bs maxValue
  have hother : maxValue ≠ bs.brightnessValueMax := by
    rintro rfl
    rw [if_pos rfl] at hlimits
    exact hne (hc ▸ congrArg Limits.brightnessValueMax hlimits)
  have hstore : bs.storeMaxBrightness maxValue = { bs with brightnessValueMax := c } := by
    rw [if_neg hother] at hlimits
    have hmin : min maxValue 255 = c :=
      (congrArg Limits.brightnessValueMax hlimits).symm.trans hc
    rw [storeMaxBrightness, ← hmin, MAX_DEFAULT_BRGIHTNESS_LEVEL]
    congr 1
    split <;> omega
  have hbounded : Bounded { bs with brightnessValueMax := c } := hstore ▸ h.storeMaxBrightness _
  have hfades (value : ℕ) : { bs with brightnessValueMax := c }.StartsFade value ↔
      bs.FadesTo c value := by
    rw [StartsFade, FadesTo, deviceLevel_capped hreg]
    rfl
  rw [changeMaxBrightness, if_neg hother, hstore, followMaxBrightness_target hbounded]
  have hsame : { bs with brightnessValueMax := c }.reapplied c = bs.reapplied c := rfl
  dsimp only
  rw [hsame]
  cases bs.reapplied c with
  | none => rfl
  | some value =>
    dsimp only
    rw [deviceLevel_capped hreg]
    exact if_congr (hfades value) rfl rfl

/-- Under the cap `c` a value is shown as the level in force is: that of the maximum in a boost,
that of the overriding value in an override, else that of the setting. -/
structure ShownAsInForce (bs : BrightnessService) (c value : ℕ) : Prop where
  boosted : bs.isBrightnessBoosted = true →
    bs.levelUnder c value = bs.levelUnder c bs.param.maxBrightness
  overridden : bs.isBrightnessBoosted = false → bs.isBrightnessOverridden = true →
    bs.levelUnder c value = bs.levelUnder c bs.overriddenBrightness
  plain : bs.isBrightnessBoosted = false → bs.isBrightnessOverridden = false →
    bs.levelUnder c value = bs.levelUnder c bs.getSettingBrightness

/-- A cap below the setting is applied itself, which is right unless a boost or an override shows
another level. Under any other cap the last requested brightness is applied, and it has to be shown
as what is in force; or nothing was requested yet, and the device heads for that level. Where no
fade starts it has that level already. -/
structure KeepsInForce (bs : BrightnessService) (c : ℕ) : Prop where
  lower : c < bs.getSettingBrightness → bs.FadesTo c c →
    (bs.isBrightnessBoosted = true → bs.levelUnder c bs.param.maxBrightness = bs.levelUnder c c) ∧
    (bs.isBrightnessBoosted = false → bs.isBrightnessOverridden = true →
      bs.levelUnder c bs.overriddenBrightness = bs.levelUnder c c)
  requested : bs.getSettingBrightness ≤ c → bs.currentBrightness ≠ 0 →
    bs.FadesTo c bs.currentBrightness → bs.ShownAsInForce c bs.currentBrightness
  unrequested : bs.getSettingBrightness ≤ c → bs.currentBrightness = 0 →
    bs.targetLevel = bs.levelUnder c bs.brightnessInForce
  unfaded : ∀ value, bs.reapplied c = some value → ¬ bs.FadesTo c value →
    bs.shown = bs.levelUnder c bs.brightnessInForce

theorem shownAsInForce_iff {bs : BrightnessService} {c value : ℕ} :
    bs.ShownAsInForce c value ↔ bs.levelUnder c value = bs.levelUnder c bs.brightnessInForce := by
  rw [brightnessInForce]
  constructor
  · intro h
    split
    · exact h.boosted ‹_›
    · split
      · exact h.overridden (by simp [*]) ‹_›
      · exact h.plain (by simp [*]) (by simp [*])
  · intro h
    refine ⟨?_, ?_, ?_⟩
    · intro hboost
      rwa [if_pos hboost] at h
    · intro hboost hover
      rwa [if_neg (by simp [hboost]), if_pos hover] at h
    · intro hboost hover
      rwa [if_neg (by simp [hboost]), if_neg (by simp [hover])] at h

theorem levelUnder_of_lower (bs : BrightnessService) {c value : ℕ} (h : c ≤ value) :
    bs.levelUnder c value = bs.levelUnder c c := by
  rw [levelUnder, levelUnder, min_self, min_eq_right h]

theorem shownAsInForce_cap {bs : BrightnessService} {c : ℕ} (h : c < bs.getSettingBrightness) :
    bs.ShownAsInForce c c ↔
      (bs.isBrightnessBoosted = true →
        bs.levelUnder c bs.param.maxBrightness = bs.levelUnder c c) ∧
      (bs.isBrightnessBoosted = false → bs.isBrightnessOverridden = true →
        bs.levelUnder c bs.overriddenBrightness = bs.levelUnder c c) := by
  constructor
  · intro hshown
    exact ⟨fun hboost => (hshown.boosted hboost).symm,
      fun hboost hover => (hshown.overridden hboost hover).symm⟩
  · rintro ⟨hboosted, hoverridden⟩
    exact ⟨fun hboost => (hboosted hboost).symm,
      fun hboost hover => (hoverridden hboost hover).symm,
      fun _ _ => (bs.levelUnder_of_lower h.le).symm⟩

/-- With the screen on, a call that changes the cap leaves the device at the level in force, as
far as the new cap allows it. -/
def CapKeepsLevel : Prop :=
  ∀ bs, Reachable bs → bs.state = .on → ∀ e maxValue, bs.requestedCap e = some maxValue →
    ShareInRange e → ∀ t, bs.step e = some t → t.brightnessValueMax ≠ bs.brightnessValueMax →
    t.targetLevel = bs.levelUnder t.brightnessValueMax bs.brightnessInForce

/-- In a reachable state, whatever the display state, a call that changes the cap to `c` keeps the
level in force exactly if `KeepsInForce` holds before it. -/
theorem cap_keeps_iff {bs : BrightnessService} (h : Reachable bs) {e : BrightnessEvent}
    {maxValue : ℕ} (hcap : bs.requestedCap e = some maxValue) {t : BrightnessService}
    (ht : bs.step e = some t) {c : ℕ} (hc : t.brightnessValueMax = c)
    (hne : c ≠ bs.brightnessValueMax) :
    t.targetLevel = bs.levelUnder c bs.brightnessInForce ↔ bs.KeepsInForce c := by
  obtain rfl := Option.some.inj ((step_requestedCap hcap).symm.trans ht)
  rw [changeMaxBrightness_target h.bounded h.regular hc hne]
  rcases lt_or_ge c bs.getSettingBrightness with hlower | hhigh
  · have hvalue : bs.reapplied c = some c := if_pos hlower
    have hcap := shownAsInForce_cap hlower
    rw [hvalue]
    dsimp only
    constructor
    · intro hlevel
      refine ⟨?_, fun hle => absurd hle (not_le.mpr hlower),
        fun hle => absurd hle (not_le.mpr hlower),
        ?_⟩
      · intro _ hfades
        rw [if_pos hfades] at hlevel
        exact hcap.mp (shownAsInForce_iff.mpr hlevel)
      · intro value hreapplied hstays
        obtain rfl := Option.some.inj (hvalue.symm.trans hreapplied)
        rwa [if_neg hstays] at hlevel
    · intro hkeeps
      split
      · exact shownAsInForce_iff.mp (hcap.mpr (hkeeps.lower hlower ‹_›))
      · exact hkeeps.unfaded c hvalue ‹_›
  · by_cases hnone : bs.currentBrightness = 0
    · have hvalue : bs.reapplied c = none := by
        rw [reapplied, if_neg (not_lt.mpr hhigh), if_pos hnone]
      rw [hvalue]
      dsimp only
      constructor
      · intro hlevel
        refine ⟨fun hlower => absurd hhigh (not_le.mpr hlower), fun _ hne => absurd hnone hne,
          fun _ _ => hlevel, ?_⟩
        intro value hreapplied
        rw [hvalue] at hreapplied
        cases hreapplied
      · intro hkeeps
        exact hkeeps.unrequested hhigh hnone
    · have hvalue : bs.reapplied c = some bs.currentBrightness := by
        rw [reapplied, if_neg (not_lt.mpr hhigh), if_neg hnone]
      rw [hvalue]
      dsimp only
      constructor
      · intro hlevel
        refine ⟨fun hlower => absurd hhigh (not_le.mpr hlower), ?_,
          fun _ hzero => absurd hzero hnone, ?_⟩
        · intro _ _ hfades
          rw [if_pos hfades] at hlevel
          exact shownAsInForce_iff.mpr hlevel
        · intro value hreapplied hstays
          obtain rfl := Option.some.inj (hvalue.symm.trans hreapplied)
          rwa [if_neg hstays] at hlevel
      · intro hkeeps
        split
        · exact shownAsInForce_iff.mp (hkeeps.requested hhigh hnone ‹_›)
        · exact hkeeps.unfaded _ hvalue ‹_›

/-- A cap below the setting, with neither a boost nor an override, is the case the code was
written for: it is enough that the fade starts. -/
theorem keepsInForce_of_lower {bs : BrightnessService} {c : ℕ}
    (hboost : bs.isBrightnessBoosted = false) (hover : bs.isBrightnessOverridden = false)
    (hlower : c < bs.getSettingBrightness) (hfades : bs.FadesTo c c) : bs.KeepsInForce c := by
  have hvalue : bs.reapplied c = some c := if_pos hlower
  refine ⟨?_, fun hle => absurd hle (not_le.mpr hlower), fun hle => absurd hle (not_le.mpr hlower),
    ?_⟩
  · intro _ _
    exact ⟨fun htrue => absurd htrue (by simp [hboost]),
      fun _ htrue => absurd htrue (by simp [hover])⟩
  · intro value hreapplied hstays
    obtain rfl := Option.some.inj (hvalue.symm.trans hreapplied)
    exact absurd hfades hstays

def onBoot : BrightnessBoot := { state := .on }

theorem onBoot_reachable : Reachable onBoot.start := ⟨_, [], ⟨onBoot, rfl⟩, rfl⟩

/-- The setting is 102 and the new cap 51. -/
theorem lower_cap_keeps :
    (onBoot.start.changeMaxBrightness 51).1.targetLevel =
      onBoot.start.levelUnder 51 onBoot.start.brightnessInForce := by
  have hcap : onBoot.start.requestedCap (.setMaxBrightness (1 / 5)) = some 51 := by decide +kernel
  apply (cap_keeps_iff onBoot_reachable hcap (step_requestedCap hcap) (c := 51)
    (by decide +kernel) (by decide +kernel)).mpr
  exact keepsInForce_of_lower rfl rfl (by decide +kernel) (by decide +kernel)

/-- The level is overridden with 20, and a cap of a fifth of the range drives the device to the
level of 51. -/
theorem cap_lifts_override : ¬ CapKeepsLevel := by
  intro h
  have hreach : Reachable (onBoot.start.overrideBrightness 20 0).1 :=
    onBoot_reachable.next (e := .overrideBrightness 20 0) rfl
  have hcap : (onBoot.start.overrideBrightness 20 0).1.requestedCap (.setMaxBrightness (1 / 5)) =
      some 51 := by decide +kernel
  have hlevel := h _ hreach rfl _ 51 hcap ⟨by norm_num, by norm_num⟩ _ (step_requestedCap hcap)
    (by decide +kernel)
  exact absurd hlevel (by decide +kernel)

end BrightnessService

end DisplayPowerMgr
