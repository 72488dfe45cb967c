import DisplayPowerMgr.BrightnessEffects
import Mathlib.Data.Rat.Floor

/-! The limits of `BrightnessService`: which calls change them, and which caps keep them in
order. -/
namespace DisplayPowerMgr

namespace BrightnessService

/-- The limits and the discount, which every level that is commanded depends on. -/
structure Limits where
  param : BrightnessParam
  brightnessValueMax : ℕ
  brightnessValueMin : ℕ
  discount : ℚ

def limits (bs : BrightnessService) : Limits where
  param := bs.param
  brightnessValueMax := bs.brightnessValueMax
  brightnessValueMin := bs.brightnessValueMin
  discount := bs.discount

theorem SameButRequests.limits {a b : BrightnessService} (h : SameButRequests a b) :
    b.limits = a.limits := by
  rw [h]
  rfl

theorem SameButSensors.limits {a b : BrightnessService} (h : SameButSensors a b) :
    b.limits = a.limits := by
  rw [h]
  rfl

theorem setDisplayState_limits (bs : BrightnessService) (state : DisplayState) :
    (bs.setDisplayState state).limits = bs.limits :=
  (setDisplayState_butRequests bs state).limits.trans (enterState_same bs state).limits

theorem autoAdjustBrightness_limits (bs : BrightnessService) (enable : Bool) :
    (bs.autoAdjustBrightness enable).1.limits = bs.limits := by
  rw [autoAdjustBrightness]
  repeat' split
  · rfl
  · rfl
  · exact (activateValidAmbientSensor_same _).limits
  · rfl
  · exact (deactivateAllAmbientSensor_same bs).limits

theorem onFoldStatusChanged_limits (bs : BrightnessService) (foldStatus : FoldStatus) :
    (bs.onFoldStatusChanged foldStatus).limits = bs.limits := by
  rw [onFoldStatusChanged]
  split
  · rfl
  · have hfold : ((bs.setDisplayId
        (bs.calculationManager.curve.getDisplayIdWithFoldstatus foldStatus.toNat)).foldSensors
        foldStatus).limits = bs.limits := (foldSensors_same _ _).limits
    dsimp only
    split
    · exact (updateBrightness_sameControl _ _ _ _).butRequests.limits.trans hfold
    · exact hfold

theorem changeMaxBrightness_limits (bs : BrightnessService) (maxValue : ℕ) :
    (bs.changeMaxBrightness maxValue).1.limits =
      if maxValue = bs.brightnessValueMax then bs.limits
      else { bs.limits with brightnessValueMax := min maxValue 255 } := by
  rw [changeMaxBrightness]
  split
  · rfl
  · rw [(followMaxBrightness_butRequests _).limits]
    have hstore : (if maxValue > MAX_DEFAULT_BRGIHTNESS_LEVEL then MAX_DEFAULT_BRGIHTNESS_LEVEL
        else maxValue) = min maxValue 255 := by
      rw [MAX_DEFAULT_BRGIHTNESS_LEVEL]
      split <;> omega
    rw [storeMaxBrightness, hstore]
    rfl

/-- The cap that a call asks for. -/
def requestedCap (bs : BrightnessService) : BrightnessEvent → Option ℕ
  | .setMaxBrightness value => some (bs.maxValueOf value)
  | .setMaxBrightnessNit maxNit => some (getBrightnessLevelFromNit maxNit)
  | _ => none

theorem step_requestedCap {bs : BrightnessService} {e : BrightnessEvent} {maxValue : ℕ}
    (h : bs.requestedCap e = some maxValue) :
    bs.step e = some (bs.changeMaxBrightness maxValue).1 := by
  cases e with
  | setMaxBrightness value =>
    obtain rfl := Option.some.inj h
    rfl
  | setMaxBrightnessNit maxNit =>
    obtain rfl := Option.some.inj h
    rfl
  | _ => cases h

theorem step_limits {bs t : BrightnessService} {e : BrightnessEvent}
    (ht : bs.step e = some t) :
    t.limits = bs.limits ∨
      (∃ discount duration, e = .discountBrightness discount duration ∧
        t.limits = { bs.limits with
          discount := if bs.isScreenOn then safeDiscount discount else bs.discount }) ∨
      ∃ maxValue, bs.requestedCap e = some maxValue ∧
        t = (bs.changeMaxBrightness maxValue).1 := by
  cases e with
  | setDisplayState state => exact Or.inl (Option.some.inj ht ▸ setDisplayState_limits bs state)
  | discountBrightness discount duration =>
    exact Or.inr (Or.inl ⟨discount, duration, rfl,
      Option.some.inj ht ▸ (discountBrightness_butRequests bs discount duration).limits⟩)
  | setMaxBrightness value => exact Or.inr (Or.inr ⟨_, rfl, (Option.some.inj ht).symm⟩)
  | setMaxBrightnessNit maxNit => exact Or.inr (Or.inr ⟨_, rfl, (Option.some.inj ht).symm⟩)
  | processLightLux lux currentTime => exact Or.inl (processLightLux_butRequests ht).limits
  | autoAdjustBrightness enable =>
    exact Or.inl (Option.some.inj ht ▸ autoAdjustBrightness_limits bs enable)
  | onFoldStatusChanged foldStatus =>
    exact Or.inl (Option.some.inj ht ▸ onFoldStatusChanged_limits bs foldStatus)
  | foldDisplayModeChanged mode => exact Or.inl (Option.some.inj ht ▸ rfl)
  | setDisplayId displayId => exact Or.inl (Option.some.inj ht ▸ rfl)
  | _ => exact Or.inl (step_butRequests (by trivial) ht).limits

/-- The system parameters and the lower limit stay, the discount stays within its bounds. -/
structure Regular (boot : BrightnessParam) (m : Limits) : Prop where
  param : m.param = boot
  valueMin : m.brightnessValueMin = boot.minBrightness
  discount_pos : 0 < m.discount
  discount_le : m.discount ≤ 1

theorem safeDiscount_bounds (discount : ℚ) :
    0 < safeDiscount discount ∧ safeDiscount discount ≤ 1 := by
  have hpos : 0 < DISCOUNT_MIN := by decide +kernel
  have hone : DISCOUNT_MIN ≤ 1 := by decide +kernel
  have hmax : DISCOUNT_MAX = 1 := rfl
  rw [safeDiscount]
  rcases le_or_gt discount DISCOUNT_MAX with hle | hgt
  · rw [if_neg (not_lt.mpr hle)]
    split
    · exact ⟨hpos, hone⟩
    · exact ⟨by linarith, hmax ▸ hle⟩
  · rw [if_pos hgt, hmax, if_neg (not_lt.mpr hone)]
    norm_num

theorem Regular.step {boot : BrightnessParam} {bs t : BrightnessService} {e : BrightnessEvent}
    (h : Regular boot bs.limits) (ht : bs.step e = some t) : Regular boot t.limits := by
  rcases step_limits ht with hsame | ⟨discount, duration, _, hsame⟩ | ⟨maxValue, _, rfl⟩
  · rw [hsame]
    exact h
  · rw [hsame]
    refine ⟨h.param, h.valueMin, ?_, ?_⟩
    · dsimp only
      split
      · exact (safeDiscount_bounds discount).1
      · exact h.discount_pos
    · dsimp only
      split
      · exact (safeDiscount_bounds discount).2
      · exact h.discount_le
  · rw [changeMaxBrightness_limits]
    split
    · exact h
    · exact ⟨h.param, h.valueMin, h.discount_pos, h.discount_le⟩

theorem start_regular (boot : BrightnessBoot) : Regular boot.param boot.start.limits :=
  ⟨rfl, rfl, by norm_num [limits, BrightnessBoot.start], le_rfl⟩

/-- The limits are in order and keep every safe value between them. -/
structure OrderedLimits (bs : BrightnessService) : Prop where
  ordered : bs.brightnessValueMin ≤ bs.brightnessValueMax
  bounded : bs.brightnessValueMax ≤ 255
  safe : ∀ value, bs.brightnessValueMin ≤ bs.getSafeBrightness value ∧
    bs.getSafeBrightness value ≤ bs.brightnessValueMax

theorem orderedLimits_iff (bs : BrightnessService) :
    OrderedLimits bs ↔
      bs.brightnessValueMin ≤ bs.brightnessValueMax ∧ bs.brightnessValueMax ≤ 255 := by
  constructor
  · intro h
    exact ⟨h.ordered, h.bounded⟩
  · rintro ⟨hordered, hbounded⟩
    refine ⟨hordered, hbounded, ?_⟩
    intro value
    simp only [getSafeBrightness]
    repeat' split
    all_goals omega

def ShareInRange : BrightnessEvent → Prop
  | .setMaxBrightness value => 0 ≤ value ∧ value ≤ 1
  | _ => True

/-- A share, multiplied in `double`, rounds to nothing, which stands for the lower limit, or to the
lower limit or more; a number of nits stands for a level that is not below the lower limit. -/
def CapFits (minBrightness : ℕ) : BrightnessEvent → Prop
  | .setMaxBrightness value =>
    double (value * 255) < 1 / 2 ∨ (minBrightness : ℚ) - 1 / 2 ≤ double (value * 255)
  | .setMaxBrightnessNit maxNit => minBrightness ≤ getBrightnessLevelFromNit maxNit
  | _ => True

theorem maxValueOf_fits_iff (bs : BrightnessService) {value : ℚ} (hvalue : 0 ≤ value) :
    bs.brightnessValueMin ≤ bs.maxValueOf value ↔
      CapFits bs.brightnessValueMin (.setMaxBrightness value) := by
  have hproduct : 0 ≤ double (value * 255) := double_nonneg (by linarith)
  have hround : 0 ≤ double (value * 255) + 1 / 2 := by linarith
  have hzero : toUint32 (double (value * 255) + 1 / 2) = 0 ↔ double (value * 255) < 1 / 2 := by
    have hone := @le_toUint32 1 _ hround
    rw [Nat.cast_one] at hone
    constructor
    · intro h
      by_contra hlarge
      have := hone.mpr (by linarith)
      omega
    · intro hsmall
      by_contra h
      have := hone.mp (by omega)
      linarith
  have hshare : ((MAX_DEFAULT_BRGIHTNESS_LEVEL : ℕ) : ℚ) = 255 := by
    norm_num [MAX_DEFAULT_BRGIHTNESS_LEVEL]
  rw [maxValueOf, CapFits, hshare]
  by_cases hsmall : double (value * 255) < 1 / 2
  · rw [if_pos (Or.inl (hzero.mpr hsmall))]
    exact iff_of_true le_rfl (Or.inl hsmall)
  · have hkept : ¬ (toUint32 (double (value * 255) + 1 / 2) = 0 ∨ value < 0) := by
      rw [hzero]
      exact not_or.mpr ⟨hsmall, not_lt.mpr hvalue⟩
    rw [if_neg hkept, or_iff_right hsmall, le_toUint32 hround]
    constructor
    · intro h
      linarith
    · intro h
      linarith

theorem requestedCap_fits_iff {bs : BrightnessService} {e : BrightnessEvent} {maxValue : ℕ}
    (h : bs.requestedCap e = some maxValue) (he : ShareInRange e) :
    bs.brightnessValueMin ≤ maxValue ↔ CapFits bs.brightnessValueMin e := by
  cases e with
  | setMaxBrightness value =>
    obtain rfl := Option.some.inj h
    exact maxValueOf_fits_iff bs he.1
  | setMaxBrightnessNit maxNit =>
    obtain rfl := Option.some.inj h
    exact Iff.rfl
  | _ => cases h

/-- From limits in order a call leaves them in order exactly if its cap fits. -/
theorem OrderedLimits.step_iff {boot : BrightnessParam} {bs : BrightnessService}
    (hreg : Regular boot bs.limits) (hord : OrderedLimits bs) {e : BrightnessEvent}
    (he : ShareInRange e) :
    CapFits boot.minBrightness e ↔ ∀ t, bs.step e = some t → OrderedLimits t := by
  have hvalueMin : bs.brightnessValueMin = boot.minBrightness := hreg.valueMin
  by_cases hcap : ∃ maxValue, bs.requestedCap e = some maxValue
  · obtain ⟨maxValue, hmax⟩ := hcap
    have hlimits := changeMaxBrightness_limits bs maxValue
    have hstepMin : (bs.changeMaxBrightness maxValue).1.brightnessValueMin =
        bs.brightnessValueMin := by
      refine (congrArg Limits.brightnessValueMin hlimits).trans ?_
      split <;> rfl
    have hstepMax : (bs.changeMaxBrightness maxValue).1.brightnessValueMax =
        if maxValue = bs.brightnessValueMax then bs.brightnessValueMax else min maxValue 255 := by
      refine (congrArg Limits.brightnessValueMax hlimits).trans ?_
      split <;> rfl
    have hordered := hord.ordered
    have hbounded := hord.bounded
    rw [← hvalueMin, ← requestedCap_fits_iff hmax he, step_requestedCap hmax]
    simp only [Option.some.injEq, forall_eq', orderedLimits_iff, hstepMin, hstepMax]
    split
    · omega
    · omega
  · have hfits : CapFits boot.minBrightness e := by
      cases e with
      | setMaxBrightness value => exact absurd ⟨_, rfl⟩ hcap
      | setMaxBrightnessNit maxNit => exact absurd ⟨_, rfl⟩ hcap
      | _ => trivial
    refine iff_of_true hfits ?_
    intro t ht
    have hsame : t.brightnessValueMin = bs.brightnessValueMin ∧
        t.brightnessValueMax = bs.brightnessValueMax := by
      rcases step_limits ht with hsame | ⟨discount, duration, _, hsame⟩ | ⟨maxValue, hmax, _⟩
      · exact ⟨congrArg Limits.brightnessValueMin hsame, congrArg Limits.brightnessValueMax hsame⟩
      · exact ⟨congrArg Limits.brightnessValueMin hsame, congrArg Limits.brightnessValueMax hsame⟩
      · exact absurd ⟨maxValue, hmax⟩ hcap
    rw [orderedLimits_iff, hsame.1, hsame.2]
    exact ⟨hord.ordered, hord.bounded⟩

def AlwaysOrdered : Prop :=
  ∀ boot : BrightnessBoot, 1 ≤ boot.param.minBrightness →
    boot.param.minBrightness ≤ boot.param.maxBrightness → boot.param.maxBrightness ≤ 255 →
    ∀ es, (∀ e ∈ es, ShareInRange e) →
      Runs.Always step (fun bs e => ∀ t, bs.step e = some t → OrderedLimits t) boot.start es

/-- The limits, in order when the service starts, stay in order exactly in the runs all of whose
caps fit; any other calls may come between. -/
theorem limits_ordered_iff {boot : BrightnessBoot}
    (hle : boot.param.minBrightness ≤ boot.param.maxBrightness)
    (hmax : boot.param.maxBrightness ≤ 255) {es : List BrightnessEvent}
    (hes : ∀ e ∈ es, ShareInRange e) :
    OrderedLimits boot.start ∧
      (Runs.Always step (fun bs e => ∀ t, bs.step e = some t → OrderedLimits t) boot.start es ↔
        Runs.Always step (fun _ e => CapFits boot.param.minBrightness e) boot.start es) := by
  have hstart : OrderedLimits boot.start := (orderedLimits_iff _).mpr ⟨hle, hmax⟩
  refine ⟨hstart, ?_⟩
  exact Runs.always_keeps_iff (J := fun bs => Regular boot.param bs.limits) (P := ShareInRange)
    (fun bs e t hreg _ ht => hreg.step ht)
    (fun bs e hreg hord he => OrderedLimits.step_iff hreg hord he)
    (start_regular boot) hstart hes

theorem ten_lt : (10 : ℕ) < 2 ^ 31 := by decide

def tenBoot : BrightnessBoot where
  param := { (default : BrightnessParam) with minBrightness := 10, min_lt := ten_lt }

theorem half_cap_ordered :
    Runs.Always step (fun bs e => ∀ t, bs.step e = some t → OrderedLimits t) tenBoot.start
      [.setMaxBrightness (1 / 2), .setMaxBrightnessNit 300] := by
  refine (@limits_ordered_iff tenBoot (by decide) (by decide) _ ?_).2.mpr ?_
  · intro e he
    rcases List.mem_cons.mp he with rfl | he
    · exact ⟨by norm_num, by norm_num⟩
    · obtain rfl := List.mem_singleton.mp he
      trivial
  · refine ⟨Or.inr ?_, fun _ _ => ⟨?_, fun _ _ => trivial⟩⟩
    · exact (by decide +kernel : ((10 : ℕ) : ℚ) - 1 / 2 ≤ double (1 / 2 * 255))
    · exact (by decide +kernel : 10 ≤ getBrightnessLevelFromNit 300)

/-- A cap of two percent stands for the level 5, which is below the lowest level 10. -/
theorem cap_below_min : ¬ AlwaysOrdered := by
  intro h
  have hrun := h tenBoot (by decide) (by decide) (by decide) [.setMaxBrightness (1 / 50)] (by
    intro e he
    obtain rfl := List.mem_singleton.mp he
    exact ⟨by norm_num, by norm_num⟩)
  have hordered := (hrun.1 _ rfl).ordered
  exact absurd hordered (by decide +kernel)

end BrightnessService

end DisplayPowerMgr
