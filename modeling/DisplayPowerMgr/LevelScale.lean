import DisplayPowerMgr.Library.Rescale
import DisplayPowerMgr.BrightnessService

/-! The scale of the setting, 1 to 255, that of the panel, 1 to 223, and the nits that stand for
the levels of both: what is kept on the way from one to another and back. -/
namespace DisplayPowerMgr

open Rescale

namespace BrightnessService

/-- What `GetDeviceBrightness` tells about a panel that shows this level. -/
def getDeviceBrightness (level : ℕ) (useHbm : Bool) : ℕ :=
  if useHbm then level else getOrigBrightnessLevel level

def getMappingBrightnessNit (level : ℕ) : ℕ :=
  let levelIn :=
    if level < MIN_MAPPING_BRGIHTNESS_LEVEL then MIN_MAPPING_BRGIHTNESS_LEVEL else level
  let levelIn :=
    if levelIn > MAX_MAPPING_BRGIHTNESS_LEVEL then MAX_MAPPING_BRGIHTNESS_LEVEL else levelIn
  let nitOut : ℚ :=
    ((levelIn - MIN_MAPPING_BRGIHTNESS_LEVEL : ℕ) : ℚ)
      * (MAX_DEFAULT_BRGIHTNESS_NIT - MIN_DEFAULT_BRGIHTNESS_NIT : ℕ)
      / (MAX_MAPPING_BRGIHTNESS_LEVEL - MIN_MAPPING_BRGIHTNESS_LEVEL : ℕ)
      + MIN_DEFAULT_BRGIHTNESS_NIT
  toUint32 (nitOut + 1 / 2)

theorem clamp_sub (lo hi level : ℕ) :
    (if (if level < lo then lo else level) > hi then hi else if level < lo then lo else level)
      - lo = min (level - lo) (hi - lo) := by
  repeat' split
  all_goals omega

theorem toUint32_rescale {a b : ℕ} (hb : 0 < b) (k c : ℕ) :
    toUint32 ((k : ℚ) * a / b + c + 1 / 2) = c + rescale a b k := floor_rescale hb c

theorem getMappingBrightnessLevel_eq (m level : ℕ) :
    getMappingBrightnessLevel m level = max m (1 + rescale 222 254 (min (level - 1) 254)) := by
  have hpick (x : ℕ) : (if x < m then m else x) = max m x := by
    split <;> omega
  rw [← clamp_sub 1 255 level, ← toUint32_rescale (by decide) _ 1]
  exact hpick _

theorem getOrigBrightnessLevel_eq (level : ℕ) :
    getOrigBrightnessLevel level = 1 + rescale 254 222 (min (level - 1) 222) := by
  rw [← clamp_sub 1 223 level]
  exact toUint32_rescale (by decide) _ 1

theorem getMappingBrightnessNit_eq (level : ℕ) :
    getMappingBrightnessNit level = 2 + rescale 598 222 (min (level - 1) 222) := by
  rw [← clamp_sub 1 223 level]
  exact toUint32_rescale (by decide) _ 2

theorem getBrightnessLevelFromNit_eq (nit : ℕ) :
    getBrightnessLevelFromNit nit = 1 + rescale 254 598 (min (nit - 2) 598) := by
  rw [← clamp_sub 2 600 nit]
  exact toUint32_rescale (by decide) _ 1

theorem deviceLevel_full {bs : BrightnessService} (h : bs.discount = 1) (value : ℕ) :
    bs.deviceLevel value =
      getMappingBrightnessLevel bs.param.minBrightness (bs.getSafeBrightness value) := by
  rw [deviceLevel, h, mul_one]
  rcases le_or_gt (bs.getSafeBrightness value) (2 ^ 53) with hexact | hlarge
  · rw [double_natCast hexact, toUint32_natCast]
  · -- both levels are cut off at the end of the scale
    have hround : 2 ^ 53 ≤ toUint32 (double (bs.getSafeBrightness value)) :=
      (le_toUint32 (double_nonneg (Nat.cast_nonneg _))).mpr
        (natCast_le_double le_rfl (by exact_mod_cast hlarge.le))
    rw [getMappingBrightnessLevel_eq, getMappingBrightnessLevel_eq]
    have hcut (n : ℕ) (hn : 2 ^ 53 ≤ n) : min (n - 1) 254 = 254 := by omega
    rw [hcut _ hround, hcut _ hlarge.le]

theorem getSafeBrightness_eq {bs : BrightnessService}
    (h : bs.brightnessValueMin ≤ bs.brightnessValueMax) (value : ℕ) :
    bs.getSafeBrightness value =
      max bs.brightnessValueMin (min bs.brightnessValueMax value) := by
  simp only [getSafeBrightness]
  repeat' split
  all_goals omega

theorem getSafeBrightness_idem (bs : BrightnessService) (value : ℕ) :
    bs.getSafeBrightness (bs.getSafeBrightness value) = bs.getSafeBrightness value := by
  simp only [getSafeBrightness]
  repeat' split
  all_goals omega

theorem deviceLevel_safe (bs : BrightnessService) (value : ℕ) :
    bs.deviceLevel (bs.getSafeBrightness value) = bs.deviceLevel value := by
  rw [deviceLevel, deviceLevel, getSafeBrightness_idem]

theorem getMappingBrightnessLevel_mono (m : ℕ) : Monotone (getMappingBrightnessLevel m) := by
  intro v w h
  rw [getMappingBrightnessLevel_eq, getMappingBrightnessLevel_eq]
  have := rescale_mono 222 254 (show min (v - 1) 254 ≤ min (w - 1) 254 by omega)
  omega

/-- A level that the panel can show comes back from the scale of the setting. -/
theorem mapping_orig {m level : ℕ} (hone : 1 ≤ level) (hm : m ≤ level)
    (hshown : level ≤ 223 ∨ level = m) :
    getMappingBrightnessLevel m (getOrigBrightnessLevel level) = level := by
  have hback : rescale 222 254 (rescale 254 222 (min (level - 1) 222)) = min (level - 1) 222 :=
    rescale_rescale (by decide) (by decide)
  have hfull : rescale 254 222 (min (level - 1) 222) ≤ 254 := rescale_le (by decide) (by omega)
  rw [getMappingBrightnessLevel_eq, getOrigBrightnessLevel_eq, Nat.add_sub_cancel_left,
    min_eq_left hfull, hback]
  omega

theorem mapping_range {m : ℕ} (v : ℕ) :
    1 ≤ getMappingBrightnessLevel m v ∧ m ≤ getMappingBrightnessLevel m v ∧
      (getMappingBrightnessLevel m v ≤ 223 ∨ getMappingBrightnessLevel m v = m) := by
  have hfull : rescale 222 254 (min (v - 1) 254) ≤ 222 := rescale_le (by decide) (by omega)
  rw [getMappingBrightnessLevel_eq]
  omega

theorem mapping_orig_mapping (m v : ℕ) :
    getMappingBrightnessLevel m (getOrigBrightnessLevel (getMappingBrightnessLevel m v)) =
      getMappingBrightnessLevel m v := by
  obtain ⟨hone, hm, hshown⟩ := @mapping_range m v
  exact mapping_orig hone hm hshown

theorem orig_range {level : ℕ} (hone : 1 ≤ level) :
    min level 255 ≤ getOrigBrightnessLevel level ∧ getOrigBrightnessLevel level ≤ 255 := by
  have hfull : rescale 254 222 (min (level - 1) 222) ≤ 254 := rescale_le (by decide) (by omega)
  have hbelow : min (level - 1) 222 ≤ rescale 254 222 (min (level - 1) 222) :=
    le_rescale (by decide) (by decide)
  rw [getOrigBrightnessLevel_eq]
  rcases Nat.lt_or_ge level 223 with hlt | hge
  · omega
  · rw [min_eq_right (show 222 ≤ level - 1 by omega), rescale_full (by decide)]
    omega

theorem getMappingBrightnessNit_mono : Monotone getMappingBrightnessNit := by
  intro v w h
  rw [getMappingBrightnessNit_eq, getMappingBrightnessNit_eq]
  have := rescale_mono 598 222 (show min (v - 1) 222 ≤ min (w - 1) 222 by omega)
  omega

/-- The panel, at or below the level that a number of nits stands for, is at most 3 nits above
that number, wherever the lowest level does not lift it. -/
theorem nit_of_level_from_nit {m v nit : ℕ} (hv : v ≤ getBrightnessLevelFromNit nit) :
    getMappingBrightnessNit (getMappingBrightnessLevel m v) ≤
      max (max nit 2 + 3) (getMappingBrightnessNit m) := by
  have hlevel : min (v - 1) 254 ≤ rescale 254 598 (min (nit - 2) 598) := by
    rw [getBrightnessLevelFromNit_eq] at hv
    omega
  -- Half a step is lost on each of the three scales.
  have hnits : rescale 598 222 (rescale 222 254 (min (v - 1) 254)) ≤ min (nit - 2) 598 + 3 := by
    obtain ⟨hcap, _⟩ := @rescale_spec 254 598 (min (nit - 2) 598) (by decide)
    obtain ⟨hpanel, _⟩ := @rescale_spec 222 254 (min (v - 1) 254) (by decide)
    obtain ⟨hnit, _⟩ := @rescale_spec 598 222 (rescale 222 254 (min (v - 1) 254)) (by decide)
    omega
  rw [getMappingBrightnessLevel_eq]
  rcases max_cases m (1 + rescale 222 254 (min (v - 1) 254)) with ⟨hmax, _⟩ | ⟨hmax, _⟩
  · rw [hmax]
    exact le_max_right _ _
  · have hfull : rescale 222 254 (min (v - 1) 254) ≤ 222 := rescale_le (by decide) (by omega)
    rw [hmax, getMappingBrightnessNit_eq, Nat.add_sub_cancel_left, min_eq_left hfull]
    apply le_max_of_le_left
    omega

theorem nit_of_level_from_nit_ge {m v nit : ℕ} (hv : getBrightnessLevelFromNit nit ≤ v) :
    min (max nit 2) 600 ≤ getMappingBrightnessNit (getMappingBrightnessLevel m v) + 3 := by
  have hlevel : rescale 254 598 (min (nit - 2) 598) ≤ min (v - 1) 254 := by
    have hfull : rescale 254 598 (min (nit - 2) 598) ≤ 254 := rescale_le (by decide) (by omega)
    rw [getBrightnessLevelFromNit_eq] at hv
    omega
  have hnits : min (nit - 2) 598 ≤ rescale 598 222 (rescale 222 254 (min (v - 1) 254)) + 3 := by
    obtain ⟨_, hcap⟩ := @rescale_spec 254 598 (min (nit - 2) 598) (by decide)
    obtain ⟨_, hpanel⟩ := @rescale_spec 222 254 (min (v - 1) 254) (by decide)
    obtain ⟨_, hnit⟩ := @rescale_spec 598 222 (rescale 222 254 (min (v - 1) 254)) (by decide)
    omega
  have hfull : rescale 222 254 (min (v - 1) 254) ≤ 222 := rescale_le (by decide) (by omega)
  have hpanel := getMappingBrightnessNit_mono
    (le_max_right m (1 + rescale 222 254 (min (v - 1) 254)))
  rw [getMappingBrightnessNit_eq, Nat.add_sub_cancel_left, min_eq_left hfull] at hpanel
  rw [getMappingBrightnessLevel_eq]
  omega

end BrightnessService

end DisplayPowerMgr
