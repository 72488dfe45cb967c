import DisplayPowerMgr.CapInEffect
import DisplayPowerMgr.LevelScale

/-! A cap given in nits, over whole runs: the levels it stands for on the three scales, and how
near the panel comes to the nits that were asked for. -/
namespace DisplayPowerMgr

namespace BrightnessService

def SetsCap : BrightnessEvent → Bool
  | .setMaxBrightness _ => true
  | .setMaxBrightnessNit _ => true
  | _ => false

theorem getBrightnessLevelFromNit_le (nit : ℕ) : getBrightnessLevelFromNit nit ≤ 255 := by
  have hfull : Rescale.rescale 254 598 (min (nit - 2) 598) ≤ 254 :=
    Rescale.rescale_le (by decide) (by omega)
  rw [getBrightnessLevelFromNit_eq]
  omega

theorem setMaxBrightnessNit_max (bs : BrightnessService) (nit : ℕ) :
    (bs.setMaxBrightnessNit nit).1.brightnessValueMax = getBrightnessLevelFromNit nit := by
  have hlimits := congrArg Limits.brightnessValueMax
    (changeMaxBrightness_limits bs (getBrightnessLevelFromNit nit))
  refine hlimits.trans ?_
  split
  · rename_i hsame
    exact hsame.symm
  · exact min_eq_left (getBrightnessLevelFromNit_le nit)

theorem step_keepsCap {bs t : BrightnessService} {e : BrightnessEvent} (he : SetsCap e = false)
    (ht : bs.step e = some t) : t.brightnessValueMax = bs.brightnessValueMax := by
  rcases step_limits ht with hsame | ⟨discount, duration, _, hsame⟩ | ⟨maxValue, hcap, _⟩
  · exact congrArg Limits.brightnessValueMax hsame
  · exact congrArg Limits.brightnessValueMax hsame
  · cases e with
    | setMaxBrightness value => cases he
    | setMaxBrightnessNit maxNit => cases he
    | _ => cases hcap

theorem run_keepsCap {bs t : BrightnessService} {es : List BrightnessEvent}
    (hes : ∀ e ∈ es, SetsCap e = false) (ht : Runs.run step bs es = some t) :
    t.brightnessValueMax = bs.brightnessValueMax := by
  refine Runs.run_invariant_of (J := fun s => s.brightnessValueMax = bs.brightnessValueMax)
    (P := fun e => SetsCap e = false) ?_ rfl hes ht
  intro s e u hs he hu
  exact (step_keepsCap he hu).trans hs

theorem deviceLevel_under_cap {bs : BrightnessService} (h : Regular bs.param bs.limits)
    (hmax : bs.brightnessValueMax ≤ 255) (value : ℕ) :
    ∃ v, v ≤ bs.brightnessValueMax ∧
      bs.deviceLevel value = getMappingBrightnessLevel bs.param.minBrightness v := by
  have hcapped : { bs with brightnessValueMax := bs.brightnessValueMax }.deviceLevel value =
      bs.levelUnder bs.brightnessValueMax value := deviceLevel_capped h _ value
  refine ⟨toUint32 (double ((min value bs.brightnessValueMax : ℕ) * bs.discount)), ?_, hcapped⟩
  exact (toUint32_mul_le h.discount_le (by omega)).trans (min_le_right _ _)

/-- After a cap in nits, and until another cap is set, no value stands for a panel level of more
than 3 nits above it, unless the lowest level is; and without a discount every value that the
cap cuts off stands for one of at most 3 nits below it. -/
theorem nit_cap_holds {bs t : BrightnessService} (h : Reachable bs) (nit : ℕ)
    {es : List BrightnessEvent} (hes : ∀ e ∈ es, SetsCap e = false)
    (ht : Runs.run step bs (.setMaxBrightnessNit nit :: es) = some t) :
    (∀ value, getMappingBrightnessNit (t.deviceLevel value) ≤
      max (max nit 2 + 3) (getMappingBrightnessNit t.param.minBrightness)) ∧
      (t.discount = 1 → ∀ value, getBrightnessLevelFromNit nit ≤ value →
        min (max nit 2) 600 ≤ getMappingBrightnessNit (t.deviceLevel value) + 3) := by
  obtain ⟨u, hu, hut⟩ := Runs.run_cons_some.mp ht
  obtain rfl := Option.some.inj hu
  have hcap : t.brightnessValueMax = getBrightnessLevelFromNit nit :=
    (run_keepsCap hes hut).trans (setMaxBrightnessNit_max bs nit)
  have hregular : Regular t.param t.limits := Reachable.regular (Runs.Reachable.run h ht)
  refine ⟨?_, ?_⟩
  · intro value
    obtain ⟨v, hv, hlevel⟩ :=
      deviceLevel_under_cap hregular (hcap ▸ getBrightnessLevelFromNit_le nit) value
    rw [hlevel]
    apply nit_of_level_from_nit
    exact hcap ▸ hv
  · intro hfull value hvalue
    have hcapped : { t with brightnessValueMax := t.brightnessValueMax }.deviceLevel value =
        t.levelUnder t.brightnessValueMax value := deviceLevel_capped hregular _ value
    have hcut : min value t.brightnessValueMax = getBrightnessLevelFromNit nit := by
      rw [hcap]
      exact min_eq_right hvalue
    have hlevel : t.deviceLevel value =
        getMappingBrightnessLevel t.param.minBrightness (getBrightnessLevelFromNit nit) := by
      refine hcapped.trans ?_
      have hle := getBrightnessLevelFromNit_le nit
      rw [levelUnder, hcut, hfull, mul_one, double_natCast (by omega), toUint32_natCast]
    rw [hlevel]
    exact nit_of_level_from_nit_ge le_rfl

def litUnderNits : BrightnessService :=
  ((onBoot.start.setMaxBrightnessNit 300).1.setBrightness 255 0 false).1

theorem lit_under_nits :
    (∀ value, getMappingBrightnessNit (litUnderNits.deviceLevel value) ≤
      max (max 300 2 + 3) (getMappingBrightnessNit litUnderNits.param.minBrightness)) ∧
      (litUnderNits.discount = 1 → ∀ value, getBrightnessLevelFromNit 300 ≤ value →
        min (max 300 2) 600 ≤ getMappingBrightnessNit (litUnderNits.deviceLevel value) + 3) :=
  @nit_cap_holds onBoot.start litUnderNits onBoot_reachable 300 [.setBrightness 255 0 false]
    (by decide) rfl

end BrightnessService

end DisplayPowerMgr
