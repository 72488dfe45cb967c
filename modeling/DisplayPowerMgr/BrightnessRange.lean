import DisplayPowerMgr.BrightnessSteps
import DisplayPowerMgr.LevelScale

/-! The levels that the service commands and stores, over whole runs: whatever is requested, in any
order, all of them lie between the lowest level of the device and 255. -/
namespace DisplayPowerMgr

namespace BrightnessService

/-- A level that the device and the setting may take, where `m` is the lowest. -/
def OnScale (m v : ℕ) : Prop := m ≤ v ∧ v ≤ 255

instance (m v : ℕ) : Decidable (OnScale m v) := inferInstanceAs (Decidable (_ ∧ _))

/-- A fade that runs is on the scale, and so is where it goes. -/
structure FadesOnScale (m : ℕ) (d : BrightnessDimming) : Prop where
  running : d.Running
  position : OnScale m d.currentBrightness
  target : OnScale m d.toBrightness

/-- A task that would store `value`, or what stands for it on the scale of the setting. -/
def Stores (task : BrightnessTask) (value : ℕ) : Prop :=
  task = .settingBrightness value ∨ task = .dimmingSettingBrightness value

/-- What drives the panel stays on the scale; `base` is what was commanded before. -/
structure KeepsScale (m : ℕ) (base : List (ℕ × ℕ)) (d : Drive) : Prop where
  param : d.param.minBrightness = m
  valueMin : d.brightnessValueMin = m
  valueMax : d.brightnessValueMax ≤ 255
  setting : OnScale m (d.brightness.getD DEFAULT_BRIGHTNESS)
  queued : ∀ p ∈ d.tasks.pending, ∀ value, Stores p.2 value → OnScale m value
  fading : d.dimming.isDimming = true → FadesOnScale m d.dimming
  written : ∃ levels, d.device.written = base ++ levels ∧ ∀ p ∈ levels, OnScale m p.2

section Range

variable {m : ℕ} {base : List (ℕ × ℕ)} {bs : BrightnessService}

theorem OnScale.lt {v : ℕ} (h : OnScale m v) : v < 2 ^ 31 := by
  have := h.2
  omega

theorem getSafeBrightness_onScale (hm : m ≤ 255) (h : KeepsScale m base bs.drive) (value : ℕ) :
    OnScale m (bs.getSafeBrightness value) := by
  have hmin : bs.brightnessValueMin = m := h.valueMin
  have hmax : bs.brightnessValueMax ≤ 255 := h.valueMax
  rw [OnScale, getSafeBrightness, hmin]
  repeat' split
  all_goals omega

theorem deviceLevel_onScale (hm : m ≤ 255) (h : KeepsScale m base bs.drive) (value : ℕ) :
    OnScale m (bs.deviceLevel value) := by
  have hparam : bs.param.minBrightness = m := h.param
  obtain ⟨_, hlow, hhigh⟩ :=
    @mapping_range m (toUint32 (double (bs.getSafeBrightness value * bs.discount)))
  rw [deviceLevel, hparam]
  refine ⟨hlow, ?_⟩
  omega

theorem getOrigBrightnessLevel_onScale (hone : 1 ≤ m) {level : ℕ} (h : OnScale m level) :
    OnScale m (getOrigBrightnessLevel level) := by
  have hlevel := @orig_range level (hone.trans h.1)
  have hle := h.2
  have hlow := h.1
  exact ⟨by omega, hlevel.2⟩

theorem OnScale.between {a b v : ℕ} (ha : OnScale m a) (hb : OnScale m b)
    (hv : Approach.StrictlyToward b a v) : OnScale m v := by
  have hlow := ha.1
  have hhigh := ha.2
  have hlow' := hb.1
  have hhigh' := hb.2
  rcases hv with ⟨hlt, hle⟩ | ⟨hle, hlt⟩
  · exact ⟨by omega, by omega⟩
  · exact ⟨by omega, by omega⟩

theorem KeepsScale.of_subset {d : Drive} (h : KeepsScale m base d) {tasks : Tasks BrightnessTask}
    (hsub : ∀ p ∈ tasks.pending, p ∈ d.tasks.pending) :
    KeepsScale m base { d with tasks := tasks } :=
  { h with queued := fun p hp => h.queued p (hsub p hp) }

theorem KeepsScale.submit {d : Drive} (h : KeepsScale m base d) {task : BrightnessTask}
    (ht : ∀ value, Stores task value → OnScale m value) :
    KeepsScale m base { d with tasks := d.tasks.submit task } := by
  refine { h with queued := ?_ }
  intro p hp value hv
  rcases List.mem_append.mp hp with hp | hp
  · exact h.queued p hp value hv
  · obtain rfl := List.mem_singleton.mp hp
    exact ht value hv

theorem KeepsScale.idle {d : Drive} (h : KeepsScale m base d) (dimming : BrightnessDimming)
    (hidle : dimming.isDimming = false) : KeepsScale m base { d with dimming := dimming } := by
  refine { h with fading := ?_ }
  intro hdim
  exact absurd (hdim.symm.trans hidle) (by decide)

theorem KeepsScale.stores {d : Drive} (h : KeepsScale m base d) {value : ℕ}
    (hv : OnScale m value) :
    KeepsScale m base { d with brightness := d.brightness.map fun _ => value } := by
  refine { h with setting := ?_ }
  have hold := h.setting
  cases hs : d.brightness with
  | none =>
    rw [hs] at hold
    exact hold
  | some _ => exact hv

theorem KeepsScale.command {d : Drive} (h : KeepsScale m base d) (displayId : ℕ) {level : ℕ}
    (hlevel : OnScale m level) :
    KeepsScale m base { d with device := (d.device.setBrightness displayId level).1 } := by
  refine { h with written := ?_ }
  obtain ⟨levels, hbase, hscale⟩ := h.written
  refine ⟨levels ++ [(displayId, level)], ?_, ?_⟩
  · show d.device.written ++ [(displayId, level)] = base ++ (levels ++ [(displayId, level)])
    rw [hbase, List.append_assoc]
  · intro p hp
    rcases List.mem_append.mp hp with hp | hp
    · exact hscale p hp
    · obtain rfl := List.mem_singleton.mp hp
      exact hlevel

theorem KeepsScale.stopIfDimming (h : KeepsScale m base bs.drive) :
    KeepsScale m base bs.stopIfDimming.drive := by
  rw [BrightnessService.stopIfDimming]
  split
  · exact (h.idle { bs.dimming with isDimming := false } rfl).of_subset
      fun _ hp => mem_ffrtCancel hp
  · exact h

theorem KeepsScale.startDimming (h : KeepsScale m base bs.drive)
    (hidle : bs.dimming.isDimming = false) {f t duration : ℕ} (hf : OnScale m f)
    (ht : OnScale m t) (hd : duration < 2 ^ 32) :
    KeepsScale m base (bs.startDimming f t duration).drive := by
  by_cases hstays : bs.dimming.hasQueue = false ∨ f = t
  · obtain ⟨heq, hover⟩ := startDimming_stays hidle hstays duration
    rw [heq]
    exact h.idle _ hover
  · rw [not_or, Bool.not_eq_false] at hstays
    obtain ⟨hqueue, hne⟩ := hstays
    have hrun := (BrightnessDimming.startDimming_running hidle hqueue hf.lt ht.lt hne hd).2
    have hfade : FadesOnScale m (bs.dimming.startDimming f t duration).1 := by
      refine ⟨hrun, ?_, ?_⟩
      · rw [BrightnessDimming.startDimming_eq duration hidle hqueue hf.lt ht.lt hne]
        exact hf
      · rw [BrightnessDimming.startDimming_eq duration hidle hqueue hf.lt ht.lt hne]
        exact ht
    rw [startDimming_starts hidle hqueue hf.lt ht.lt hne]
    have hstarted : KeepsScale m base { bs.drive with
        dimming := (bs.dimming.startDimming f t duration).1 } :=
      { h with fading := fun _ => hfade }
    refine hstarted.submit ?_
    intro v hv
    rcases hv with hv | hv
    · cases hv
    · cases hv

theorem KeepsScale.update (hm : m ≤ 255) (h : KeepsScale m base bs.drive) (value : ℕ)
    {duration : ℕ} (hd : duration < 2 ^ 32) (updateSetting : Bool) :
    KeepsScale m base (bs.updateBrightness value duration updateSetting).1.drive := by
  have hhalt : KeepsScale m base bs.halted.drive := by
    apply KeepsScale.stopIfDimming
    exact h
  have hlevel := deviceLevel_onScale hm h value
  rcases Nat.eq_zero_or_pos duration with rfl | hpos
  · have hnow := hhalt.command bs.displayId hlevel
    rw [updateBrightness_now, ← halted_device]
    dsimp only
    split
    · refine hnow.submit ?_
      intro v hv
      rcases hv with hv | hv
      · cases hv
        exact getSafeBrightness_onScale hm h value
      · cases hv
    · exact hnow
  · rw [updateBrightness_gradual bs hpos]
    exact hhalt.startDimming (halted_isDimming bs) h.setting hlevel hd

theorem KeepsScale.notifyChanged (h : KeepsScale m base bs.drive) {changed : Option ℕ}
    (hchanged : ∀ v ∈ changed, OnScale m v) :
    KeepsScale m base (bs.notifyChanged changed).drive := by
  cases changed with
  | none => exact h
  | some v =>
    have hv := hchanged v rfl
    have hcommand := h.command bs.displayId hv
    rw [BrightnessService.notifyChanged, onChanged]
    split
    · exact h
    · dsimp only
      split
      · refine hcommand.submit ?_
        intro w hw
        rcases hw with hw | hw
        · cases hw
        · cases hw
          exact hv
      · exact hcommand

theorem FadesOnScale.nextStep {d : BrightnessDimming} (h : FadesOnScale m d) :
    (∀ v ∈ d.nextStep.changed, OnScale m v) ∧
      (d.nextStep.dimming.isDimming = true → FadesOnScale m d.nextStep.dimming) := by
  obtain ⟨v, hv⟩ := h.running.nextStep_advances
  have hscale := h.position.between h.target hv.closer
  refine ⟨?_, ?_⟩
  · intro w hw
    rw [hv.shown] at hw
    exact Option.some.inj hw ▸ hscale
  · intro hdim
    rcases hv.outcome with ⟨_, hrunning, hcurrent, _⟩ | ⟨_, hover, _⟩
    · refine ⟨hrunning, ?_, ?_⟩
      · rw [hcurrent]
        exact hscale
      · rw [hv.target]
        exact h.target
    · exact absurd (hdim.symm.trans hover) (by decide)

theorem KeepsScale.nextStep (h : KeepsScale m base bs.drive) :
    KeepsScale m base bs.nextStep.drive := by
  have hfade : (∀ v ∈ bs.dimming.nextStep.changed, OnScale m v) ∧
      (bs.dimming.nextStep.dimming.isDimming = true →
        FadesOnScale m bs.dimming.nextStep.dimming) := by
    by_cases hdim : bs.dimming.isDimming = true
    · exact (h.fading hdim).nextStep
    · rw [BrightnessDimming.nextStep_idle (Bool.eq_false_iff.mpr hdim)]
      refine ⟨by simp, ?_⟩
      intro habs
      exact absurd habs hdim
  have hchanged := h.notifyChanged hfade.1
  have hstep : KeepsScale m base { bs.notifyChanged bs.dimming.nextStep.changed with
      dimming := bs.dimming.nextStep.dimming }.drive := { hchanged with fading := hfade.2 }
  rw [BrightnessService.nextStep]
  dsimp only
  split
  · refine hstep.submit ?_
    intro v hv
    rcases hv with hv | hv
    · cases hv
    · cases hv
  · exact hstep

theorem KeepsScale.part {a b : BrightnessService} (hone : 1 ≤ m) (hm : m ≤ 255)
    (hpart : Part a b) (h : KeepsScale m base a.drive) : KeepsScale m base b.drive := by
  cases hpart with
  | quiet same =>
    rw [same.drive]
    refine { h with queued := ?_ }
    intro p hp value hv
    rcases same.tasks p hp with hold | hplain
    · exact h.queued p hold value hv
    · rcases hv with hv | hv
      · rw [hv] at hplain
        exact hplain.elim
      · rw [hv] at hplain
        exact hplain.elim
  | update value duration updateSetting timely => exact h.update hm value timely updateSetting
  | stop => exact h.stopIfDimming
  | cap maxValue =>
    refine { h with valueMax := ?_ }
    show (if maxValue > 255 then 255 else maxValue) ≤ 255
    split <;> omega
  | fadeStep id pending =>
    apply KeepsScale.nextStep
    exact h.of_subset fun _ hp => (Tasks.mem_remove.mp hp).1
  | setting id value pending =>
    have hstored := h.stores (h.queued _ pending value (Or.inl rfl))
    exact hstored.of_subset fun _ hp => (Tasks.mem_remove.mp hp).1
  | dimmingSetting id value pending =>
    have hlevel := h.queued _ pending value (Or.inr rfl)
    have hstored := h.stores (getOrigBrightnessLevel_onScale hone hlevel)
    exact hstored.of_subset fun _ hp => (Tasks.mem_remove.mp hp).1

end Range

theorem start_keepsScale {boot : BrightnessBoot} (hmax : boot.param.maxBrightness ≤ 255)
    (hsetting : OnScale boot.param.minBrightness boot.start.getSettingBrightness) :
    KeepsScale boot.param.minBrightness boot.device.written boot.start.drive where
  param := rfl
  valueMin := rfl
  valueMax := hmax
  setting := hsetting
  queued := by
    intro p hp
    cases hp
  fading := by
    intro hdim
    cases hdim
  written := ⟨[], (List.append_nil _).symm, by simp⟩

/-- On a device whose limits and stored setting are on the scale, every level that any run ever
commands is on it, and so is the setting at any time: caps out of order, discounts, sleep levels,
automatic levels and the steps of overtaken fades included. -/
theorem levels_on_scale {boot : BrightnessBoot} (hone : 1 ≤ boot.param.minBrightness)
    (hmin : boot.param.minBrightness ≤ 255) (hmax : boot.param.maxBrightness ≤ 255)
    (hsleep : boot.param.sleepDarkenTime < 2 ^ 32)
    (hsetting : OnScale boot.param.minBrightness boot.start.getSettingBrightness)
    {es : List BrightnessEvent} (hes : ∀ e ∈ es, durationOf e < 2 ^ 32) {t : BrightnessService}
    (ht : Runs.run step boot.start es = some t) :
    (∃ levels, t.device.written = boot.device.written ++ levels ∧
      ∀ p ∈ levels, OnScale boot.param.minBrightness p.2) ∧
      OnScale boot.param.minBrightness t.getSettingBrightness := by
  have htimely : TimelyInside boot.start := by
    refine ⟨hsleep, ?_⟩
    intro id duration hp
    cases hp
  have h := run_keeps
    (J := fun s => KeepsScale boot.param.minBrightness boot.device.written s.drive)
    (fun a b hpart ha => ha.part hone hmin hpart) htimely (start_keepsScale hmax hsetting) hes ht
  exact ⟨h.written, h.setting⟩

def dimmedBright : BrightnessService :=
  (({ state := .on : BrightnessBoot }.start.setDisplayState .dim).setBrightness 300 0 false).1

theorem dimmed_levels_on_scale :
    (∃ levels, dimmedBright.device.written = [] ++ levels ∧ ∀ p ∈ levels, OnScale 1 p.2) ∧
      OnScale 1 dimmedBright.getSettingBrightness :=
  @levels_on_scale { state := .on } (by decide) (by decide) (by decide) (by decide) (by decide)
    [.setDisplayState .dim, .setBrightness 300 0 false] (by decide) dimmedBright rfl

end BrightnessService

end DisplayPowerMgr
