import DisplayPowerMgr.BrightnessEffects

/-! A gradual update compared with the immediate update of the same value: the level at which
the fade ends, and the way there from the level the device had before the call. -/
namespace DisplayPowerMgr.GradualBrightness

open BrightnessService

/-- Only the steps of the fade and queued setting writes fire. -/
def Undisturbed (bs : BrightnessService) (e : BrightnessEvent) : Prop :=
  ∃ id task, e = .runTask id ∧ (id, task) ∈ bs.tasks.pending ∧ task.shows = true

/-- The level that the immediate update commands, read off the device log. -/
def immediateLevel (bs : BrightnessService) (value : ℕ) (updateSetting : Bool) : ℕ :=
  ((bs.updateBrightness value 0 updateSetting).1.device.written.getLastD (0, 0)).2

def levelsBetween (bs t : BrightnessService) : List ℕ :=
  (t.device.written.drop bs.device.written.length).map Prod.snd

/-- When nothing disturbs the fade, the device ends at the level of the immediate update and
all levels on the way move from the level the device had towards it. -/
def Agrees (bs : BrightnessService) (value duration : ℕ) (updateSetting : Bool) : Prop :=
  ∀ es t, Runs.Always step Undisturbed (bs.updateBrightness value duration updateSetting).1 es →
    Runs.run step (bs.updateBrightness value duration updateSetting).1 es = some t →
    t.dimming.isDimming = false →
    let before := bs.device.level bs.displayId
    (levelsBetween bs t).getLastD before = immediateLevel bs value updateSetting ∧
      Approach.Monotonic (immediateLevel bs value updateSetting) before (levelsBetween bs t)

def AlwaysAgrees : Prop :=
  ∀ bs, Reachable bs → ∀ value duration updateSetting, 0 < duration → duration < 2 ^ 32 →
    Agrees bs value duration updateSetting

/-- With a fade, its first level is the target, or the device stands on the near side of it
just as the setting does; without a fade the device is at the target already. -/
def SetOutFromDevice (bs : BrightnessService) (value duration : ℕ) : Prop :=
  let setting := bs.getSettingBrightness
  let target := bs.deviceLevel value
  let before := bs.device.level bs.displayId
  let first := BrightnessDimming.firstLevel setting target duration
  if bs.StartsFade value then
    first = target ∨ (setting < target ∧ before ≤ first) ∨ (target < setting ∧ first ≤ before)
  else before = target

instance (bs : BrightnessService) (value duration : ℕ) :
    Decidable (SetOutFromDevice bs value duration) := by
  dsimp only [SetOutFromDevice]
  infer_instance

theorem immediateLevel_eq (bs : BrightnessService) (value : ℕ) (updateSetting : Bool) :
    immediateLevel bs value updateSetting = bs.deviceLevel value := by
  have hlog : (bs.updateBrightness value 0 updateSetting).1.device.written =
      bs.device.written ++ [(bs.displayId, bs.deviceLevel value)] := by
    rw [updateBrightness_now]
    dsimp only
    split <;> rfl
  simp [immediateLevel, hlog]

/-- After some steps of the fade `d`: the levels it showed are the commands since `bs`. -/
def FadedBy (bs : BrightnessService) (d : BrightnessDimming) (s : BrightnessService) : Prop :=
  ∃ n, s.dimming = BrightnessDimming.afterSteps n d ∧ s.displayId = bs.displayId ∧
    s.device.written =
      bs.device.written ++ (BrightnessDimming.fade n d).map (Prod.mk bs.displayId)

theorem nextStep_dimming (s : BrightnessService) :
    s.nextStep.dimming = s.dimming.nextStep.dimming := by
  rw [nextStep]
  dsimp only
  split <;> rfl

theorem nextStep_displayId (s : BrightnessService) : s.nextStep.displayId = s.displayId := by
  have hchanged (changed : Option ℕ) : (s.notifyChanged changed).displayId = s.displayId := by
    cases changed with
    | none => rfl
    | some v =>
      rw [notifyChanged, onChanged]
      dsimp only
      repeat' split
      all_goals rfl
  rw [nextStep]
  dsimp only
  split <;> exact hchanged _

theorem nextStep_written (s : BrightnessService) :
    s.nextStep.device.written =
      s.device.written ++ s.dimming.nextStep.changed.toList.map (Prod.mk s.displayId) := by
  rw [nextStep_device]
  by_cases hd : s.dimming.isDimming = true
  · cases s.dimming.nextStep.changed with
    | none => simp [notifyChanged]
    | some v => exact congrArg Device.written (onChanged_device hd v)
  · rw [BrightnessDimming.nextStep_idle (Bool.eq_false_iff.mpr hd)]
    simp [notifyChanged]

theorem FadedBy.nextStep {bs s : BrightnessService} {d : BrightnessDimming}
    (h : FadedBy bs d s) : FadedBy bs d s.nextStep := by
  obtain ⟨n, hd, hid, hw⟩ := h
  refine ⟨n + 1, ?_, ?_, ?_⟩
  · rw [nextStep_dimming, hd, BrightnessDimming.afterSteps_succ]
  · rw [nextStep_displayId, hid]
  · rw [nextStep_written, hw, hd, hid, BrightnessDimming.fade_succ, List.map_append,
      List.append_assoc]

theorem FadedBy.step {bs s t : BrightnessService} {d : BrightnessDimming} {e : BrightnessEvent}
    (h : FadedBy bs d s) (hu : Undisturbed s e) (ht : s.step e = some t) : FadedBy bs d t := by
  obtain ⟨id, task, rfl, hp, hshows⟩ := hu
  obtain ⟨task', hfind, rfl⟩ := Option.map_eq_some_iff.mp ht
  obtain rfl : task = task' := Tasks.mem_unique hp (Tasks.find?_eq_some.mp hfind)
  have hrest : FadedBy bs d { s with tasks := s.tasks.remove id } := h
  cases task with
  | nextStep => exact hrest.nextStep
  | settingBrightness value => exact h
  | dimmingSettingBrightness value => exact h
  | cancelBoostBrightness duration => cases hshows
  | waitForFirstLux value => cases hshows

theorem fadedBy_start (bs : BrightnessService) {value duration : ℕ} (hd : 0 < duration)
    (updateSetting : Bool) :
    FadedBy bs
      (bs.halted.dimming.startDimming bs.getSettingBrightness (bs.deviceLevel value) duration).1
      (bs.updateBrightness value duration updateSetting).1 := by
  have hid : bs.halted.displayId = bs.displayId := by rw [halted_sameControl bs]
  refine ⟨0, ?_, ?_, ?_⟩
  all_goals rw [updateBrightness_gradual bs hd]; unfold startDimming; dsimp only; split
  · rfl
  · rfl
  · exact hid
  · exact hid
  · simp [BrightnessDimming.fade, submitNextStep, submitTask, halted_device]
  · simp [BrightnessDimming.fade, halted_device]

theorem nextStep_submits {s : BrightnessService} (h : s.dimming.nextStep.again = true) :
    ∃ id, (id, .nextStep) ∈ s.nextStep.tasks.pending := by
  rw [nextStep]
  dsimp only
  rw [if_pos h]
  exact ⟨_, List.mem_append_right _ (List.mem_singleton_self _)⟩

/-- From a running fade whose next step is pending some undisturbed run ends the fade. -/
theorem exists_run_to_end {s : BrightnessService} (hrun : s.dimming.Running)
    (hp : ∃ id, (id, .nextStep) ∈ s.tasks.pending) :
    ∃ es t, Runs.Always step Undisturbed s es ∧ Runs.run step s es = some t ∧
      t.dimming.isDimming = false := by
  -- each step lowers the part of the distance that is not counted yet
  generalize hm : s.dimming.distance - s.dimming.currentStep = m
  induction m using Nat.strong_induction_on generalizing s with
  | _ m ih =>
    obtain ⟨id, hp⟩ := hp
    have hund : Undisturbed s (.runTask id) := ⟨id, .nextStep, rfl, hp, rfl⟩
    have hstep : s.step (.runTask id) = some { s with tasks := s.tasks.remove id }.nextStep :=
      runTask_eq (Tasks.find?_eq_some.mpr hp)
    have hdim : { s with tasks := s.tasks.remove id }.nextStep.dimming =
        s.dimming.nextStep.dimming := nextStep_dimming _
    obtain ⟨v, hadv⟩ := hrun.nextStep_advances
    rcases hadv.outcome with ⟨hagain, hrun', _, hless⟩ | ⟨_, hidle, _⟩
    · rw [← hdim] at hrun' hless
      obtain ⟨es, t, hall, ht, hend⟩ := ih _ (hm ▸ hless) hrun' (nextStep_submits hagain) rfl
      exact ⟨.runTask id :: es, t, ⟨hund, fun u hu => Option.some.inj (hstep ▸ hu) ▸ hall⟩,
        Runs.run_cons_some.mpr ⟨_, hstep, ht⟩, hend⟩
    · exact ⟨[.runTask id], _, ⟨hund, fun _ _ => trivial⟩,
        Runs.run_cons_some.mpr ⟨_, hstep, rfl⟩, hdim ▸ hidle⟩

theorem updateBrightness_running {bs : BrightnessService} (h : Bounded bs)
    {value duration : ℕ} (hd : 0 < duration) (hdur : duration < 2 ^ 32)
    (hstart : bs.StartsFade value) (updateSetting : Bool) :
    let d :=
      (bs.halted.dimming.startDimming bs.getSettingBrightness (bs.deviceLevel value) duration).1
    d.Running ∧ d.toBrightness = bs.deviceLevel value ∧
      d.currentBrightness = bs.getSettingBrightness ∧
      d.nextStep.changed = some (BrightnessDimming.firstLevel bs.getSettingBrightness
        (bs.deviceLevel value) duration) ∧
      (bs.updateBrightness value duration updateSetting).1.dimming = d ∧
      ∃ id,
        (id, .nextStep) ∈ (bs.updateBrightness value duration updateSetting).1.tasks.pending := by
  have hidle := halted_isDimming bs
  have hq : bs.halted.dimming.hasQueue = true := by rw [halted_hasQueue]; exact hstart.1
  have hS := h.getSettingBrightness_lt
  have hT := deviceLevel_lt bs value
  have heq := BrightnessDimming.startDimming_eq duration hidle hq hS hT hstart.2
  refine ⟨(BrightnessDimming.startDimming_running hidle hq hS hT hstart.2 hdur).2, ?_, ?_,
    BrightnessDimming.startDimming_firstLevel hidle hq hS hT hstart.2 hdur, ?_, ?_⟩
  · rw [heq]
  · rw [heq]
  · rw [updateBrightness_gradual bs hd, startDimming_starts hidle hq hS hT hstart.2]
    rfl
  · rw [updateBrightness_gradual bs hd, startDimming_starts hidle hq hS hT hstart.2]
    exact ⟨_, List.mem_append_right _ (List.mem_singleton_self _)⟩

theorem updateBrightness_idle {bs : BrightnessService} {value duration : ℕ} (hd : 0 < duration)
    (hstay : ¬ bs.StartsFade value) (updateSetting : Bool) :
    (bs.halted.dimming.startDimming bs.getSettingBrightness (bs.deviceLevel value)
        duration).1.isDimming = false ∧
      (bs.updateBrightness value duration updateSetting).1.dimming.isDimming = false := by
  rw [StartsFade.not_iff, ← halted_hasQueue] at hstay
  have hs := startDimming_stays (halted_isDimming bs) hstay duration
  refine ⟨hs.2, ?_⟩
  rw [updateBrightness_gradual bs hd, hs.1]
  exact hs.2

theorem FadedBy.levelsBetween {bs t : BrightnessService} {d : BrightnessDimming}
    (h : FadedBy bs d t) :
    ∃ n, t.dimming = BrightnessDimming.afterSteps n d ∧
      levelsBetween bs t = BrightnessDimming.fade n d := by
  obtain ⟨n, hd, _, hw⟩ := h
  refine ⟨n, hd, ?_⟩
  rw [GradualBrightness.levelsBetween]
  rw [hw, List.drop_left, List.map_map]
  exact List.map_id _

/-- What the levels of a finished fade are, seen from the level the device had before. -/
theorem finished_fade {d : BrightnessDimming} (hrun : d.Running) {first : ℕ}
    (hfirst : d.nextStep.changed = some first) {n : ℕ}
    (hend : (BrightnessDimming.afterSteps n d).isDimming = false) (before : ℕ) :
    (BrightnessDimming.fade n d).getLastD before = d.toBrightness ∧
      (Approach.Monotonic d.toBrightness before (BrightnessDimming.fade n d) ↔
        Approach.Toward d.toBrightness before first) := by
  have hlast := hrun.fade_getLast hend
  cases n with
  | zero => simp [BrightnessDimming.fade] at hlast
  | succ n =>
    obtain ⟨rest, hrest⟩ := BrightnessDimming.fade_head hfirst n
    have hmono := hrun.fade_strictlyMonotonic (n + 1)
    rw [hrest, Approach.strictlyMonotonic_cons] at hmono
    refine ⟨by rw [List.getLastD_eq_getLast?, hlast]; rfl, ?_⟩
    rw [hrest, Approach.monotonic_cons]
    exact and_iff_left hmono.2.monotonic

/-- A gradual update agrees with the immediate one exactly when its fade sets out from where
the device stands, or from the near side of it. -/
theorem agrees_iff {bs : BrightnessService} (h : Reachable bs) (value : ℕ) {duration : ℕ}
    (hd : 0 < duration) (hdur : duration < 2 ^ 32) (updateSetting : Bool) :
    Agrees bs value duration updateSetting ↔ SetOutFromDevice bs value duration := by
  have hstarted := @fadedBy_start bs value duration hd updateSetting
  have hfaded (es : List BrightnessEvent) (t : BrightnessService)
      (hall : Runs.Always step Undisturbed (bs.updateBrightness value duration updateSetting).1 es)
      (ht : Runs.run step (bs.updateBrightness value duration updateSetting).1 es = some t) :=
    Runs.run_invariant (fun _ _ _ => FadedBy.step) hstarted hall ht
  rw [Agrees, SetOutFromDevice]
  rw [immediateLevel_eq]
  dsimp only
  by_cases hstart : bs.StartsFade value
  · rw [if_pos hstart]
    obtain ⟨hrun, hto, hcur, hfirst, hdim, hpend⟩ :=
      updateBrightness_running h.bounded hd hdur hstart updateSetting
    generalize BrightnessDimming.firstLevel _ _ _ = first at hfirst
    have hstrict := (hrun.fade_strictlyMonotonic 1)
    simp only [BrightnessDimming.fade, hfirst, hto, hcur, Option.toList_some, List.append_nil,
      Approach.strictlyMonotonic_cons] at hstrict
    rw [← hstrict.1.toward_from]
    generalize (bs.halted.dimming.startDimming _ _ _).1 = d at *
    have hshown (t : BrightnessService) (ht : FadedBy bs d t)
        (hend : t.dimming.isDimming = false) :
        (levelsBetween bs t).getLastD (bs.device.level bs.displayId) = bs.deviceLevel value ∧
          (Approach.Monotonic (bs.deviceLevel value) (bs.device.level bs.displayId)
              (levelsBetween bs t) ↔
            Approach.Toward (bs.deviceLevel value) (bs.device.level bs.displayId) first) := by
      obtain ⟨n, hn, hl⟩ := ht.levelsBetween
      have hfin := finished_fade hrun hfirst (hn ▸ hend) (bs.device.level bs.displayId)
      rw [hto, ← hl] at hfin
      exact hfin
    constructor
    · intro hagree
      obtain ⟨es, t, hall, ht, hend⟩ := exists_run_to_end (hdim ▸ hrun) hpend
      exact (hshown t (hfaded es t hall ht) hend).2.mp (hagree es t hall ht hend).2
    · intro htoward es t hall ht hend
      have hfin := hshown t (hfaded es t hall ht) hend
      exact ⟨hfin.1, hfin.2.mpr htoward⟩
  · rw [if_neg hstart]
    obtain ⟨hidle, hidle'⟩ := updateBrightness_idle hd hstart updateSetting
    generalize (bs.halted.dimming.startDimming _ _ _).1 = d at *
    have hnone (t : BrightnessService) (ht : FadedBy bs d t) : levelsBetween bs t = [] := by
      obtain ⟨n, _, hl⟩ := ht.levelsBetween
      rw [hl, BrightnessDimming.fade_idle hidle]
    constructor
    · intro hagree
      have hzero := hagree [] _ trivial rfl hidle'
      rw [hnone _ (hfaded [] _ trivial rfl)] at hzero
      exact hzero.1
    · intro hbefore es t hall ht _
      rw [hnone t (hfaded es t hall ht)]
      exact ⟨hbefore, Approach.monotonic_nil⟩

def darkDevice : BrightnessService := { state := .on : BrightnessBoot }.start

theorem darkDevice_reachable : Reachable darkDevice := ⟨_, [], ⟨{ state := .on }, rfl⟩, rfl⟩

def darkDeviceFade : BrightnessService := (darkDevice.updateBrightness 50 64 false).1

def darkDeviceFade1 : BrightnessService :=
  { darkDeviceFade with tasks := darkDeviceFade.tasks.remove 0 }.nextStep

def darkDeviceFade2 : BrightnessService :=
  { darkDeviceFade1 with tasks := darkDeviceFade1.tasks.remove 2 }.nextStep

/-- The fade starts at the setting: on its way from 0 to 44 the device is sent to 73 first. -/
theorem fade_skips_device_level : ¬ AlwaysAgrees := by
  intro h
  have hfind0 : darkDeviceFade.tasks.find? 0 = some .nextStep := by decide +kernel
  have hfind2 : darkDeviceFade1.tasks.find? 2 = some .nextStep := by decide +kernel
  have hstep0 : darkDeviceFade.step (.runTask 0) = some darkDeviceFade1 := runTask_eq hfind0
  have hstep2 : darkDeviceFade1.step (.runTask 2) = some darkDeviceFade2 := runTask_eq hfind2
  have hund : Runs.Always step Undisturbed darkDeviceFade [.runTask 0, .runTask 2] := by
    refine ⟨⟨0, _, rfl, Tasks.find?_eq_some.mp hfind0, rfl⟩, fun t ht => ?_⟩
    obtain rfl := Option.some.inj (hstep0.symm.trans ht)
    exact ⟨⟨2, _, rfl, Tasks.find?_eq_some.mp hfind2, rfl⟩, fun _ _ => trivial⟩
  have hrun : Runs.run step darkDeviceFade [.runTask 0, .runTask 2] = some darkDeviceFade2 :=
    Runs.run_cons_some.mpr ⟨_, hstep0, Runs.run_cons_some.mpr ⟨_, hstep2, rfl⟩⟩
  have hagree := h darkDevice darkDevice_reachable 50 64 false (by decide) (by decide) _ _ hund hrun
    (by decide +kernel)
  exact absurd hagree.2 (by decide +kernel)

/-- The same fade agrees once the device stands where the setting does. -/
theorem agrees_from_setting :
    Agrees { state := .on, device := { level := fun _ => 102 } : BrightnessBoot }.start 50 64
      false :=
  (agrees_iff ⟨_, [], ⟨{ state := .on, device := { level := fun _ => 102 } }, rfl⟩, rfl⟩ 50
    (by decide) (by decide) false).mpr (by decide +kernel)

end DisplayPowerMgr.GradualBrightness
