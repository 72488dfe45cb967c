import DisplayPowerMgr.DimmingThreads

/-! A newer brightness supersedes an older fade, as long as no update comes at the wrong moment of a
step of that fade. -/
namespace DisplayPowerMgr.DimmingThreads

open BrightnessService

def Waiting (s : DimmingThreads) (id : ℕ) : Prop := (id, .nextStep) ∈ s.brightness.tasks.pending

def inFlight (s : DimmingThreads) : ℕ :=
  s.brightness.tasks.pending.countP (·.2 = .nextStep) + s.running.isSome.toNat

structure Calm (s : DimmingThreads) : Prop where
  waiting : ∀ id, ¬ Waiting s id
  running : s.running = none
  updates : s.updates = 0
  lastNow : s.lastNow = 0
  isGradual : s.isGradual = false
  fadeOf : ∀ id, s.fadeOf id = 0

/-- A step of a fade older than the last update that wrote its level commands the device. -/
def OldWrite (s : DimmingThreads) (e : ThreadEvent) (t : DimmingThreads) : Prop :=
  e = .proceeds ∧ (∃ r, s.running = some r ∧ r.fade < s.lastNow) ∧
    t.brightness.device.written ≠ s.brightness.device.written

def Supersedes (s : DimmingThreads) (e : ThreadEvent) : Prop :=
  ∀ t, step s e = some t → ¬ OldWrite s e t ∧ (t.isGradual = true → inFlight t ≤ 1)

def AlwaysSupersedes : Prop :=
  ∀ s, Calm s → ∀ es, Runs.Always step Supersedes s es

/-- Past the last check before the write. -/
def IsWriting (s : DimmingThreads) : Prop :=
  ∃ fade value isLast, s.running = some ⟨fade, .writing value isLast⟩

/-- A gradual update starts a fade: there is a queue, and the setting, on its own scale, is not the
level to reach. -/
def Fades (bs : BrightnessService) (value : ℕ) : Prop :=
  bs.dimming.hasQueue = true ∧
    toInt32 (bs.deviceLevel value) - toInt32 bs.getSettingBrightness ≠ 0

/-- An immediate update that the device accepts does not come between a check and its write, and a
fade is started only when no step runs and none waits that `StopDimming` will not be asked for. -/
def Orderly (s : DimmingThreads) : ThreadEvent → Prop
  | .updateBrightness value gradualDuration _ =>
    if gradualDuration = 0 then s.brightness.device.answers.headD true = true → ¬ IsWriting s
    else Fades s.brightness value →
      s.running = none ∧ (s.brightness.dimming.isDimming = false → ∀ id, ¬ Waiting s id)
  | _ => True

instance (s : DimmingThreads) : Decidable (IsWriting s) :=
  match h : s.running with
  | some ⟨fade, .writing value isLast⟩ => isTrue ⟨fade, value, isLast, h⟩
  | none => isFalse fun ⟨_, _, _, hr⟩ => nomatch h.symm.trans hr
  | some ⟨_, .checked⟩ => isFalse fun ⟨_, _, _, hr⟩ => nomatch h.symm.trans hr
  | some ⟨_, .advanced _ _⟩ => isFalse fun ⟨_, _, _, hr⟩ => nomatch h.symm.trans hr
  | some ⟨_, .wrote _ _ _⟩ => isFalse fun ⟨_, _, _, hr⟩ => nomatch h.symm.trans hr
  | some ⟨_, .finishing _⟩ => isFalse fun ⟨_, _, _, hr⟩ => nomatch h.symm.trans hr

instance (bs : BrightnessService) (value : ℕ) : Decidable (Fades bs value) :=
  inferInstanceAs (Decidable (_ ∧ _))

theorem pending_iff_waiting {s : DimmingThreads} :
    (∀ p ∈ s.brightness.tasks.pending, p.2 ≠ .nextStep) ↔ ∀ id, ¬ Waiting s id := by
  constructor
  · intro h id hid
    exact h _ hid rfl
  · rintro h ⟨id, task⟩ hp (rfl : task = _)
    exact h id hp

instance (s : DimmingThreads) : Decidable (∀ id, ¬ Waiting s id) :=
  decidable_of_iff (∀ p ∈ s.brightness.tasks.pending, p.2 ≠ .nextStep) pending_iff_waiting

instance (s : DimmingThreads) : ∀ e, Decidable (Orderly s e)
  | .updateBrightness _ gradualDuration _ =>
    inferInstanceAs (Decidable (if gradualDuration = 0 then _ else _))
  | .fires _ => isTrue trivial
  | .proceeds => isTrue trivial
  | .settingFires _ => isTrue trivial

/-! ## Updates and the tasks of fades -/

theorem fades_starts {bs : BrightnessService} {value duration : ℕ} (h : Fades bs value)
    (hd : 0 < duration) (updateSetting : Bool) :
    ∃ d : BrightnessDimming, d.isDimming = true ∧ d.hasQueue = true ∧
      bs.updateBrightness value duration updateSetting =
        ({ bs.halted with dimming := d }.submitNextStep, true) := by
  have hidle := halted_isDimming bs
  have hqueue := halted_hasQueue bs
  rw [h.1] at hqueue
  rw [updateBrightness_gradual bs hd]
  refine ⟨(bs.halted.dimming.startDimming bs.getSettingBrightness (bs.deviceLevel value)
    duration).1, ?_, ?_, ?_⟩
  · simp [BrightnessDimming.startDimming, hidle, hqueue, h.2]
  · rw [BrightnessDimming.startDimming_hasQueue]
    exact hqueue
  · simp [startDimming, BrightnessDimming.startDimming, hidle, hqueue, h.2]

theorem updateBrightness_stays {bs : BrightnessService} {value duration : ℕ}
    (h : ¬ (0 < duration ∧ Fades bs value)) (updateSetting : Bool) :
    (bs.updateBrightness value duration updateSetting).1.dimming.isDimming = false ∧
      (bs.updateBrightness value duration updateSetting).1.animatorTaskHandle =
        bs.halted.animatorTaskHandle ∧
      ∀ id, (id, .nextStep) ∈ (bs.updateBrightness value duration updateSetting).1.tasks.pending →
        (id, .nextStep) ∈ bs.halted.tasks.pending := by
  have hidle := halted_isDimming bs
  rcases Nat.eq_zero_or_pos duration with rfl | hd
  · rw [updateBrightness_now]
    dsimp only
    split
    · refine ⟨hidle, rfl, ?_⟩
      intro id hid
      rcases List.mem_append.mp hid with hid | hid
      · exact hid
      · exact absurd (Prod.mk.inj (List.mem_singleton.mp hid)).2 (by simp)
    · exact ⟨hidle, rfl, fun id hid => hid⟩
  · have hno : ¬ Fades bs value := fun hf => h ⟨hd, hf⟩
    have hstay : bs.halted.dimming.hasQueue = false ∨
        toInt32 (bs.deviceLevel value) - toInt32 bs.getSettingBrightness = 0 := by
      rw [halted_hasQueue]
      by_contra hboth
      obtain ⟨hqueue, hne⟩ := not_or.mp hboth
      exact hno ⟨Bool.eq_true_of_not_eq_false hqueue, hne⟩
    obtain ⟨hnone, hover⟩ := BrightnessDimming.startDimming_level hidle hstay duration
    rw [updateBrightness_gradual bs hd, startDimming]
    dsimp only
    rw [hnone]
    exact ⟨hover, rfl, fun id hid => hid⟩

theorem updateBrightness_hasQueue (bs : BrightnessService) (value duration : ℕ)
    (updateSetting : Bool) :
    (bs.updateBrightness value duration updateSetting).1.dimming.hasQueue =
      bs.dimming.hasQueue := by
  rcases Nat.eq_zero_or_pos duration with rfl | hd
  · rw [updateBrightness_now]
    dsimp only
    split
    · exact halted_hasQueue bs
    · exact halted_hasQueue bs
  · rw [updateBrightness_gradual bs hd, startDimming]
    dsimp only
    split
    · exact (BrightnessDimming.startDimming_hasQueue _ _ _ _).trans (halted_hasQueue bs)
    · exact (BrightnessDimming.startDimming_hasQueue _ _ _ _).trans (halted_hasQueue bs)

/-! ## What orderly updates keep -/

/-- At most one step of a fade is in flight, by the handle that `StopDimming` cancels, and an active
fade is not older than the last update that wrote its level. -/
structure Sound (s : DimmingThreads) : Prop where
  handle : ∀ id, Waiting s id → s.brightness.animatorTaskHandle = some id
  alone : ∀ id, Waiting s id → s.running = none
  waiting_queue : ∀ id, Waiting s id → s.brightness.dimming.hasQueue = true
  running_queue : ∀ r, s.running = some r → s.brightness.dimming.hasQueue = true
  waiting_newest : s.brightness.dimming.isDimming = true → ∀ id, Waiting s id →
    s.lastNow ≤ s.fadeOf id
  running_newest : s.brightness.dimming.isDimming = true → ∀ r, s.running = some r →
    s.lastNow ≤ r.fade
  writing_newest : ∀ fade value isLast, s.running = some ⟨fade, .writing value isLast⟩ →
    s.lastNow ≤ fade

structure Numbered (s : DimmingThreads) : Prop where
  lastNow : s.lastNow ≤ s.updates
  running : ∀ r, s.running = some r → r.fade ≤ s.updates
  fadeOf : ∀ id, s.fadeOf id ≤ s.updates

theorem Calm.sound {s : DimmingThreads} (h : Calm s) : Sound s where
  handle id hid := absurd hid (h.waiting id)
  alone id hid := absurd hid (h.waiting id)
  waiting_queue id hid := absurd hid (h.waiting id)
  running_queue _ hr := nomatch h.running.symm.trans hr
  waiting_newest _ id hid := absurd hid (h.waiting id)
  running_newest _ _ hr := nomatch h.running.symm.trans hr
  writing_newest _ _ _ hr := nomatch h.running.symm.trans hr

theorem Calm.numbered {s : DimmingThreads} (h : Calm s) : Numbered s where
  lastNow := by rw [h.lastNow]; exact Nat.zero_le _
  running r hr := nomatch h.running.symm.trans hr
  fadeOf id := by rw [h.fadeOf id]; exact Nat.zero_le _

theorem Sound.halted {s : DimmingThreads} (h : Sound s) {id : ℕ}
    (hid : (id, .nextStep) ∈ s.brightness.halted.tasks.pending) :
    Waiting s id ∧ s.brightness.dimming.isDimming = false := by
  have hwait : Waiting s id := mem_halted hid
  refine ⟨hwait, ?_⟩
  by_contra hdim
  have hd : s.brightness.dimming.isDimming = true := Bool.eq_true_of_not_eq_false hdim
  have hpending : s.brightness.tasks.isPending id = true := by
    rw [Tasks.isPending, Tasks.find?_eq_some.mpr hwait]
    rfl
  have hcancel : s.brightness.halted.tasks = s.brightness.tasks.remove id := by
    simp [BrightnessService.halted, stopIfDimming, hd, stopDimming, h.handle id hwait, ffrtCancel,
      h.waiting_queue id hwait, hpending]
  rw [hcancel] at hid
  exact (Tasks.mem_remove.mp hid).2 rfl

theorem halted_handle {bs : BrightnessService} (h : bs.dimming.isDimming = false) :
    bs.halted.animatorTaskHandle = bs.animatorTaskHandle := by
  simp [BrightnessService.halted, stopIfDimming, h]

theorem Numbered.updateBrightness {s : DimmingThreads} (h : Numbered s)
    (value gradualDuration : ℕ) (updateSetting : Bool) :
    Numbered (s.updateBrightness value gradualDuration updateSetting) := by
  have hlast := h.lastNow
  constructor
  · rw [DimmingThreads.updateBrightness]
    dsimp only
    split
    · exact le_rfl
    · omega
  · intro r hr
    exact Nat.le_succ_of_le (h.running r hr)
  · intro id
    show Function.update s.fadeOf _ _ id ≤ s.updates + 1
    by_cases hid : id = s.brightness.tasks.next
    · rw [hid, Function.update_self]
    · rw [Function.update_of_ne hid]
      exact Nat.le_succ_of_le (h.fadeOf id)

theorem Sound.starts {s : DimmingThreads} (hn : Numbered s) {value gradualDuration : ℕ}
    {updateSetting : Bool} (h : Sound s) (hd : 0 < gradualDuration)
    (hf : Fades s.brightness value)
    (ho : Orderly s (.updateBrightness value gradualDuration updateSetting)) :
    Sound (s.updateBrightness value gradualDuration updateSetting) := by
  obtain ⟨d, hdim, hqueue, hupdate⟩ := fades_starts hf hd updateSetting
  rw [Orderly, if_neg (by omega)] at ho
  obtain ⟨hrun, hcalm⟩ := ho hf
  have hnext := halted_next s.brightness
  have hlast := hn.lastNow
  have heq : s.updateBrightness value gradualDuration updateSetting =
      { s with
        brightness := ({ s.brightness.halted with dimming := d } : BrightnessService).submitNextStep
        updates := s.updates + 1
        isGradual := s.isGradual || gradualDuration > 0
        fadeOf := Function.update s.fadeOf s.brightness.tasks.next (s.updates + 1) } := by
    rw [DimmingThreads.updateBrightness, hupdate]
    simp [Nat.ne_of_gt hd]
  have hnew : ∀ id, Waiting (s.updateBrightness value gradualDuration updateSetting) id →
      id = s.brightness.tasks.next := by
    intro id hid
    rw [heq] at hid
    rcases List.mem_append.mp hid with hid | hid
    · obtain ⟨hwait, hidle⟩ := h.halted hid
      exact absurd hwait (hcalm hidle id)
    · rw [(Prod.mk.inj (List.mem_singleton.mp hid)).1]
      exact hnext
  constructor
  · intro id hid
    rw [hnew id hid, heq]
    exact congrArg some hnext
  · intro id _
    rw [heq]
    exact hrun
  · intro id _
    rw [heq]
    exact hqueue
  · intro r _
    rw [heq]
    exact hqueue
  · intro _ id hid
    rw [hnew id hid, heq]
    show s.lastNow ≤ Function.update s.fadeOf s.brightness.tasks.next (s.updates + 1) _
    rw [Function.update_self]
    omega
  · intro _ r hr
    rw [heq] at hr
    exact nomatch hrun.symm.trans hr
  · intro fade value' isLast hr
    rw [heq] at hr
    exact nomatch hrun.symm.trans hr

theorem Sound.stays {s : DimmingThreads} {value gradualDuration : ℕ} {updateSetting : Bool}
    (h : Sound s) (hno : ¬ (0 < gradualDuration ∧ Fades s.brightness value))
    (ho : Orderly s (.updateBrightness value gradualDuration updateSetting)) :
    Sound (s.updateBrightness value gradualDuration updateSetting) := by
  obtain ⟨hover, hhandle, hold⟩ := updateBrightness_stays hno updateSetting
  have hqueue : (s.updateBrightness value gradualDuration
      updateSetting).brightness.dimming.hasQueue = s.brightness.dimming.hasQueue :=
    updateBrightness_hasQueue _ _ _ _
  have hwait : ∀ id, Waiting (s.updateBrightness value gradualDuration updateSetting) id →
      Waiting s id ∧ s.brightness.dimming.isDimming = false :=
    fun id hid => h.halted (hold id hid)
  constructor
  · intro id hid
    obtain ⟨hid, hidle⟩ := hwait id hid
    exact hhandle.trans ((halted_handle hidle).trans (h.handle id hid))
  · intro id hid
    exact h.alone id (hwait id hid).1
  · intro id hid
    rw [hqueue]
    exact h.waiting_queue id (hwait id hid).1
  · intro r hr
    rw [hqueue]
    exact h.running_queue r hr
  · intro hdim
    exact nomatch hover.symm.trans hdim
  · intro hdim
    exact nomatch hover.symm.trans hdim
  · intro fade value' isLast hr
    have hwriting : IsWriting s := ⟨fade, value', isLast, hr⟩
    have hlast := h.writing_newest fade value' isLast hr
    rw [DimmingThreads.updateBrightness]
    dsimp only
    split
    · -- a level that the device took was written while nobody was about to write
      rename_i hnow
      obtain ⟨hzero, hsuccess⟩ := Bool.and_eq_true_iff.mp hnow
      obtain rfl : gradualDuration = 0 := of_decide_eq_true hzero
      rw [Orderly, if_pos rfl] at ho
      rw [updateBrightness_now] at hsuccess
      exact absurd hwriting (ho hsuccess)
    · exact hlast

/-- `t` has the fades of `s`: the step that runs may have moved on and tasks other than steps of
fades may have come or gone. -/
structure SameFades (s t : DimmingThreads) : Prop where
  waiting : ∀ id, Waiting t id → Waiting s id
  isDimming : t.brightness.dimming.isDimming = s.brightness.dimming.isDimming
  hasQueue : t.brightness.dimming.hasQueue = s.brightness.dimming.hasQueue
  handle : t.brightness.animatorTaskHandle = s.brightness.animatorTaskHandle
  updates : t.updates = s.updates
  lastNow : t.lastNow = s.lastNow
  fadeOf : t.fadeOf = s.fadeOf
  running : t.running.map RunningStep.fade = s.running.map RunningStep.fade

theorem SameFades.ran {s t : DimmingThreads} (h : SameFades s t) {r : RunningStep}
    (hr : t.running = some r) : ∃ r', s.running = some r' ∧ r'.fade = r.fade := by
  have hfade := h.running
  rw [hr] at hfade
  exact Option.map_eq_some_iff.mp hfade.symm

theorem SameFades.sound {s t : DimmingThreads} (h : SameFades s t) (hs : Sound s)
    (hw : ∀ fade value isLast, t.running = some ⟨fade, .writing value isLast⟩ →
      s.lastNow ≤ fade) : Sound t := by
  constructor
  · intro id hid
    rw [h.handle]
    exact hs.handle id (h.waiting id hid)
  · intro id hid
    have halone := h.running
    rw [hs.alone id (h.waiting id hid)] at halone
    exact Option.map_eq_none_iff.mp halone
  · intro id hid
    rw [h.hasQueue]
    exact hs.waiting_queue id (h.waiting id hid)
  · intro r hr
    obtain ⟨r', hr', _⟩ := h.ran hr
    rw [h.hasQueue]
    exact hs.running_queue r' hr'
  · intro hdim id hid
    rw [h.isDimming] at hdim
    rw [h.lastNow, h.fadeOf]
    exact hs.waiting_newest hdim id (h.waiting id hid)
  · intro hdim r hr
    obtain ⟨r', hr', hfade⟩ := h.ran hr
    rw [h.isDimming] at hdim
    rw [h.lastNow, ← hfade]
    exact hs.running_newest hdim r' hr'
  · intro fade value isLast hr
    rw [h.lastNow]
    exact hw fade value isLast hr

theorem SameFades.numbered {s t : DimmingThreads} (h : SameFades s t) (hs : Numbered s) :
    Numbered t := by
  constructor
  · rw [h.lastNow, h.updates]
    exact hs.lastNow
  · intro r hr
    obtain ⟨r', hr', hfade⟩ := h.ran hr
    rw [h.updates, ← hfade]
    exact hs.running r' hr'
  · intro id
    rw [h.fadeOf, h.updates]
    exact hs.fadeOf id

theorem proceed_sameFades {s : DimmingThreads} {fade : ℕ} {phase : NextStepPhase}
    (hr : s.running = some ⟨fade, phase⟩) (hphase : ∀ isLast, phase ≠ .finishing isLast) :
    SameFades s (s.proceed fade phase) := by
  have hmoved : ∀ p, (some (⟨fade, p⟩ : RunningStep)).map RunningStep.fade =
      s.running.map RunningStep.fade := by
    intro p
    rw [hr]
    rfl
  cases phase with
  | checked =>
    exact ⟨fun id hid => hid, advance_isDimming _, advance_hasQueue _, rfl, rfl, rfl, rfl,
      hmoved _⟩
  | advanced value isLast =>
    exact ⟨fun id hid => hid, rfl, rfl, rfl, rfl, rfl, rfl, hmoved _⟩
  | writing value isLast =>
    exact ⟨fun id hid => hid, rfl, rfl, rfl, rfl, rfl, rfl, hmoved _⟩
  | wrote value isSuccess isLast =>
    rw [proceed]
    split
    · refine ⟨?_, rfl, rfl, rfl, rfl, rfl, rfl, hmoved _⟩
      intro id hid
      rcases List.mem_append.mp hid with hid | hid
      · exact hid
      · exact absurd (Prod.mk.inj (List.mem_singleton.mp hid)).2 (by simp)
    · exact ⟨fun id hid => hid, rfl, rfl, rfl, rfl, rfl, rfl, hmoved _⟩
  | finishing isLast => exact absurd rfl (hphase isLast)

theorem settingFires_sameFades {s t : DimmingThreads} {id : ℕ}
    (ht : step s (.settingFires id) = some t) : SameFades s t ∧ t.running = s.running := by
  obtain ⟨hwrites, ht⟩ := Option.ite_none_right_eq_some.mp ht
  obtain ⟨bs, hbs, rfl⟩ := Option.map_eq_some_iff.mp ht
  refine ⟨?_, rfl⟩
  cases htask : s.brightness.tasks.find? id with
  | none =>
    rw [htask] at hwrites
    cases hwrites
  | some task =>
    rw [runTask_eq htask] at hbs
    rw [htask] at hwrites
    obtain rfl := Option.some.inj hbs
    have hwait : ∀ i, (i, BrightnessTask.nextStep) ∈ (s.brightness.tasks.remove id).pending →
        Waiting s i := fun i hi => (Tasks.mem_remove.mp hi).1
    cases task with
    | settingBrightness safeBrightness => exact ⟨hwait, rfl, rfl, rfl, rfl, rfl, rfl, rfl⟩
    | dimmingSettingBrightness currentValue => exact ⟨hwait, rfl, rfl, rfl, rfl, rfl, rfl, rfl⟩
    | nextStep => cases hwrites
    | cancelBoostBrightness gradualDuration => cases hwrites
    | waitForFirstLux screenOnBrightness => cases hwrites

theorem Sound.fire {s : DimmingThreads} {id : ℕ} (h : Sound s) (hid : Waiting s id) :
    Sound (s.fire id) := by
  have hnone : ∀ i, ¬ Waiting (s.fire id) i := by
    intro i hi
    obtain ⟨hmem, hne⟩ := Tasks.mem_remove.mp hi
    have hsame : some i = some id := (h.handle i hmem).symm.trans (h.handle id hid)
    exact hne (Option.some.inj hsame)
  have hran : ∀ r, (s.fire id).running = some r →
      s.brightness.dimming.isDimming = true ∧ r = ⟨s.fadeOf id, .checked⟩ := by
    intro r hr
    obtain ⟨hactive, hr⟩ := Option.ite_none_right_eq_some.mp hr
    exact ⟨(Bool.and_eq_true_iff.mp hactive).1, (Option.some.inj hr).symm⟩
  constructor
  · exact fun i hi => absurd hi (hnone i)
  · exact fun i hi => absurd hi (hnone i)
  · exact fun i hi => absurd hi (hnone i)
  · intro r _
    exact h.waiting_queue id hid
  · exact fun _ i hi => absurd hi (hnone i)
  · intro _ r hr
    obtain ⟨hdim, rfl⟩ := hran r hr
    exact h.waiting_newest hdim id hid
  · intro fade value isLast hr
    exact nomatch congrArg RunningStep.phase (hran _ hr).2

theorem Numbered.fire {s : DimmingThreads} (h : Numbered s) (id : ℕ) : Numbered (s.fire id) := by
  refine ⟨h.lastNow, ?_, h.fadeOf⟩
  intro r hr
  obtain ⟨_, hr⟩ := Option.ite_none_right_eq_some.mp hr
  obtain rfl := Option.some.inj hr
  exact h.fadeOf id

/-- A step that finishes either ends its fade or waits again as the only one. -/
theorem Sound.finishes {s : DimmingThreads} (h : Sound s) {fade : ℕ} {isLast : Bool}
    (hr : s.running = some ⟨fade, .finishing isLast⟩) :
    Sound (s.proceed fade (.finishing isLast)) := by
  have hcalm : ∀ id, ¬ Waiting s id := fun id hid => nomatch (h.alone id hid).symm.trans hr
  cases isLast with
  | true =>
    constructor
    · exact fun id hid => absurd hid (hcalm id)
    · exact fun _ _ => rfl
    · exact fun id hid => absurd hid (hcalm id)
    · exact fun r hr => nomatch hr
    · exact fun hdim => nomatch hdim
    · exact fun hdim => nomatch hdim
    · exact fun _ _ _ hr => nomatch hr
  | false =>
    have hnew : ∀ id, Waiting (s.proceed fade (.finishing false)) id →
        id = s.brightness.tasks.next := by
      intro id hid
      rcases List.mem_append.mp hid with hid | hid
      · exact absurd hid (hcalm id)
      · exact (Prod.mk.inj (List.mem_singleton.mp hid)).1
    constructor
    · intro id hid
      rw [hnew id hid]
      rfl
    · exact fun _ _ => rfl
    · exact fun _ _ => h.running_queue _ hr
    · exact fun r hr => nomatch hr
    · intro hdim id hid
      rw [hnew id hid]
      show s.lastNow ≤ Function.update s.fadeOf s.brightness.tasks.next fade _
      rw [Function.update_self]
      exact h.running_newest hdim _ hr
    · exact fun _ r hr => nomatch hr
    · exact fun _ _ _ hr => nomatch hr

theorem Numbered.finishes {s : DimmingThreads} (h : Numbered s) {fade : ℕ} {isLast : Bool}
    (hr : s.running = some ⟨fade, .finishing isLast⟩) :
    Numbered (s.proceed fade (.finishing isLast)) := by
  cases isLast with
  | true => exact ⟨h.lastNow, (fun r hr => nomatch hr), h.fadeOf⟩
  | false =>
    refine ⟨h.lastNow, (fun r hr => nomatch hr), ?_⟩
    intro id
    show Function.update s.fadeOf _ _ id ≤ s.updates
    by_cases hid : id = s.brightness.tasks.next
    · rw [hid, Function.update_self]
      exact h.running _ hr
    · rw [Function.update_of_ne hid]
      exact h.fadeOf id

/-! ## Every step -/

theorem finishing_or (phase : NextStepPhase) :
    (∃ isLast, phase = .finishing isLast) ∨ ∀ isLast, phase ≠ .finishing isLast := by
  cases phase with
  | finishing isLast => exact .inl ⟨isLast, rfl⟩
  | _ => exact .inr fun _ => nofun

theorem Numbered.next {s t : DimmingThreads} {e : ThreadEvent} (h : Numbered s)
    (ht : step s e = some t) : Numbered t := by
  cases e with
  | updateBrightness value gradualDuration updateSetting =>
    exact Option.some.inj ht ▸ h.updateBrightness value gradualDuration updateSetting
  | fires id =>
    obtain ⟨_, ht⟩ := Option.ite_none_left_eq_some.mp ht
    exact Option.some.inj ht ▸ h.fire id
  | proceeds =>
    obtain ⟨⟨fade, phase⟩, hr, rfl⟩ := Option.map_eq_some_iff.mp ht
    rcases finishing_or phase with ⟨isLast, rfl⟩ | hphase
    · exact h.finishes hr
    · exact (proceed_sameFades hr hphase).numbered h
  | settingFires id => exact (settingFires_sameFades ht).1.numbered h

theorem Sound.proceed {s : DimmingThreads} (h : Sound s) {fade : ℕ} {phase : NextStepPhase}
    (hr : s.running = some ⟨fade, phase⟩) (hphase : ∀ isLast, phase ≠ .finishing isLast) :
    Sound (s.proceed fade phase) := by
  refine (proceed_sameFades hr hphase).sound h ?_
  intro fade' value isLast hr'
  cases phase with
  | checked => exact nomatch hr'
  | advanced value' isLast' =>
    have hrun := Option.some.inj hr'
    obtain rfl : fade = fade' := congrArg RunningStep.fade hrun
    by_cases hdim : s.brightness.dimming.isDimming = true
    · exact h.running_newest hdim _ hr
    · have hnext := congrArg RunningStep.phase hrun
      dsimp only at hnext
      rw [if_neg hdim] at hnext
      cases hnext
  | writing value' isLast' => exact nomatch hr'
  | wrote value' isSuccess isLast' => exact nomatch hr'
  | finishing isLast' => exact absurd rfl (hphase isLast')

theorem Sound.next {s t : DimmingThreads} {e : ThreadEvent} (hn : Numbered s) (h : Sound s)
    (ho : Orderly s e) (ht : step s e = some t) : Sound t := by
  cases e with
  | updateBrightness value gradualDuration updateSetting =>
    obtain rfl := Option.some.inj ht
    by_cases hstart : 0 < gradualDuration ∧ Fades s.brightness value
    · exact h.starts hn hstart.1 hstart.2 ho
    · exact h.stays hstart ho
  | fires id =>
    obtain ⟨henabled, ht⟩ := Option.ite_none_left_eq_some.mp ht
    obtain ⟨_, hid⟩ := not_or.mp henabled
    exact Option.some.inj ht ▸ h.fire (Tasks.find?_eq_some.mp (not_not.mp hid))
  | proceeds =>
    obtain ⟨⟨fade, phase⟩, hr, rfl⟩ := Option.map_eq_some_iff.mp ht
    rcases finishing_or phase with ⟨isLast, rfl⟩ | hphase
    · exact h.finishes hr
    · exact h.proceed hr hphase
  | settingFires id =>
    obtain ⟨hsame, hkept⟩ := settingFires_sameFades ht
    refine hsame.sound h ?_
    intro fade value isLast hr
    exact h.writing_newest fade value isLast (hkept.symm.trans hr)

theorem Sound.inFlight_le {s : DimmingThreads} (h : Sound s) : inFlight s ≤ 1 := by
  have hkind : ∀ p ∈ s.brightness.tasks.pending, decide (p.2 = BrightnessTask.nextStep) = true →
      Waiting s p.1 := by
    rintro ⟨id, task⟩ hp htask
    obtain rfl := of_decide_eq_true htask
    exact hp
  cases hrun : s.running with
  | some r =>
    have hzero : s.brightness.tasks.pending.countP (·.2 = .nextStep) = 0 := by
      apply List.countP_eq_zero.mpr
      intro p hp htask
      exact nomatch (h.alone p.1 (hkind p hp htask)).symm.trans hrun
    rw [inFlight, hzero, hrun]
    exact le_rfl
  | none =>
    have hone : s.brightness.tasks.pending.countP (·.2 = .nextStep) ≤ 1 := by
      apply Tasks.countP_le_one (s.brightness.animatorTaskHandle.getD 0)
      intro p hp htask
      rw [h.handle p.1 (hkind p hp htask)]
      rfl
    rw [inFlight, hrun]
    exact hone

theorem writes {s t : DimmingThreads} (ht : step s .proceeds = some t)
    (hw : t.brightness.device.written ≠ s.brightness.device.written) :
    ∃ fade value isLast, s.running = some ⟨fade, .writing value isLast⟩ := by
  obtain ⟨⟨fade, phase⟩, hr, rfl⟩ := Option.map_eq_some_iff.mp ht
  cases phase with
  | checked => exact absurd rfl hw
  | advanced value isLast => exact absurd rfl hw
  | writing value isLast => exact ⟨fade, value, isLast, hr⟩
  | wrote value isSuccess isLast =>
    refine absurd ?_ hw
    rw [DimmingThreads.proceed]
    split
    · rfl
    · rfl
  | finishing isLast =>
    cases isLast with
    | true => exact absurd rfl hw
    | false => exact absurd rfl hw

theorem Sound.supersedes {s : DimmingThreads} {e : ThreadEvent} (hn : Numbered s) (h : Sound s)
    (ho : Orderly s e) : Supersedes s e := by
  intro t ht
  refine ⟨?_, fun _ => (h.next hn ho ht).inFlight_le⟩
  rintro ⟨rfl, ⟨r, hr, hold⟩, hw⟩
  obtain ⟨fade, value, isLast, hr'⟩ := writes ht hw
  obtain rfl := Option.some.inj (hr.symm.trans hr')
  exact absurd hold (Nat.not_lt.mpr (h.writing_newest fade value isLast hr))

/-! ## What a disorderly update leads to -/

def Overtaken (s : DimmingThreads) : Prop :=
  ∃ fade value isLast, s.running = some ⟨fade, .writing value isLast⟩ ∧ fade < s.lastNow

theorem Overtaken.not_supersedes {s : DimmingThreads} (h : Overtaken s) :
    ¬ Supersedes s .proceeds := by
  obtain ⟨fade, value, isLast, hr, hold⟩ := h
  intro hnew
  refine (hnew _ (step_proceeds hr)).1 ⟨rfl, ⟨_, hr, hold⟩, ?_⟩
  simp [proceed, Device.setBrightness]

theorem Overtaken.updated {s : DimmingThreads} (h : Overtaken s) (hn : Numbered s)
    (value gradualDuration : ℕ) (updateSetting : Bool) :
    Overtaken (s.updateBrightness value gradualDuration updateSetting) := by
  obtain ⟨fade, value', isLast, hr, hold⟩ := h
  have hlast := hn.lastNow
  refine ⟨fade, value', isLast, hr, ?_⟩
  rw [DimmingThreads.updateBrightness]
  dsimp only
  split
  · omega
  · exact hold

theorem Overtaken.dooms {s t : DimmingThreads} {es : List ThreadEvent} (hn : Numbered s)
    (h : Overtaken s) (hr : Runs.run step s es = some t) :
    ¬ Runs.Always step Supersedes s (es ++ [.proceeds]) := by
  induction es generalizing s with
  | nil => exact fun hall => h.not_supersedes hall.1
  | cons e es ih =>
    obtain ⟨u, hu, hut⟩ := Runs.run_cons_some.mp hr
    rintro ⟨hnow, hrest⟩
    have hnu := hn.next hu
    cases e with
    | updateBrightness value gradualDuration updateSetting =>
      obtain rfl := Option.some.inj hu
      exact ih hnu (h.updated hn value gradualDuration updateSetting) hut (hrest _ rfl)
    | fires id =>
      obtain ⟨fade, value, isLast, hrun, _⟩ := h
      obtain ⟨henabled, _⟩ := Option.ite_none_left_eq_some.mp hu
      exact henabled (Or.inl (by rw [hrun]; rfl))
    | proceeds => exact h.not_supersedes hnow
    | settingFires id =>
      obtain ⟨hsame, hkept⟩ := settingFires_sameFades hu
      obtain ⟨fade, value, isLast, hrun, hold⟩ := h
      refine ih hnu ⟨fade, value, isLast, hkept.trans hrun, ?_⟩ hut (hrest u hu)
      rw [hsame.lastNow]
      exact hold

/-- A fade started while a step runs, or while one waits that `StopDimming` is not asked for, makes
two of them. -/
theorem two_inFlight {s : DimmingThreads} {value gradualDuration : ℕ} (updateSetting : Bool)
    (hd : 0 < gradualDuration) (hf : Fades s.brightness value)
    (h : ¬ (s.running = none ∧ (s.brightness.dimming.isDimming = false → ∀ id, ¬ Waiting s id))) :
    2 ≤ inFlight (s.updateBrightness value gradualDuration updateSetting) := by
  obtain ⟨d, _, _, hupdate⟩ := fades_starts hf hd updateSetting
  have hcount : inFlight (s.updateBrightness value gradualDuration updateSetting) =
      s.brightness.halted.tasks.pending.countP (·.2 = .nextStep) + 1 + s.running.isSome.toNat := by
    rw [inFlight, DimmingThreads.updateBrightness, hupdate]
    simp [submitNextStep, submitTask, List.countP_append]
  rw [hcount]
  by_cases hrun : s.running = none
  · have hwaits : ¬ (s.brightness.dimming.isDimming = false → ∀ id, ¬ Waiting s id) :=
      fun hcalm => h ⟨hrun, hcalm⟩
    obtain ⟨hidle, hsome⟩ := Classical.not_imp.mp hwaits
    obtain ⟨id, hid⟩ := not_forall_not.mp hsome
    have hhalted : s.brightness.halted.tasks = s.brightness.tasks := by
      simp [BrightnessService.halted, stopIfDimming, hidle]
    have hpos : 0 < s.brightness.tasks.pending.countP (·.2 = .nextStep) :=
      List.countP_pos_iff.mpr ⟨_, hid, by simp⟩
    rw [hhalted]
    omega
  · obtain ⟨r, hr⟩ := Option.ne_none_iff_exists'.mp hrun
    rw [hr]
    show 2 ≤ _ + 1 + 1
    omega

theorem disorderly {s t : DimmingThreads} {e : ThreadEvent} (hn : Numbered s)
    (ho : ¬ Orderly s e) (ht : step s e = some t) : ¬ Supersedes s e ∨ Overtaken t := by
  cases e with
  | updateBrightness value gradualDuration updateSetting =>
    obtain rfl := Option.some.inj ht
    rcases Nat.eq_zero_or_pos gradualDuration with rfl | hd
    · rw [Orderly, if_pos rfl] at ho
      obtain ⟨hsuccess, hwriting⟩ := Classical.not_imp.mp ho
      obtain ⟨fade, value', isLast, hr⟩ := not_not.mp hwriting
      refine Or.inr ⟨fade, value', isLast, hr, ?_⟩
      have hfade := hn.running _ hr
      have hwrote : (s.brightness.updateBrightness value 0 updateSetting).2 = true := by
        rw [updateBrightness_now]
        exact hsuccess
      rw [DimmingThreads.updateBrightness]
      simp only [hwrote, decide_true, Bool.and_self, if_true]
      dsimp only at hfade
      omega
    · rw [Orderly, if_neg (by omega)] at ho
      obtain ⟨hf, htwo⟩ := Classical.not_imp.mp ho
      have hmany := two_inFlight updateSetting hd hf htwo
      refine Or.inl fun hnew => ?_
      have hone := (hnew _ rfl).2 (by simp [DimmingThreads.updateBrightness, hd])
      omega
  | fires id => exact absurd trivial ho
  | proceeds => exact absurd trivial ho
  | settingFires id => exact absurd trivial ho

/-! ## Whole runs -/

theorem orderly_run {s : DimmingThreads} {es : List ThreadEvent} (hs : Calm s)
    (ho : Runs.Always step Orderly s es) : Runs.Always step Supersedes s es :=
  Runs.always_of_invariant (J := fun s => Numbered s ∧ Sound s)
    (fun _ _ _ h ho ht => ⟨h.1.next ht, h.2.next h.1 ho ht⟩)
    (fun _ _ h ho => h.2.supersedes h.1 ho) ⟨hs.numbered, hs.sound⟩ ho

theorem superseding_run {s t : DimmingThreads} {es : List ThreadEvent} (hn : Numbered s)
    (hr : Runs.run step s es = some t)
    (hall : Runs.Always step Supersedes s (es ++ [.proceeds])) : Runs.Always step Orderly s es := by
  induction es generalizing s with
  | nil => exact Runs.always_nil s
  | cons e es ih =>
    obtain ⟨u, hu, hut⟩ := Runs.run_cons_some.mp hr
    have hnu := hn.next hu
    refine ⟨?_, ?_⟩
    · by_contra ho
      rcases disorderly hn ho hu with hnot | hover
      · exact hnot hall.1
      · exact hover.dooms hnu hut (hall.2 u hu)
    · intro v hv
      obtain rfl := Option.some.inj (hu.symm.trans hv)
      exact ih hnu hut (hall.2 u hu)

/-- In every run, the newest update has its way, up to what a step then about to write still does,
exactly if all updates were orderly. -/
theorem supersedes_iff {s t : DimmingThreads} {es : List ThreadEvent} (hs : Calm s)
    (hr : Runs.run step s es = some t) :
    Runs.Always step Supersedes s (es ++ [.proceeds]) ↔ Runs.Always step Orderly s es := by
  constructor
  · exact superseding_run hs.numbered hr
  · intro ho
    refine orderly_run hs (Runs.always_append.mpr ⟨ho, ?_⟩)
    intro u _
    exact ⟨trivial, fun v _ => Runs.always_nil v⟩

def booted : DimmingThreads where
  brightness := { ({} : BrightnessBoot).start with state := .on }

theorem booted_calm : Calm booted where
  waiting _ hid := nomatch hid
  running := rfl
  updates := rfl
  lastNow := rfl
  isGradual := rfl
  fadeOf _ := rfl

def overtakenByWrite : List ThreadEvent :=
  [.updateBrightness 255 1000 true, .fires 0, .proceeds, .proceeds, .updateBrightness 50 0 true]

/-- The step of the old fade writes after 50 was: the panel is left at 105, not at the level of
50. -/
theorem old_step_writes :
    ¬ AlwaysSupersedes ∧
      (Runs.run step booted (overtakenByWrite ++ [.proceeds])).any (fun s =>
        s.brightness.device.level 0 = 105 ∧ booted.brightness.deviceLevel 50 = 44) = true := by
  constructor
  · intro h
    have hover : (Runs.run step booted overtakenByWrite).any (fun s =>
        s.running = some ⟨1, .writing 105 false⟩ ∧ s.lastNow = 2) = true := by
      decide +kernel
    obtain ⟨s, hs, hnow⟩ := (Option.any_eq_true _ _).mp hover
    obtain ⟨hr, hlast⟩ := of_decide_eq_true hnow
    have hall := (Runs.always_append.mp (h booted booted_calm (overtakenByWrite ++ [.proceeds]))).2
    refine Overtaken.not_supersedes ⟨1, 105, false, hr, ?_⟩ (hall s hs).1
    omega
  · decide +kernel

/-- A fade that is stopped between two of its steps, and one after it. -/
theorem stopped_between_steps :
    Runs.Always step Supersedes booted
      ([.updateBrightness 255 1000 true, .fires 0, .proceeds, .proceeds, .proceeds, .proceeds,
        .proceeds, .updateBrightness 50 0 true, .updateBrightness 200 500 true] ++
          [.proceeds]) := by
  obtain ⟨s, hs⟩ : ∃ s, Runs.run step booted
      [.updateBrightness 255 1000 true, .fires 0, .proceeds, .proceeds, .proceeds, .proceeds,
        .proceeds, .updateBrightness 50 0 true, .updateBrightness 200 500 true] = some s :=
    Option.isSome_iff_exists.mp (by decide +kernel)
  refine (supersedes_iff booted_calm hs).mpr ?_
  decide +kernel

end DisplayPowerMgr.DimmingThreads
