import DisplayPowerMgr.BrightnessEffects

/-! The temporary requests, override, discount and boost, and what they do to the brightness
that the user has set and that is persisted. -/
namespace DisplayPowerMgr.TemporaryBrightness

open BrightnessService

/-- A temporary request, or a step of a fade or a queued setting write that fires. -/
def Temporary (bs : BrightnessService) : BrightnessEvent → Prop
  | .overrideBrightness .. => True
  | .discountBrightness .. => True
  | .boostBrightness _ => True
  | .runTask id => ∃ task, (id, task) ∈ bs.tasks.pending ∧ task.shows = true
  | _ => False

def Settled (bs : BrightnessService) : Prop := ∀ p ∈ bs.tasks.pending, p.2.shows = false

def Settling (bs : BrightnessService) (e : BrightnessEvent) : Prop :=
  ∃ id task, e = .runTask id ∧ (id, task) ∈ bs.tasks.pending ∧ task.shows = true

/-- The persisted brightness stays through any sequence of temporary requests. -/
def SettingKept (bs : BrightnessService) (es : List BrightnessEvent) : Prop :=
  ∀ t, Runs.run step bs es = some t → Settled t →
    t.settings.brightness = bs.settings.brightness

/-- A restore after overrides, and the writes it queues, bring back the persisted brightness
and the device level that it stands for. -/
def Restored (bs : BrightnessService) (es : List BrightnessEvent) : Prop :=
  ∀ t, Runs.run step bs es = some t → Settled t →
    ∀ fs u, Runs.Always step Settling (t.restoreBrightness 0).1 fs →
      Runs.run step (t.restoreBrightness 0).1 fs = some u → Settled u →
      u.settings.brightness = bs.settings.brightness ∧
        u.device.level u.displayId = u.deviceLevel bs.getSettingBrightness

/-- With the screen on, both hold of every sequence of temporary requests, the
second of those that begin with an override. -/
def AlwaysTemporary : Prop :=
  ∀ bs, Reachable bs → bs.state = .on → ∀ es, Runs.Always step Temporary bs es →
    SettingKept bs es ∧ ∀ value duration rest, es = .overrideBrightness value duration :: rest →
      Restored bs es

def settingWritten : BrightnessTask → Option ℕ
  | .settingBrightness value => some value
  | .dimmingSettingBrightness level => some (getOrigBrightnessLevel level)
  | _ => none

/-- To write the value changes nothing: it is what is persisted, or the setting cannot be read. -/
def WritesBack (bs : BrightnessService) (value : ℕ) : Prop :=
  ∀ setting, bs.settings.brightness = some setting → value = setting

def QueueSpares (bs : BrightnessService) : Prop :=
  ∀ p ∈ bs.tasks.pending, ∀ value, settingWritten p.2 = some value → WritesBack bs value

/-- A step of a fade that fires finds the fade stopped, is refused by the device, falls into the
sleep status, or shows a level that stands for the setting. -/
def FadeSpares (bs : BrightnessService) : BrightnessEvent → Prop
  | .runTask id => bs.tasks.find? id = some .nextStep →
    ∀ level, bs.dimming.nextStep.changed = some level →
      bs.device.answers.headD true = false ∨ bs.isSleepStatus = true ∨
        WritesBack bs (getOrigBrightnessLevel level)
  | _ => True

/-- The persisted brightness is that of `bs`, and no queued write is about to change it. -/
structure Spared (bs t : BrightnessService) : Prop where
  brightness : t.settings.brightness = bs.settings.brightness
  queue : QueueSpares t

theorem WritesBack.congr {t u : BrightnessService} {value : ℕ} (h : WritesBack t value)
    (hsame : u.settings.brightness = t.settings.brightness) : WritesBack u value :=
  fun setting hsetting => h setting (hsame.symm.trans hsetting)

theorem Spared.of_pending {bs t u : BrightnessService} (h : Spared bs t)
    (hsame : u.settings.brightness = t.settings.brightness)
    (hnew : ∀ p ∈ u.tasks.pending, p ∈ t.tasks.pending ∨
      ∀ value, settingWritten p.2 = some value → WritesBack t value) : Spared bs u := by
  refine ⟨hsame.trans h.brightness, ?_⟩
  intro p hp value hvalue
  rcases hnew p hp with hold | hspares
  · exact (h.queue p hold value hvalue).congr hsame
  · exact (hspares value hvalue).congr hsame

theorem mem_startDimming {bs : BrightnessService} {f t duration : ℕ} {p : ℕ × BrightnessTask}
    (hp : p ∈ (bs.startDimming f t duration).tasks.pending) :
    p ∈ bs.tasks.pending ∨ p.2 = .nextStep := by
  rw [startDimming] at hp
  dsimp only at hp
  split at hp
  · rcases List.mem_append.mp hp with hp | hp
    · exact Or.inl hp
    · exact Or.inr (List.mem_singleton.mp hp ▸ rfl)
  · exact Or.inl hp

theorem mem_updateBrightness {bs : BrightnessService} {value duration : ℕ} {p : ℕ × BrightnessTask}
    (hp : p ∈ (bs.updateBrightness value duration false).1.tasks.pending) :
    p ∈ bs.tasks.pending ∨ p.2 = .nextStep := by
  rcases Nat.eq_zero_or_pos duration with rfl | hd
  · exact Or.inl (updateBrightness_submits_nothing (Or.inl rfl) hp)
  · rw [updateBrightness_gradual bs hd] at hp
    exact (mem_startDimming hp).imp_left mem_halted

theorem Spared.update {bs t : BrightnessService} (h : Spared bs t) (value duration : ℕ) :
    Spared bs (t.updateBrightness value duration false).1 := by
  have hsame := updateBrightness_sameControl t value duration false
  refine h.of_pending (by rw [hsame]) ?_
  intro p hp
  refine (mem_updateBrightness hp).imp_right ?_
  intro hstep written hwritten
  rw [hstep] at hwritten
  cases hwritten

theorem Spared.overrideBrightness {bs t : BrightnessService} (h : Spared bs t)
    (value duration : ℕ) : Spared bs (t.overrideBrightness value duration).1 := by
  rw [BrightnessService.overrideBrightness]
  split
  · exact h
  · refine Spared.update ?_ value duration
    exact ⟨h.brightness, h.queue⟩

theorem Spared.discountBrightness {bs t : BrightnessService} (h : Spared bs t) (discount : ℚ)
    (duration : ℕ) : Spared bs (t.discountBrightness discount duration).1 := by
  by_cases hon : t.isScreenOn = true
  · rw [discountBrightness_eq hon]
    refine Spared.update ?_ _ duration
    exact ⟨h.brightness, h.queue⟩
  · rw [BrightnessService.discountBrightness, if_pos (by simp [canDiscountBrightness, hon])]
    exact h

theorem Spared.boostBrightness {bs t : BrightnessService} (h : Spared bs t) (duration : ℕ) :
    Spared bs (t.boostBrightness duration).1 := by
  rw [BrightnessService.boostBrightness]
  split
  · exact h
  · have hupdate : Spared bs (if t.isBrightnessBoosted then (t, true)
        else { t with isBrightnessBoosted := true }.updateBrightness t.param.maxBrightness
          duration false).1 := by
      split
      · exact h
      · refine Spared.update ?_ _ duration
        exact ⟨h.brightness, h.queue⟩
    refine hupdate.of_pending rfl ?_
    intro p hp
    rcases List.mem_append.mp hp with hp | hp
    · exact Or.inl (mem_ffrtCancel hp)
    · rw [List.mem_singleton.mp hp]
      exact Or.inr fun value hvalue => by cases hvalue

theorem mem_nextStep {bs : BrightnessService} {p : ℕ × BrightnessTask}
    (hp : p ∈ bs.nextStep.tasks.pending) :
    p ∈ bs.tasks.pending ∨ (bs.dimming.nextStep.again = true ∧ p.2 = .nextStep) ∨
      ∃ level, bs.dimming.nextStep.changed = some level ∧
        bs.device.answers.headD true = true ∧ bs.isSleepStatus = false ∧
          p.2 = .dimmingSettingBrightness level := by
  have hchanged : ∀ p ∈ (bs.notifyChanged bs.dimming.nextStep.changed).tasks.pending,
      p ∈ bs.tasks.pending ∨ ∃ level, bs.dimming.nextStep.changed = some level ∧
        bs.device.answers.headD true = true ∧ bs.isSleepStatus = false ∧
          p.2 = .dimmingSettingBrightness level := by
    intro p hp
    cases hlevel : bs.dimming.nextStep.changed with
    | none =>
      rw [hlevel] at hp
      exact Or.inl hp
    | some level =>
      rw [hlevel, notifyChanged, onChanged] at hp
      split at hp
      · exact Or.inl hp
      · dsimp only at hp
        split at hp
        · rename_i haccepted
          simp only [Device.setBrightness, Bool.and_eq_true, Bool.not_eq_true'] at haccepted
          rcases List.mem_append.mp hp with hp | hp
          · exact Or.inl hp
          · exact Or.inr ⟨level, rfl, haccepted.1, haccepted.2, List.mem_singleton.mp hp ▸ rfl⟩
        · exact Or.inl hp
  rw [nextStep] at hp
  dsimp only at hp
  split at hp
  · rename_i hagain
    rcases List.mem_append.mp hp with hp | hp
    · exact (hchanged p hp).imp_right Or.inr
    · exact Or.inr (Or.inl ⟨hagain, List.mem_singleton.mp hp ▸ rfl⟩)
  · exact (hchanged p hp).imp_right Or.inr

theorem nextStep_queues {bs : BrightnessService} {level : ℕ}
    (hlevel : bs.dimming.nextStep.changed = some level)
    (haccepts : bs.device.answers.headD true = true) (hawake : bs.isSleepStatus = false) :
    ∃ id, (id, BrightnessTask.dimmingSettingBrightness level) ∈ bs.nextStep.tasks.pending := by
  have hactive : bs.dimming.isDimming = true := by
    by_contra hidle
    rw [BrightnessDimming.nextStep_idle (Bool.eq_false_iff.mpr hidle)] at hlevel
    cases hlevel
  have hwrites : ((bs.device.setBrightness bs.displayId level).2 && !bs.isSleepStatus) = true :=
    Bool.and_eq_true_iff.mpr ⟨haccepts, by simp [hawake]⟩
  refine ⟨bs.tasks.next, ?_⟩
  have hqueued : (bs.tasks.next, BrightnessTask.dimmingSettingBrightness level) ∈
      (bs.notifyChanged bs.dimming.nextStep.changed).tasks.pending := by
    rw [hlevel, notifyChanged, onChanged, if_neg (by simp [hactive])]
    dsimp only
    rw [if_pos hwrites]
    exact List.mem_append_right _ (List.mem_singleton_self _)
  rw [nextStep]
  dsimp only
  split
  · exact List.mem_append_left _ hqueued
  · exact hqueued

theorem Spared.remove {bs t : BrightnessService} (h : Spared bs t) (id : ℕ) :
    Spared bs { t with tasks := t.tasks.remove id } :=
  h.of_pending rfl fun _ hp => Or.inl (Tasks.mem_remove.mp hp).1

/-- A fade step that fires spares the setting exactly if what it queues does. -/
theorem Spared.nextStep_iff {bs t : BrightnessService} (h : Spared bs t) :
    Spared bs t.nextStep ↔ ∀ level, t.dimming.nextStep.changed = some level →
      t.device.answers.headD true = false ∨ t.isSleepStatus = true ∨
        WritesBack t (getOrigBrightnessLevel level) := by
  have hsettings : t.nextStep.settings.brightness = t.settings.brightness := by
    rw [nextStep_sameControl t]
  constructor
  · intro hnext level hlevel
    by_cases haccepts : t.device.answers.headD true = true
    · by_cases hawake : t.isSleepStatus = true
      · exact Or.inr (Or.inl hawake)
      · obtain ⟨id, hqueued⟩ := nextStep_queues hlevel haccepts (Bool.eq_false_iff.mpr hawake)
        exact Or.inr (Or.inr ((hnext.queue _ hqueued _ rfl).congr hsettings.symm))
    · exact Or.inl (Bool.eq_false_iff.mpr haccepts)
  · intro hspares
    refine h.of_pending hsettings ?_
    intro p hp
    rcases mem_nextStep hp with hold | ⟨_, hstep⟩ | ⟨level, hlevel, haccepts, hawake, hwrite⟩
    · exact Or.inl hold
    · rw [hstep]
      exact Or.inr fun value hvalue => by cases hvalue
    · refine Or.inr fun value hvalue => ?_
      rw [hwrite] at hvalue
      obtain rfl := Option.some.inj hvalue
      rcases hspares level hlevel with hrefused | hasleep | hback
      · exact absurd (haccepts.symm.trans hrefused) (by simp)
      · exact absurd (hawake.symm.trans hasleep) (by simp)
      · exact hback

theorem Spared.setSettingBrightness {bs t : BrightnessService} (h : Spared bs t) {value : ℕ}
    (hback : WritesBack t value) : Spared bs (t.setSettingBrightness value) := by
  refine h.of_pending ?_ fun _ hp => Or.inl hp
  show t.settings.brightness.map _ = t.settings.brightness
  cases hsetting : t.settings.brightness with
  | none => rfl
  | some setting => rw [Option.map_some, hback setting hsetting]

theorem find?_of_mem {bs : BrightnessService} {id : ℕ} {task : BrightnessTask}
    (hp : (id, task) ∈ bs.tasks.pending) : bs.tasks.find? id = some task :=
  Tasks.find?_eq_some.mpr hp

theorem Spared.step_iff {bs t : BrightnessService} {e : BrightnessEvent} (h : Spared bs t)
    (he : Temporary t e) : FadeSpares t e ↔ ∀ u, t.step e = some u → Spared bs u := by
  cases e with
  | overrideBrightness value duration =>
    exact iff_of_true trivial fun u hu => Option.some.inj hu ▸ h.overrideBrightness value duration
  | discountBrightness discount duration =>
    exact iff_of_true trivial fun u hu =>
      Option.some.inj hu ▸ h.discountBrightness discount duration
  | boostBrightness duration =>
    exact iff_of_true trivial fun u hu => Option.some.inj hu ▸ h.boostBrightness duration
  | runTask id =>
    obtain ⟨task, hp, hshows⟩ := he
    have hfind := find?_of_mem hp
    have hrest := h.remove id
    rw [Runs.forall_step_iff (show t.step (.runTask id) = some _ from runTask_eq hfind), FadeSpares,
      hfind, Option.some.injEq]
    cases task with
    | nextStep => exact (imp_iff_right rfl).trans hrest.nextStep_iff.symm
    | settingBrightness value =>
      exact iff_of_true (fun hstep => by cases hstep)
        (hrest.setSettingBrightness (h.queue _ hp _ rfl))
    | dimmingSettingBrightness level =>
      exact iff_of_true (fun hstep => by cases hstep)
        (hrest.setSettingBrightness (h.queue _ hp _ rfl))
    | cancelBoostBrightness duration => cases hshows
    | waitForFirstLux value => cases hshows
  | _ => exact he.elim

/-- After an accepted override: the brightness to restore is the persisted one. -/
structure Overriding (bs t : BrightnessService) : Prop extends Spared bs t where
  valueMax : t.brightnessValueMax = bs.brightnessValueMax
  valueMin : t.brightnessValueMin = bs.brightnessValueMin
  overridden : t.isBrightnessOverridden = true
  before : t.beforeOverriddenBrightness = bs.getSettingBrightness

theorem Overriding.of_sameControl {bs t u : BrightnessService} (h : Overriding bs t)
    (hsame : SameControl t u) (hu : Spared bs u) : Overriding bs u := by
  refine ⟨hu, ?_, ?_, ?_, ?_⟩
  · rw [hsame]
    exact h.valueMax
  · rw [hsame]
    exact h.valueMin
  · rw [hsame]
    exact h.overridden
  · rw [hsame]
    exact h.before

theorem Spared.overriding {bs t : BrightnessService} (h : Spared bs t)
    (hmax : t.brightnessValueMax = bs.brightnessValueMax)
    (hmin : t.brightnessValueMin = bs.brightnessValueMin) {value duration : ℕ}
    (hcan : t.canOverrideBrightness = true) :
    Overriding bs (t.overrideBrightness value duration).1 := by
  have hspared := h.overrideBrightness value duration
  rw [BrightnessService.overrideBrightness] at hspared ⊢
  rw [if_neg (by simp [hcan])] at hspared ⊢
  refine Overriding.of_sameControl ?_ (updateBrightness_sameControl _ _ _ _) hspared
  refine ⟨⟨h.brightness, h.queue⟩, hmax, hmin, rfl, ?_⟩
  show t.getSettingBrightness = bs.getSettingBrightness
  rw [getSettingBrightness, getSettingBrightness, h.brightness]

theorem Overriding.step {bs t u : BrightnessService} {e : BrightnessEvent} (h : Overriding bs t)
    (he : Temporary t e ∧ FadeSpares t e) (hu : t.step e = some u) : Overriding bs u := by
  have hspared := (h.toSpared.step_iff he.1).mp he.2 u hu
  cases e with
  | overrideBrightness value duration =>
    obtain rfl := Option.some.inj hu
    by_cases hcan : t.canOverrideBrightness = true
    · exact h.toSpared.overriding h.valueMax h.valueMin hcan
    · rw [BrightnessService.overrideBrightness, if_pos (by simp [hcan])]
      exact h
  | discountBrightness discount duration =>
    obtain rfl := Option.some.inj hu
    by_cases hon : t.isScreenOn = true
    · rw [discountBrightness_eq hon] at hspared ⊢
      refine Overriding.of_sameControl ?_ (updateBrightness_sameControl _ _ _ _) hspared
      exact ⟨⟨h.brightness, h.queue⟩, h.valueMax, h.valueMin, h.overridden, h.before⟩
    · rw [BrightnessService.discountBrightness, if_pos (by simp [canDiscountBrightness, hon])]
      exact h
  | boostBrightness duration =>
    -- an override in force refuses every boost
    obtain rfl := Option.some.inj hu
    rw [BrightnessService.boostBrightness,
      if_pos (by simp [canBoostBrightness, h.overridden])]
    exact h
  | runTask id =>
    obtain ⟨⟨task, hp, hshows⟩, _⟩ := he
    obtain rfl := Option.some.inj ((runTask_eq (Tasks.find?_eq_some.mpr hp)).symm.trans hu)
    cases task with
    | nextStep =>
      refine Overriding.of_sameControl ?_ (nextStep_sameControl _) hspared
      exact ⟨h.toSpared.remove id, h.valueMax, h.valueMin, h.overridden, h.before⟩
    | settingBrightness value =>
      exact ⟨hspared, h.valueMax, h.valueMin, h.overridden, h.before⟩
    | dimmingSettingBrightness level =>
      exact ⟨hspared, h.valueMax, h.valueMin, h.overridden, h.before⟩
    | cancelBoostBrightness duration => cases hshows
    | waitForFirstLux value => cases hshows
  | _ => exact he.1.elim

/-- After the restoring write: what is still queued writes the restored setting. -/
structure Restoring (bs u : BrightnessService) : Prop where
  setting : u.settings.brightness = bs.settings.brightness
  device : u.device.level u.displayId = u.deviceLevel bs.getSettingBrightness
  queued : ∀ p ∈ u.tasks.pending, p.2.shows = true →
    p.2 = .settingBrightness bs.getSettingBrightness

theorem Restoring.step {bs u w : BrightnessService} {e : BrightnessEvent} (h : Restoring bs u)
    (he : Settling u e) (hw : u.step e = some w) : Restoring bs w := by
  obtain ⟨id, task, rfl, hp, hshows⟩ := he
  obtain rfl : task = .settingBrightness bs.getSettingBrightness := h.queued _ hp hshows
  obtain rfl := Option.some.inj ((runTask_eq (Tasks.find?_eq_some.mpr hp)).symm.trans hw)
  refine ⟨?_, h.device, fun p hp => h.queued p (Tasks.mem_remove.mp hp).1⟩
  show u.settings.brightness.map _ = bs.settings.brightness
  rw [h.setting]
  rw [getSettingBrightness]
  cases bs.settings.brightness <;> rfl

theorem Overriding.restoreBrightness {bs t : BrightnessService} (h : Overriding bs t)
    (hsettled : Settled t)
    (hrange : bs.getSafeBrightness bs.getSettingBrightness = bs.getSettingBrightness)
    (haccepts : t.device.answers.headD true = true) :
    Restoring bs (t.restoreBrightness 0).1 := by
  have hsafe (v : ℕ) : t.getSafeBrightness v = bs.getSafeBrightness v := by
    simp only [getSafeBrightness]
    rw [h.valueMax, h.valueMin]
  rw [BrightnessService.restoreBrightness]
  rw [if_neg (by simp [h.overridden])]
  generalize hr : { t with isBrightnessOverridden := false } = r
  rw [h.before]
  have hsetting : r.settings.brightness = bs.settings.brightness := hr ▸ h.brightness
  have hsettled : Settled r := hr ▸ hsettled
  have hanswer : r.device.answers.headD true = true := hr ▸ haccepts
  have hwrite : r.getSafeBrightness bs.getSettingBrightness = bs.getSettingBrightness := by
    rw [← hr]
    exact (hsafe _).trans hrange
  have hid : r.halted.displayId = r.displayId := by rw [halted_sameControl r]
  rw [updateBrightness_now]
  simp only [Device.setBrightness, hanswer, Bool.true_and, if_true, hwrite]
  refine ⟨?_, ?_, ?_⟩
  · show r.halted.settings.brightness = _
    rw [halted_settings, hsetting]
  · show Function.update r.device.level r.displayId _ r.halted.displayId =
      r.halted.deviceLevel bs.getSettingBrightness
    rw [hid, Function.update_self, (halted_sameControl r).deviceLevel]
  · intro p hp hshows
    rcases List.mem_append.mp hp with hp | hp
    · rw [hsettled p (mem_halted hp)] at hshows
      cases hshows
    · rw [List.mem_singleton.mp hp]

/-- With no write of another value queued before, temporary requests leave the setting and queue no
write of another value exactly as long as the fade steps that fire spare it. Then the setting is
kept, and after an accepted override a restore that the device accepts brings back a persisted
brightness that is within the cap, with its device level. -/
theorem kept_and_restored {bs : BrightnessService} (hon : bs.state = .on) (hqueue : QueueSpares bs)
    {es : List BrightnessEvent} (htemp : Runs.Always step Temporary bs es) :
    (Runs.Always step (fun t e => ∀ u, t.step e = some u → Spared bs u) bs es ↔
        Runs.Always step FadeSpares bs es) ∧
      (Runs.Always step FadeSpares bs es →
        SettingKept bs es ∧ ∀ value duration rest, es = .overrideBrightness value duration :: rest →
          bs.isBrightnessBoosted = false →
          bs.getSafeBrightness bs.getSettingBrightness = bs.getSettingBrightness →
          (∀ t, Runs.run step bs es = some t → t.device.answers.headD true = true) →
          Restored bs es) := by
  have hstart : Spared bs bs := ⟨rfl, hqueue⟩
  refine ⟨Runs.always_keeps_iff_of (fun _ _ h he => h.step_iff he) hstart htemp, ?_⟩
  intro hspares
  have hboth : Runs.Always step (fun t e => Temporary t e ∧ FadeSpares t e) bs es :=
    htemp.and hspares
  constructor
  · intro t ht _
    exact (Runs.run_invariant (J := Spared bs) (fun _ _ u h he hu => (h.step_iff he.1).mp he.2 u hu)
      hstart hboth ht).brightness
  · rintro value duration rest rfl hboost hrange haccepts t ht hsettled fs u hall hu _
    have hcan : bs.canOverrideBrightness = true := by
      simp [canOverrideBrightness, isScreenOn, hon, hboost]
    obtain ⟨s, hs, hst⟩ := Runs.run_cons_some.mp ht
    have hfirst : Overriding bs s := Option.some.inj hs ▸ hstart.overriding rfl rfl hcan
    have hover := Runs.run_invariant (fun _ _ _ => Overriding.step) hfirst (hboth.2 s hs) hst
    have hrestoring := Runs.run_invariant (fun _ _ _ => Restoring.step)
      (hover.restoreBrightness hsettled hrange (haccepts t ht)) hall hu
    exact ⟨hrestoring.setting, hrestoring.device⟩

def screenOn : BrightnessService := { state := .on : BrightnessBoot }.start

def afterOverride : BrightnessService := (screenOn.overrideBrightness 50 32).1

def afterFade : BrightnessService :=
  { afterOverride with tasks := afterOverride.tasks.remove 0 }.nextStep

def afterWrite : BrightnessService :=
  { afterFade with tasks := afterFade.tasks.remove 1 }.perform (.dimmingSettingBrightness 44)

/-- An override to 50 that is faded in leaves 50 as the persisted brightness. -/
theorem faded_override_persists : ¬ AlwaysTemporary := by
  intro h
  have hfind0 : afterOverride.tasks.find? 0 = some .nextStep := by decide +kernel
  have hfind1 : afterFade.tasks.find? 1 = some (.dimmingSettingBrightness 44) := by
    decide +kernel
  have hstep0 : afterOverride.step (.runTask 0) = some afterFade := runTask_eq hfind0
  have hstep1 : afterFade.step (.runTask 1) = some afterWrite := runTask_eq hfind1
  have hall : Runs.Always step Temporary screenOn
      [.overrideBrightness 50 32, .runTask 0, .runTask 1] := by
    refine ⟨trivial, fun s hs => ?_⟩
    obtain rfl := Option.some.inj hs
    refine ⟨⟨_, Tasks.find?_eq_some.mp hfind0, rfl⟩, fun t ht => ?_⟩
    obtain rfl := Option.some.inj (hstep0.symm.trans ht)
    exact ⟨⟨_, Tasks.find?_eq_some.mp hfind1, rfl⟩, fun _ _ => trivial⟩
  have hrun : Runs.run step screenOn [.overrideBrightness 50 32, .runTask 0, .runTask 1] =
      some afterWrite :=
    Runs.run_cons_some.mpr ⟨_, rfl, Runs.run_cons_some.mpr ⟨_, hstep0,
      Runs.run_cons_some.mpr ⟨_, hstep1, rfl⟩⟩⟩
  have hkept := (h screenOn ⟨_, [], ⟨{ state := .on }, rfl⟩, rfl⟩ rfl _ hall).1 afterWrite hrun
    (by unfold Settled; decide +kernel)
  exact absurd hkept (by decide +kernel)

def overridesInTurn : List BrightnessEvent :=
  [.overrideBrightness 50 1000, .overrideBrightness 60 0]

/-- The second one stops the fade, and the restore forgets both. -/
theorem kept_and_restored_in_turn :
    SettingKept screenOn overridesInTurn ∧ Restored screenOn overridesInTurn := by
  have hqueue : QueueSpares screenOn := fun p hp => absurd hp (List.not_mem_nil)
  have h := (@kept_and_restored screenOn rfl hqueue overridesInTurn
    ⟨trivial, fun _ _ => ⟨trivial, fun _ _ => trivial⟩⟩).2
    ⟨trivial, fun _ _ => ⟨trivial, fun _ _ => trivial⟩⟩
  refine ⟨h.1, h.2 50 1000 _ rfl rfl (by decide +kernel) ?_⟩
  intro t ht
  obtain rfl := Option.some.inj ht
  decide +kernel

end DisplayPowerMgr.TemporaryBrightness
