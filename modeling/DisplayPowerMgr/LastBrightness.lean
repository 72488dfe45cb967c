import DisplayPowerMgr.BoostAndOverride

/-! The panel is set in line, the setting and its two caches by tasks of their own that run in any
order. When the last brightness shown is the one that stays in the settings. -/
namespace DisplayPowerMgr

def BrightnessTask.persisted : BrightnessTask → Option ℕ
  | .settingBrightness safeBrightness => some safeBrightness
  | .dimmingSettingBrightness currentValue =>
    some (BrightnessService.getOrigBrightnessLevel currentValue)
  | _ => none

namespace Timers

open BrightnessService

/-- The handle of the fade names no task but steps of a fade, so stopping one drops no write. -/
def StopsFades (v : Timers) : Prop := v.tasks.Names (· = .nextStep) v.animatorTaskHandle

theorem StopsFades.endBoost {v : Timers} (h : StopsFades v) : StopsFades v.endBoost := by
  rw [Timers.endBoost]
  split
  · exact names_cancel h _ _
  · exact h

theorem StopsFades.move {v w : Timers} (h : StopsFades v) (hmove : Move v w) : StopsFades w := by
  cases hmove with
  | stopFade => exact names_cancelled h _
  | startFade => exact .submitted rfl
  | submitted task write => exact h.submit task
  | lightArrived => exact names_cancel h _ _
  | taken id task pending other => exact h.remove id
  | boostEnded => exact h.endBoost
  | boostExpired id duration pending =>
    apply StopsFades.endBoost
    exact h.remove id
  | waitOver => exact h
  | overridden free => exact h
  | released => exact h

theorem StopsFades.moves {v w : Timers} (h : StopsFades v) (hmoves : Moves v w) : StopsFades w :=
  hmoves.keeps (fun _ _ hmove hv => hv.move hmove) h

theorem StopsFades.step {bs t : BrightnessService} {e : BrightnessEvent}
    (h : StopsFades bs.timers) (ht : bs.step e = some t) : StopsFades t.timers := by
  by_cases hboost : bs.AcceptsBoost e
  · cases e with
    | boostBrightness duration =>
      obtain ⟨v, hmoves, _, _, _, htimers⟩ := boostBrightness_moves hboost
      rw [← Option.some.inj ht, htimers]
      exact (names_cancel (h.moves hmoves) _ _).submit _
    | _ => exact hboost.elim
  · by_cases hon : e = .setScreenOnBrightness
    · cases hon
      rw [← Option.some.inj ht]
      rcases setScreenOnBrightness_moves bs with hmoves | ⟨_, hwaits | ⟨_, hwaits⟩⟩
      · exact h.moves hmoves
      · rw [hwaits]
        exact h
      · rw [hwaits]
        exact (names_cancel h _ _).submit _
    · exact h.moves (step_moves hon hboost ht)

end Timers

namespace BrightnessService

theorem Reachable.stopsFades {bs : BrightnessService} (h : Reachable bs) :
    Timers.StopsFades bs.timers := by
  apply Runs.reachable_invariant (J := fun s => Timers.StopsFades s.timers) _ _ h
  · rintro _ ⟨boot, rfl⟩
    exact .none
  · intro s e t hs ht
    exact hs.step ht

def Owes (bs : BrightnessService) (value : ℕ) : Prop :=
  ∃ p ∈ bs.tasks.pending, p.2.persisted = some value

def OwesOnly (bs : BrightnessService) (value : ℕ) : Prop :=
  ∀ p ∈ bs.tasks.pending, ∀ other ∈ p.2.persisted, other = value

instance (bs : BrightnessService) (value : ℕ) : Decidable (bs.OwesOnly value) :=
  inferInstanceAs (Decidable (∀ _ ∈ _, _))

theorem owesOnly_iff {bs : BrightnessService} {value : ℕ} :
    bs.OwesOnly value ↔ ∀ other, bs.Owes other → other = value := by
  constructor
  · rintro h other ⟨p, hp, hother⟩
    exact h p hp other hother
  · intro h p hp other hother
    exact h other ⟨p, hp, hother⟩

structure Stored (bs : BrightnessService) (value : ℕ) : Prop where
  setting : bs.settings.brightness = some value
  level : bs.brightnessLevel = value
  cached : bs.cachedSettingBrightness = value

theorem stored_setSettingBrightness_iff (bs : BrightnessService) (value : ℕ) :
    (bs.setSettingBrightness value).Stored value ↔ bs.settings.brightness.isSome = true := by
  constructor
  · intro h
    have hset := h.setting
    cases hb : bs.settings.brightness with
    | none => simp [setSettingBrightness, SettingStore.setSettingBrightness, hb] at hset
    | some old => rfl
  · intro h
    obtain ⟨old, hold⟩ := Option.isSome_iff_exists.mp h
    refine ⟨?_, rfl, rfl⟩
    simp [setSettingBrightness, SettingStore.setSettingBrightness, hold]

theorem perform_persisted (bs : BrightnessService) {task : BrightnessTask} {value : ℕ}
    (h : task.persisted = some value) : bs.perform task = bs.setSettingBrightness value := by
  cases task with
  | settingBrightness =>
    obtain rfl := Option.some.inj h
    rfl
  | dimmingSettingBrightness =>
    obtain rfl := Option.some.inj h
    rfl
  | _ => cases h

theorem owes_submit (bs : BrightnessService) (task : BrightnessTask) (value : ℕ) :
    (bs.submitTask task).Owes value ↔ bs.Owes value ∨ task.persisted = some value := by
  simp [Owes, submitTask, or_and_right, exists_or]

theorem owes_remove {bs : BrightnessService} {id : ℕ}
    (h : ∀ task, (id, task) ∈ bs.tasks.pending → task = .nextStep) (value : ℕ) :
    { bs with tasks := bs.tasks.remove id }.Owes value ↔ bs.Owes value := by
  constructor
  · rintro ⟨p, hp, hvalue⟩
    exact ⟨p, (Tasks.mem_remove.mp hp).1, hvalue⟩
  · rintro ⟨⟨i, task⟩, hp, hvalue⟩
    refine ⟨(i, task), Tasks.mem_remove.mpr ⟨hp, ?_⟩, hvalue⟩
    rintro rfl
    rw [h task hp] at hvalue
    cases hvalue

theorem owes_halted {bs : BrightnessService} (h : Timers.StopsFades bs.timers) (value : ℕ) :
    bs.halted.Owes value ↔ bs.Owes value := by
  rw [halted, stopIfDimming]
  split
  · rcases ffrtCancel_cases bs.tasks bs.dimming.hasQueue bs.animatorTaskHandle with
      hsame | ⟨id, hid, _, hremoved⟩
    · simp [stopDimming, hsame, Owes]
    · simp only [stopDimming, hremoved]
      exact owes_remove (h id hid).2 value
  · exact Iff.rfl

theorem owes_startDimming (bs : BrightnessService) (f t duration value : ℕ) :
    (bs.startDimming f t duration).Owes value ↔ bs.Owes value := by
  rw [startDimming]
  dsimp only
  split
  · refine (owes_submit _ _ value).trans ?_
    simp [BrightnessTask.persisted, Owes]
  · exact Iff.rfl

end BrightnessService

namespace LastBrightness

open BrightnessService

/-- `UpdateBrightness(value, 0, true)`, a gradual update that starts a fade, or a task that runs:
a step of the fade or a write of the setting. -/
inductive Event where
  | update (value : ℕ)
  | gradual (value gradualDuration : ℕ) (updateSetting : Bool)
  | fires (id : ℕ)
  deriving DecidableEq, Repr

/-- The value of a call or fade step that hands a task to persist it. A step in sleep shows its
level and hands none. -/
def submits (bs : BrightnessService) : Event → Option ℕ
  | .update value => if bs.accepts then some (bs.getSafeBrightness value) else none
  | .gradual _ _ _ => none
  | .fires id =>
    if bs.tasks.find? id = some .nextStep ∧ bs.accepts = true ∧ bs.isSleepStatus = false then
      bs.dimming.nextStep.changed.map getOrigBrightnessLevel
    else none

def act (bs : BrightnessService) : Event → Option BrightnessService
  | .update value => some (bs.updateBrightness value 0 true).1
  | .gradual value gradualDuration updateSetting =>
    if 0 < gradualDuration then
      some (bs.updateBrightness value gradualDuration updateSetting).1
    else none
  | .fires id => if (bs.tasks.find? id).any (·.shows) then bs.runTask id else none

/-- A service with the value of the last call or step that had one. -/
structure Burst where
  service : BrightnessService
  last : Option ℕ := none

def step (s : Burst) (e : Event) : Option Burst :=
  (act s.service e).map fun bs => ⟨bs, (submits s.service e).or s.last⟩

/-- Once the writes still owed have run, in any order, the last value is the one stored. -/
def LastWins (s : Burst) : Prop :=
  ∀ v ∈ s.last, ∀ (ids : List ℕ) (t : Burst),
    (∀ id ∈ ids, ∃ task value, (id, task) ∈ s.service.tasks.pending ∧
      task.persisted = some value) →
    Runs.run step s (ids.map .fires) = some t → (∀ value, ¬ t.service.Owes value) →
    t.service.Stored v

/-- A value is shown while the setting can be read and no write of another value is owed. -/
def InOrder (s : Burst) (e : Event) : Prop :=
  ∀ v ∈ submits s.service e,
    s.service.OwesOnly v ∧ s.service.settings.brightness.isSome = true

instance (s : Burst) (e : Event) : Decidable (InOrder s e) :=
  inferInstanceAs (Decidable (∀ _ ∈ _, _))

def Writes (bs : BrightnessService) (e : Event) (value : ℕ) (t : BrightnessService) : Prop :=
  ∃ id task, e = .fires id ∧ (id, task) ∈ bs.tasks.pending ∧ task.persisted = some value ∧
    t = { bs with tasks := bs.tasks.remove id }.setSettingBrightness value

/-- Any other event leaves what is stored alone and owes what it submits. -/
structure Submits (bs : BrightnessService) (e : Event) (t : BrightnessService) : Prop where
  same : SameControl bs t
  owes : ∀ value, t.Owes value ↔ bs.Owes value ∨ value ∈ submits bs e

theorem update_submits {bs : BrightnessService} (h : Timers.StopsFades bs.timers) (value : ℕ) :
    Submits bs (.update value) (bs.updateBrightness value 0 true).1 := by
  refine ⟨updateBrightness_sameControl bs value 0 true, ?_⟩
  intro v
  have hhalt := owes_halted h v
  have hanswer : (bs.device.setBrightness bs.displayId (bs.deviceLevel value)).2 = bs.accepts := rfl
  rw [updateBrightness_now, submits]
  dsimp only
  rw [hanswer, Bool.and_true]
  cases bs.accepts with
  | false => exact hhalt.trans (by simp)
  | true =>
    rw [if_pos rfl, if_pos rfl]
    refine (owes_submit _ _ v).trans ?_
    exact or_congr hhalt (by simp [BrightnessTask.persisted])

theorem gradual_submits {bs : BrightnessService} (h : Timers.StopsFades bs.timers)
    {duration : ℕ} (hd : 0 < duration) (value : ℕ) (updateSetting : Bool) :
    Submits bs (.gradual value duration updateSetting)
      (bs.updateBrightness value duration updateSetting).1 := by
  refine ⟨updateBrightness_sameControl bs value duration updateSetting, ?_⟩
  intro v
  rw [updateBrightness_gradual bs hd, owes_startDimming, owes_halted h]
  simp [submits]

theorem nextStep_owes (bs : BrightnessService) (value : ℕ) :
    bs.nextStep.Owes value ↔ bs.Owes value ∨
      (bs.accepts = true ∧ bs.isSleepStatus = false) ∧
        value ∈ bs.dimming.nextStep.changed.map getOrigBrightnessLevel := by
  have hagain (b : BrightnessService) (again : Bool) :
      (if again then b.submitNextStep else b).Owes value ↔ b.Owes value := by
    cases again with
    | false => exact Iff.rfl
    | true =>
      refine (owes_submit b .nextStep value).trans ?_
      simp [BrightnessTask.persisted]
  rw [BrightnessService.nextStep]
  dsimp only
  rw [hagain]
  cases hchanged : bs.dimming.nextStep.changed with
  | none => simp [notifyChanged, Owes]
  | some level =>
    have hdimming : bs.dimming.isDimming = true := by
      by_contra hidle
      rw [BrightnessDimming.nextStep_idle (by simpa using hidle)] at hchanged
      cases hchanged
    have hanswer : (bs.device.setBrightness bs.displayId level).2 = bs.accepts := rfl
    have hfade (d : BrightnessDimming) (b : BrightnessService) :
        { b with dimming := d }.Owes value ↔ b.Owes value := Iff.rfl
    rw [hfade, notifyChanged, onChanged, if_neg (by simp [hdimming])]
    dsimp only
    rw [hanswer]
    by_cases hwrites : bs.accepts = true ∧ bs.isSleepStatus = false
    · rw [if_pos (by simp [hwrites])]
      refine (owes_submit _ _ value).trans ?_
      refine or_congr Iff.rfl ?_
      simp [hwrites, BrightnessTask.persisted]
    · rw [if_neg (by simpa using hwrites)]
      exact (or_iff_left (fun h => hwrites h.1)).symm

theorem fires_submits {bs t : BrightnessService} {id : ℕ}
    (hfind : bs.tasks.find? id = some .nextStep) (ht : bs.runTask id = some t) :
    Submits bs (.fires id) t := by
  have hpending := Tasks.find?_eq_some.mp hfind
  have hstep (task : BrightnessTask) (hp : (id, task) ∈ bs.tasks.pending) : task = .nextStep :=
    Tasks.mem_unique hp hpending
  rw [runTask_eq hfind] at ht
  obtain rfl := Option.some.inj ht
  refine ⟨?_, ?_⟩
  · exact SameControl.trans (b := { bs with tasks := bs.tasks.remove id }) rfl
      (nextStep_sameControl _)
  · intro value
    have howes := nextStep_owes { bs with tasks := bs.tasks.remove id } value
    rw [owes_remove hstep] at howes
    rw [perform, howes, submits]
    by_cases hwrites : bs.accepts = true ∧ bs.isSleepStatus = false
    · rw [if_pos ⟨hfind, hwrites⟩]
      exact or_congr_right (and_iff_right hwrites)
    · rw [if_neg (fun h => hwrites h.2)]
      refine or_congr_right (iff_of_false (fun h => hwrites h.1) ?_)
      simp

theorem act_cases {bs t : BrightnessService} {e : Event} (h : Timers.StopsFades bs.timers)
    (ht : act bs e = some t) : Submits bs e t ∨ ∃ value, Writes bs e value t := by
  cases e with
  | update value => exact Or.inl (Option.some.inj ht ▸ update_submits h value)
  | gradual value duration updateSetting =>
    rw [act] at ht
    split at ht
    · rename_i hd
      exact Or.inl (Option.some.inj ht ▸ gradual_submits h hd value updateSetting)
    · cases ht
  | fires id =>
    rw [act] at ht
    split at ht
    · rename_i hshows
      obtain ⟨task, hfind, hrun⟩ := Option.map_eq_some_iff.mp ht
      rw [hfind] at hshows
      have hpending := Tasks.find?_eq_some.mp hfind
      cases task with
      | nextStep => exact Or.inl (fires_submits hfind ht)
      | settingBrightness value => exact Or.inr ⟨value, id, _, rfl, hpending, rfl, hrun.symm⟩
      | dimmingSettingBrightness level => exact Or.inr ⟨_, id, _, rfl, hpending, rfl, hrun.symm⟩
      | cancelBoostBrightness duration => cases hshows
      | waitForFirstLux value => cases hshows
    · cases ht

def OnlyWrites (bs : BrightnessService) (ids : List ℕ) : Prop :=
  ∀ id ∈ ids, ∀ task, (id, task) ∈ bs.tasks.pending → task.persisted.isSome = true

/-- Whatever is owed is the last value, and it is owed and will be stored, or it is stored. -/
def Carries (s : Burst) : Prop :=
  ∀ v ∈ s.last, (∀ value, s.service.Owes value → value = v) ∧
    (s.service.Owes v ∧ s.service.settings.brightness.isSome = true ∨ s.service.Stored v)

theorem Writes.owes {bs t : BrightnessService} {e : Event} {value other : ℕ}
    (h : Writes bs e value t) (ht : t.Owes other) : bs.Owes other := by
  obtain ⟨id, task, _, _, _, rfl⟩ := h
  obtain ⟨p, hp, hother⟩ := ht
  exact ⟨p, (Tasks.mem_remove.mp hp).1, hother⟩

theorem Writes.readable {bs t : BrightnessService} {e : Event} {value : ℕ}
    (h : Writes bs e value t) :
    t.settings.brightness.isSome = bs.settings.brightness.isSome := by
  obtain ⟨id, task, _, _, _, rfl⟩ := h
  simp [setSettingBrightness, SettingStore.setSettingBrightness]

theorem Writes.stored_iff {bs t : BrightnessService} {e : Event} {value : ℕ}
    (h : Writes bs e value t) : t.Stored value ↔ bs.settings.brightness.isSome = true := by
  obtain ⟨id, task, _, _, _, rfl⟩ := h
  exact stored_setSettingBrightness_iff _ value

theorem Writes.submits_none {bs t : BrightnessService} {e : Event} {value : ℕ}
    (h : Writes bs e value t) : submits bs e = none := by
  obtain ⟨id, task, rfl, hp, hvalue, rfl⟩ := h
  rw [submits, if_neg]
  rintro ⟨hfind, _⟩
  obtain rfl := Tasks.mem_unique hp (Tasks.find?_eq_some.mp hfind)
  cases hvalue

theorem carries_write {s : Burst} {e : Event} {value : ℕ} {t : BrightnessService}
    (h : Carries s) (hwrites : Writes s.service e value t) : Carries ⟨t, s.last⟩ := by
  intro v hv
  obtain ⟨hall, hkept⟩ := h v hv
  have hvalue : value = v := by
    obtain ⟨id, task, _, hp, hpersisted, _⟩ := hwrites
    exact hall value ⟨(id, task), hp, hpersisted⟩
  refine ⟨fun other hother => hall other (hwrites.owes hother), Or.inr ?_⟩
  have hreadable : s.service.settings.brightness.isSome = true := by
    rcases hkept with ⟨_, hreadable⟩ | hstored
    · exact hreadable
    · simp [hstored.setting]
  exact hvalue ▸ hwrites.stored_iff.mpr hreadable

theorem write_runs {s : Burst} {id value : ℕ} {task : BrightnessTask}
    (hp : (id, task) ∈ s.service.tasks.pending) (hvalue : task.persisted = some value) :
    ∃ t, step s (.fires id) = some ⟨t, s.last⟩ ∧ Writes s.service (.fires id) value t := by
  have hfind := Tasks.find?_eq_some.mpr hp
  have hwrites : Writes s.service (.fires id) value
      ({ s.service with tasks := s.service.tasks.remove id }.setSettingBrightness value) :=
    ⟨id, task, rfl, hp, hvalue, rfl⟩
  refine ⟨_, ?_, hwrites⟩
  have hact : act s.service (.fires id) = s.service.runTask id := by
    rw [act, hfind]
    cases task with
    | settingBrightness => rfl
    | dimmingSettingBrightness => rfl
    | _ => cases hvalue
  rw [step, hwrites.submits_none, hact, runTask_eq hfind, perform_persisted _ hvalue]
  rfl

theorem write_enabled {s t : Burst} {id : ℕ}
    (h : OnlyWrites s.service [id]) (ht : step s (.fires id) = some t) :
    ∃ value, Writes s.service (.fires id) value t.service ∧ t.last = s.last := by
  obtain ⟨bs, hact, _⟩ := Option.map_eq_some_iff.mp ht
  rw [act] at hact
  split at hact
  · obtain ⟨task, hfind, _⟩ := Option.map_eq_some_iff.mp hact
    have hp := Tasks.find?_eq_some.mp hfind
    obtain ⟨value, hvalue⟩ := Option.isSome_iff_exists.mp (h id (by simp) task hp)
    obtain ⟨u, hu, hwrites⟩ := write_runs hp hvalue
    obtain rfl := Option.some.inj (hu.symm.trans ht)
    exact ⟨value, hwrites, rfl⟩
  · cases hact

theorem carries_run {s t : Burst} {ids : List ℕ} (h : Carries s)
    (hids : OnlyWrites s.service ids) (ht : Runs.run step s (ids.map .fires) = some t) :
    Carries t ∧ t.last = s.last := by
  induction ids generalizing s with
  | nil =>
    obtain rfl := Option.some.inj ht
    exact ⟨h, rfl⟩
  | cons id ids ih =>
    rw [List.map_cons] at ht
    obtain ⟨u, hu, hut⟩ := Runs.run_cons_some.mp ht
    obtain ⟨value, hwrites, hlast⟩ := write_enabled
      (fun i hi => hids i (List.mem_cons.mpr (Or.inl (List.mem_singleton.mp hi)))) hu
    have hcarries : Carries u := by
      have hnext := carries_write h hwrites
      rw [← hlast] at hnext
      exact hnext
    have hrest : OnlyWrites u.service ids := by
      intro i hi task hp
      obtain ⟨_, _, _, _, _, hservice⟩ := hwrites
      rw [hservice] at hp
      exact hids i (List.mem_cons_of_mem id hi) task (Tasks.mem_remove.mp hp).1
    obtain ⟨hend, hkept⟩ := ih hcarries hrest hut
    exact ⟨hend, hkept.trans hlast⟩

theorem exists_run {s : Burst} {ids : List ℕ} (hunique : ids.Nodup)
    (hids : ∀ id ∈ ids, ∃ task value, (id, task) ∈ s.service.tasks.pending ∧
      task.persisted = some value) :
    ∃ t, Runs.run step s (ids.map .fires) = some t ∧
      t.service.settings.brightness.isSome = s.service.settings.brightness.isSome ∧
      ∀ p, p ∈ t.service.tasks.pending ↔ p ∈ s.service.tasks.pending ∧ p.1 ∉ ids := by
  induction ids generalizing s with
  | nil => exact ⟨s, rfl, rfl, by simp⟩
  | cons id ids ih =>
    obtain ⟨hnew, hunique⟩ := List.nodup_cons.mp hunique
    obtain ⟨task, value, hp, hvalue⟩ := hids id (by simp)
    obtain ⟨bs, hu, hwrites⟩ := write_runs hp hvalue
    have hpending (p : ℕ × BrightnessTask) :
        p ∈ bs.tasks.pending ↔ p ∈ s.service.tasks.pending ∧ p.1 ≠ id := by
      obtain ⟨_, _, he, _, _, rfl⟩ := hwrites
      obtain rfl := Event.fires.inj he
      exact Tasks.mem_remove
    obtain ⟨t, ht, hreadable, hleft⟩ := ih (s := ⟨bs, s.last⟩) hunique (by
      intro i hi
      obtain ⟨task, value, hp, hvalue⟩ := hids i (List.mem_cons_of_mem id hi)
      refine ⟨task, value, (hpending _).mpr ⟨hp, ?_⟩, hvalue⟩
      rintro rfl
      exact hnew hi)
    refine ⟨t, Runs.run_cons_some.mpr ⟨_, hu, ht⟩, hreadable.trans hwrites.readable, ?_⟩
    intro p
    rw [hleft, hpending, List.mem_cons, not_or, and_assoc]

theorem exists_run_ending {s : Burst} {value : ℕ} (h : s.service.Owes value) :
    ∃ (ids : List ℕ) (t : Burst), (∀ id ∈ ids, ∃ task value,
        (id, task) ∈ s.service.tasks.pending ∧ task.persisted = some value) ∧
      Runs.run step s (ids.map .fires) = some t ∧ (∀ other, ¬ t.service.Owes other) ∧
      t.service.settings.brightness.isSome = s.service.settings.brightness.isSome ∧
      t.service.brightnessLevel = value := by
  obtain ⟨⟨id, task⟩, hp, hvalue⟩ := h
  obtain ⟨ids, hunique, hids⟩ := Tasks.exists_order
    (K := fun task : BrightnessTask => ∃ value, task.persisted = some value) hp ⟨value, hvalue⟩
  have hall : ∀ i ∈ ids ++ [id], ∃ task value, (i, task) ∈ s.service.tasks.pending ∧
      task.persisted = some value := by
    intro i hi
    obtain ⟨task, hp, value, hvalue⟩ := (hids i).mp hi
    exact ⟨task, value, hp, hvalue⟩
  obtain ⟨hfirst, _, hlast⟩ := List.nodup_append.mp hunique
  obtain ⟨u, hu, hreadable, hleft⟩ := exists_run hfirst
    (fun i hi => hall i (List.mem_append_left _ hi))
  have hpu : (id, task) ∈ u.service.tasks.pending := by
    refine (hleft _).mpr ⟨hp, fun hi => ?_⟩
    exact hlast id hi id (by simp) rfl
  obtain ⟨bs, ht, hwrites⟩ := write_runs hpu hvalue
  refine ⟨ids ++ [id], ⟨bs, u.last⟩, hall, ?_, ?_, hwrites.readable.trans hreadable, ?_⟩
  · rw [List.map_append]
    exact Runs.run_append_some.mpr ⟨u, hu, Runs.run_cons_some.mpr ⟨_, ht, rfl⟩⟩
  · rintro other ⟨⟨i, task'⟩, hp', hother⟩
    obtain ⟨_, _, he, _, _, rfl⟩ := hwrites
    obtain rfl := Event.fires.inj he
    obtain ⟨hpu', hne⟩ := Tasks.mem_remove.mp hp'
    obtain ⟨hps, hnot⟩ := (hleft _).mp hpu'
    have hlisted := (hids i).mpr ⟨task', hps, other, hother⟩
    rcases List.mem_append.mp hlisted with hi | hi
    · exact hnot hi
    · exact hne (List.mem_singleton.mp hi)
  · obtain ⟨_, _, _, _, _, rfl⟩ := hwrites
    rfl

/-- The last value wins exactly when the writes that are owed all carry it. -/
theorem lastWins_iff (s : Burst) : LastWins s ↔ Carries s := by
  constructor
  · intro h v hv
    by_cases howes : ∃ value, s.service.Owes value
    · have hvalue (value : ℕ) (howed : s.service.Owes value) :
          value = v ∧ s.service.settings.brightness.isSome = true := by
        obtain ⟨ids, t, hids, ht, hdone, hreadable, hlevel⟩ := exists_run_ending howed
        have hstored := h v hv ids t hids ht hdone
        refine ⟨hlevel.symm.trans hstored.level, ?_⟩
        rw [← hreadable, hstored.setting]
        rfl
      obtain ⟨value, howed⟩ := howes
      obtain ⟨rfl, hreadable⟩ := hvalue value howed
      exact ⟨fun other hother => (hvalue other hother).1, Or.inl ⟨howed, hreadable⟩⟩
    · have hnone (value : ℕ) (howed : s.service.Owes value) : value = v :=
        absurd ⟨value, howed⟩ howes
      refine ⟨hnone, Or.inr (h v hv [] s (by simp) rfl ?_)⟩
      intro value howed
      exact howes ⟨value, howed⟩
  · intro h v hv ids t hids ht hdone
    have honly : OnlyWrites s.service ids := by
      intro id hid task hp
      obtain ⟨task', value, hp', hvalue⟩ := hids id hid
      obtain rfl := Tasks.mem_unique hp hp'
      exact Option.isSome_iff_exists.mpr ⟨value, hvalue⟩
    obtain ⟨hcarries, hlast⟩ := carries_run h honly ht
    rcases (hcarries v (hlast ▸ hv)).2 with ⟨howed, _⟩ | hstored
    · exact absurd howed (hdone v)
    · exact hstored

theorem step_stopsFades {s t : Burst} {e : Event} (h : Timers.StopsFades s.service.timers)
    (ht : step s e = some t) : Timers.StopsFades t.service.timers := by
  obtain ⟨bs, hact, rfl⟩ := Option.map_eq_some_iff.mp ht
  cases e with
  | update value =>
    obtain rfl := Option.some.inj hact
    exact h.moves (Timers.Moves.refl.update _ _ _)
  | gradual value duration updateSetting =>
    rw [act] at hact
    split at hact
    · obtain rfl := Option.some.inj hact
      exact h.moves (Timers.Moves.refl.update _ _ _)
    · cases hact
  | fires id =>
    rw [act] at hact
    split at hact
    · exact h.moves (Timers.runTask_moves hact)
    · cases hact

theorem enabled_of_submits {bs : BrightnessService} {e : Event} {v : ℕ} (h : v ∈ submits bs e) :
    ∃ t, act bs e = some t := by
  cases e with
  | update value => exact ⟨_, rfl⟩
  | gradual => cases h
  | fires id =>
    rw [submits] at h
    split at h
    · rename_i hfade
      rw [act, hfade.1, if_pos (by rfl), runTask_eq hfade.1]
      exact ⟨_, rfl⟩
    · cases h

theorem Submits.stored_iff {bs t : BrightnessService} {e : Event} (h : Submits bs e t) (v : ℕ) :
    t.Stored v ↔ bs.Stored v := by
  constructor
  · rintro ⟨hset, hlevel, hcached⟩
    rw [h.same] at hset hlevel hcached
    exact ⟨hset, hlevel, hcached⟩
  · rintro ⟨hset, hlevel, hcached⟩
    rw [h.same]
    exact ⟨hset, hlevel, hcached⟩

theorem Submits.carries_iff {s : Burst} {t : BrightnessService} {e : Event}
    (h : Submits s.service e t) (hs : Carries s) :
    InOrder s e ↔ Carries ⟨t, (submits s.service e).or s.last⟩ := by
  have hreadable : t.settings.brightness = s.service.settings.brightness := by rw [h.same]
  have howes := h.owes
  cases hshown : submits s.service e with
  | none =>
    refine iff_of_true (by simp [InOrder, hshown]) ?_
    simp only [hshown, Option.not_mem_none, or_false] at howes
    intro v hv
    dsimp only
    simp only [howes, hreadable, h.stored_iff]
    exact hs v hv
  | some v =>
    rw [hshown] at howes
    have howed : t.Owes v := (howes v).mpr (Or.inr rfl)
    constructor
    · intro hin w hw
      obtain rfl := Option.some.inj hw
      obtain ⟨hall, hset⟩ := hin v hshown
      refine ⟨?_, Or.inl ⟨howed, hreadable ▸ hset⟩⟩
      intro value hvalue
      rcases (howes value).mp hvalue with hold | hnew
      · exact owesOnly_iff.mp hall value hold
      · exact (Option.some.inj hnew).symm
    · intro hcarries w hw
      obtain rfl := Option.some.inj (hshown.symm.trans hw)
      obtain ⟨hall, hkept⟩ := hcarries v rfl
      have honly : s.service.OwesOnly v :=
        owesOnly_iff.mpr fun value hold => hall value ((howes value).mpr (Or.inl hold))
      refine ⟨honly, ?_⟩
      rw [← hreadable]
      rcases hkept with ⟨_, hset⟩ | hkept
      · exact hset
      · exact Option.isSome_iff_exists.mpr ⟨v, hkept.setting⟩

theorem step_carries_iff {s : Burst} {e : Event} (h : Timers.StopsFades s.service.timers)
    (hs : Carries s) : InOrder s e ↔ ∀ t, step s e = some t → Carries t := by
  cases hact : act s.service e with
  | none =>
    refine iff_of_true ?_ (by simp [step, hact])
    intro v hv
    obtain ⟨t, ht⟩ := enabled_of_submits hv
    cases hact.symm.trans ht
  | some bs =>
    have hstep : (∀ t, step s e = some t → Carries t) ↔
        Carries ⟨bs, (submits s.service e).or s.last⟩ := by
      simp [step, hact]
    rw [hstep]
    rcases act_cases h hact with hsubmits | ⟨value, hwrites⟩
    · exact hsubmits.carries_iff hs
    · rw [InOrder, hwrites.submits_none]
      refine iff_of_true (by simp) ?_
      exact carries_write hs hwrites

/-- In every burst of brightness changes the last value wins, whatever the order in which the
writes run, exactly if each value is shown while no write of another value is owed. -/
theorem last_wins_iff (bs : BrightnessService) (h : Reachable bs) (es : List Event) :
    Runs.Always step (fun s e => ∀ t, step s e = some t → LastWins t) ⟨bs, none⟩ es ↔
      Runs.Always step InOrder ⟨bs, none⟩ es := by
  simp only [lastWins_iff]
  apply Runs.always_keeps_iff (J := fun s => Timers.StopsFades s.service.timers)
    (P := fun _ => True)
  · intro s e t hs _ ht
    exact step_stopsFades hs ht
  · intro s e hs hcarries _
    exact step_carries_iff hs hcarries
  · exact h.stopsFades
  · intro v hv
    cases hv
  · exact fun _ _ => trivial

/-- A slider dragged slowly: each write runs before the next value is shown. -/
theorem written_in_turn_last_wins :
    Reachable ({} : BrightnessBoot).start ∧
      Runs.Always step (fun s e => ∀ t, step s e = some t → LastWins t)
        ⟨({} : BrightnessBoot).start, none⟩ [.update 100, .fires 0, .update 200, .fires 1] := by
  have hboot : Reachable ({} : BrightnessBoot).start := ⟨_, [], ⟨{}, rfl⟩, rfl⟩
  refine ⟨hboot, (last_wins_iff _ hboot _).mpr ?_⟩
  decide +kernel

/-- A slider dragged from 100 to 200 before any write ran: the write of 100 may run last. -/
theorem older_value_persisted :
    ∃ s, Runs.run step ⟨({} : BrightnessBoot).start, none⟩ [.update 100, .update 200] = some s ∧
      ¬ LastWins s := by
  have hrun : (Runs.run step ⟨({} : BrightnessBoot).start, none⟩
      [.update 100, .update 200]).any
      (fun s => s.last = some 200 ∧ ¬ s.service.OwesOnly 200) = true := by
    decide +kernel
  obtain ⟨s, hs, hlate⟩ := (Option.any_eq_true _ _).mp hrun
  obtain ⟨hlast, howes⟩ := of_decide_eq_true hlate
  refine ⟨s, hs, ?_⟩
  rw [lastWins_iff]
  intro hcarries
  exact howes (owesOnly_iff.mpr (hcarries 200 hlast).1)

end LastBrightness

end DisplayPowerMgr
