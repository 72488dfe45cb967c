import DisplayPowerMgr.BrightnessTasks

/-! The parts that every step of `BrightnessService` is made of, as far as the panel and the
persisted setting are concerned; and the induction rule that follows: what every part keeps, every
run keeps. -/
namespace DisplayPowerMgr

namespace BrightnessService

/-- The tasks that carry no level of their own, or one that is still to be made safe. -/
def Plain : BrightnessTask → Prop
  | .cancelBoostBrightness gradualDuration => gradualDuration < 2 ^ 32
  | .waitForFirstLux _ => True
  | _ => False

/-- What drives the panel and the setting. -/
structure Drive where
  param : BrightnessParam
  brightnessValueMax : ℕ
  brightnessValueMin : ℕ
  dimming : BrightnessDimming
  device : Device
  brightness : Option ℕ
  tasks : Tasks BrightnessTask

def drive (bs : BrightnessService) : Drive where
  param := bs.param
  brightnessValueMax := bs.brightnessValueMax
  brightnessValueMin := bs.brightnessValueMin
  dimming := bs.dimming
  device := bs.device
  brightness := bs.settings.brightness
  tasks := bs.tasks

/-- `b` drives the panel and the setting on as `a` does. -/
structure SameDrive (a b : BrightnessService) : Prop where
  drive : b.drive = { a.drive with tasks := b.tasks }
  tasks : ∀ p ∈ b.tasks.pending, p ∈ a.tasks.pending ∨ Plain p.2

/-- One part of a step: a change that leaves the drive alone, an update, the end of a fade, a new
cap, or one of the tasks that drive the panel or the setting. -/
inductive Part (a : BrightnessService) : BrightnessService → Prop
  | quiet {b : BrightnessService} (same : SameDrive a b) : Part a b
  | update (value duration : ℕ) (updateSetting : Bool) (timely : duration < 2 ^ 32) :
    Part a (a.updateBrightness value duration updateSetting).1
  | stop : Part a a.stopIfDimming
  | cap (maxValue : ℕ) : Part a (a.storeMaxBrightness maxValue)
  | fadeStep (id : ℕ) (pending : (id, .nextStep) ∈ a.tasks.pending) :
    Part a { a with tasks := a.tasks.remove id }.nextStep
  | setting (id value : ℕ) (pending : (id, .settingBrightness value) ∈ a.tasks.pending) :
    Part a ({ a with tasks := a.tasks.remove id }.setSettingBrightness value)
  | dimmingSetting (id value : ℕ)
    (pending : (id, .dimmingSettingBrightness value) ∈ a.tasks.pending) :
    Part a ({ a with tasks := a.tasks.remove id }.setSettingBrightness
      (getOrigBrightnessLevel value))

abbrev Parts : BrightnessService → BrightnessService → Prop := Relation.ReflTransGen Part

theorem Part.parts {a b : BrightnessService} (h : Part a b) : Parts a b := .single h

theorem Parts.refl {a : BrightnessService} : Parts a a := Relation.ReflTransGen.refl

theorem Parts.trans {a b c : BrightnessService} (hab : Parts a b) (hbc : Parts b c) : Parts a c :=
  Relation.ReflTransGen.trans hab hbc

theorem SameDrive.parts {a b : BrightnessService} (h : SameDrive a b) : Parts a b :=
  (Part.quiet h).parts

theorem Parts.change {a b : BrightnessService} (h : b.drive = a.drive) : Parts a b := by
  have htasks : b.tasks = a.tasks := congrArg Drive.tasks h
  refine SameDrive.parts ⟨?_, ?_⟩
  · rw [h, htasks]
    rfl
  · intro p hp
    exact Or.inl (htasks ▸ hp)

theorem Parts.update {a b : BrightnessService} (h : Parts a b) (value : ℕ) {duration : ℕ}
    (hd : duration < 2 ^ 32) (updateSetting : Bool) :
    Parts a (b.updateBrightness value duration updateSetting).1 :=
  h.tail (.update value duration updateSetting hd)

theorem Parts.keeps {J : BrightnessService → Prop} (keep : ∀ a b, Part a b → J a → J b)
    {a b : BrightnessService} (h : Parts a b) (ha : J a) : J b := by
  induction h with
  | refl => exact ha
  | tail _ hpart ih => exact keep _ _ hpart ih

theorem SameButSensors.parts {a b : BrightnessService} (h : SameButSensors a b) : Parts a b := by
  refine Parts.change ?_
  rw [h]
  rfl

def durationOf : BrightnessEvent → ℕ
  | .setBrightness _ duration _ => duration
  | .discountBrightness _ duration => duration
  | .overrideBrightness _ duration => duration
  | .restoreBrightness duration => duration
  | .boostBrightness duration => duration
  | .cancelBoostBrightness duration => duration
  | _ => 0

/-- The durations that the service holds back for later are 32-bit numbers. -/
structure TimelyBy (sleepDarkenTime : ℕ) (tasks : Tasks BrightnessTask) : Prop where
  sleep : sleepDarkenTime < 2 ^ 32
  boost : ∀ id duration, (id, .cancelBoostBrightness duration) ∈ tasks.pending → duration < 2 ^ 32

def TimelyInside (bs : BrightnessService) : Prop := TimelyBy bs.param.sleepDarkenTime bs.tasks

theorem TimelyBy.of_subset {sleep : ℕ} {tasks tasks' : Tasks BrightnessTask}
    (h : TimelyBy sleep tasks) (hsub : ∀ p ∈ tasks'.pending, p ∈ tasks.pending) :
    TimelyBy sleep tasks' :=
  ⟨h.sleep, fun id duration hp => h.boost id duration (hsub _ hp)⟩

theorem TimelyBy.submit {sleep : ℕ} {tasks : Tasks BrightnessTask} (h : TimelyBy sleep tasks)
    {task : BrightnessTask} (ht : task.shows = true) : TimelyBy sleep (tasks.submit task) := by
  refine ⟨h.sleep, ?_⟩
  intro id duration hp
  rcases List.mem_append.mp hp with hp | hp
  · exact h.boost id duration hp
  · obtain rfl := (Prod.mk.inj (List.mem_singleton.mp hp)).2
    cases ht

theorem TimelyInside.remove {bs : BrightnessService} (h : TimelyInside bs) (id : ℕ) :
    TimelyInside { bs with tasks := bs.tasks.remove id } :=
  h.of_subset fun _ hp => (Tasks.mem_remove.mp hp).1

theorem TimelyInside.stopIfDimming {bs : BrightnessService} (h : TimelyInside bs) :
    TimelyInside bs.stopIfDimming := by
  rw [BrightnessService.stopIfDimming]
  split
  · exact TimelyBy.of_subset h fun _ hp => mem_ffrtCancel hp
  · exact h

theorem TimelyInside.update {bs : BrightnessService} (h : TimelyInside bs) (value duration : ℕ)
    (updateSetting : Bool) :
    TimelyInside (bs.updateBrightness value duration updateSetting).1 := by
  have hhalt : TimelyInside bs.halted := TimelyInside.stopIfDimming h
  rcases Nat.eq_zero_or_pos duration with rfl | hd
  · rw [updateBrightness_now]
    dsimp only
    split
    · exact TimelyBy.submit hhalt rfl
    · exact hhalt
  · rw [updateBrightness_gradual bs hd, startDimming]
    dsimp only
    split
    · exact TimelyBy.submit hhalt rfl
    · exact hhalt

theorem TimelyInside.nextStep {bs : BrightnessService} (h : TimelyInside bs) :
    TimelyInside bs.nextStep := by
  have hchanged : TimelyInside (bs.notifyChanged bs.dimming.nextStep.changed) := by
    cases bs.dimming.nextStep.changed with
    | none => exact h
    | some value =>
      rw [notifyChanged, onChanged]
      dsimp only
      split
      · exact h
      · split
        · exact TimelyBy.submit h rfl
        · exact h
  rw [BrightnessService.nextStep]
  dsimp only
  split
  · exact TimelyBy.submit hchanged rfl
  · exact hchanged

theorem Part.timelyInside {a b : BrightnessService} (h : Part a b) (ha : TimelyInside a) :
    TimelyInside b := by
  cases h with
  | quiet same =>
    have hparam : b.param = a.param := congrArg Drive.param same.drive
    refine ⟨?_, ?_⟩
    · rw [hparam]
      exact ha.sleep
    · intro id duration hp
      rcases same.tasks _ hp with hold | hplain
      · exact ha.boost id duration hold
      · exact hplain
  | update value duration updateSetting => exact ha.update value duration updateSetting
  | stop => exact ha.stopIfDimming
  | cap maxValue => exact ⟨ha.sleep, ha.boost⟩
  | fadeStep id => exact (ha.remove id).nextStep
  | setting id value => exact ⟨(ha.remove id).sleep, (ha.remove id).boost⟩
  | dimmingSetting id value => exact ⟨(ha.remove id).sleep, (ha.remove id).boost⟩

theorem setBrightness_parts (bs : BrightnessService) (value : ℕ) {duration : ℕ}
    (hd : duration < 2 ^ 32) (continuous : Bool) :
    Parts bs (bs.setBrightness value duration continuous).1 := by
  rw [setBrightness]
  split
  · exact Parts.change rfl
  · apply Parts.update _ value hd
    split
    · exact Parts.change rfl
    · exact Parts.change rfl

theorem waitFirstLux_parts (bs : BrightnessService) : Parts bs bs.waitFirstLux := by
  refine SameDrive.parts ⟨rfl, ?_⟩
  intro p hp
  rcases List.mem_append.mp hp with hp | hp
  · exact Or.inl (mem_ffrtCancel hp)
  · obtain rfl := List.mem_singleton.mp hp
    exact Or.inr trivial

theorem setScreenOnBrightness_parts (bs : BrightnessService) :
    Parts bs bs.setScreenOnBrightness := by
  have hget : Parts bs (bs.getScreenOnBrightness true).1 := by
    rw [getScreenOnBrightness_fst]
    exact Parts.change rfl
  rw [setScreenOnBrightness]
  dsimp only
  split
  · split
    · exact hget
    · exact hget.trans (waitFirstLux_parts _)
  · exact hget.update _ (by decide) _

theorem discountBrightness_parts (bs : BrightnessService) (discount : ℚ) {duration : ℕ}
    (hd : duration < 2 ^ 32) : Parts bs (bs.discountBrightness discount duration).1 := by
  by_cases hon : bs.isScreenOn = true
  · rw [discountBrightness_eq hon]
    apply Parts.update _ _ hd
    exact Parts.change rfl
  · rw [discountBrightness, canDiscountBrightness, if_pos (by simp [hon])]

theorem overrideBrightness_parts (bs : BrightnessService) (value : ℕ) {duration : ℕ}
    (hd : duration < 2 ^ 32) : Parts bs (bs.overrideBrightness value duration).1 := by
  rw [overrideBrightness]
  split
  · exact .refl
  · apply Parts.update _ value hd
    exact Parts.change rfl

theorem restoreBrightness_parts (bs : BrightnessService) {duration : ℕ}
    (hd : duration < 2 ^ 32) : Parts bs (bs.restoreBrightness duration).1 := by
  rw [restoreBrightness]
  split
  · exact .refl
  · apply Parts.update _ _ hd
    exact Parts.change rfl

theorem boostBrightness_parts (bs : BrightnessService) {duration : ℕ} (hd : duration < 2 ^ 32) :
    Parts bs (bs.boostBrightness duration).1 := by
  rw [boostBrightness]
  split
  · exact .refl
  · have hboost : Parts bs (if bs.isBrightnessBoosted then (bs, true)
        else { bs with isBrightnessBoosted := true }.updateBrightness bs.param.maxBrightness
          duration false).1 := by
      split
      · exact .refl
      · apply Parts.update _ _ hd
        exact Parts.change rfl
    refine hboost.trans (SameDrive.parts ⟨rfl, ?_⟩)
    intro p hp
    rcases List.mem_append.mp hp with hp | hp
    · exact Or.inl (mem_ffrtCancel hp)
    · obtain rfl := List.mem_singleton.mp hp
      exact Or.inr hd

theorem cancelBoostBrightness_parts (bs : BrightnessService) {duration : ℕ}
    (hd : duration < 2 ^ 32) : Parts bs (bs.cancelBoostBrightness duration).1 := by
  rw [cancelBoostBrightness]
  split
  · exact .refl
  · apply Parts.update _ _ hd
    exact SameDrive.parts ⟨rfl, fun _ hp => Or.inl (mem_ffrtCancel hp)⟩

theorem clearOffset_parts (bs : BrightnessService) : Parts bs bs.clearOffset :=
  Part.stop.parts.trans
    (Parts.change rfl)

theorem changeMaxBrightness_parts (bs : BrightnessService) (maxValue : ℕ) :
    Parts bs (bs.changeMaxBrightness maxValue).1 := by
  have hcap : Parts bs (bs.storeMaxBrightness maxValue) := (Part.cap maxValue).parts
  rw [changeMaxBrightness]
  split
  · exact .refl
  · rw [followMaxBrightness]
    split
    · exact hcap.update _ (by decide) _
    · split
      · exact hcap
      · exact hcap.update _ (by decide) _

theorem updateCurrentBrightnessLevel_parts (bs : BrightnessService) (lux : ℚ)
    (isFastDuration : Bool) : Parts bs (bs.updateCurrentBrightnessLevel lux isFastDuration) := by
  have hlevel : Parts bs (bs.getBrightnessLevel lux).1 :=
    Parts.change rfl
  have hstore (level : ℕ) : Parts (bs.getBrightnessLevel lux).1
      ((bs.getBrightnessLevel lux).1.storeBrightnessLevel level isFastDuration) := by
    rw [storeBrightnessLevel, cancelWaitFirstLux]
    dsimp only
    split
    · exact SameDrive.parts ⟨rfl, fun _ hp => Or.inl (mem_ffrtCancel hp)⟩
    · exact Parts.change rfl
  rw [updateCurrentBrightnessLevel]
  dsimp only
  split
  · apply (hlevel.trans (hstore _)).update
    rw [luxDuration]
    repeat' split
    all_goals decide
  · exact hlevel

theorem processLightLux_parts {bs t : BrightnessService} {lux : ℚ} {currentTime : ℤ}
    (ht : bs.processLightLux lux currentTime = some t) : Parts bs t := by
  rw [processLightLux] at ht
  split at ht
  · obtain rfl := Option.some.inj ht
    exact .refl
  · obtain ⟨⟨m, isNeed⟩, _, hrest⟩ := Option.bind_eq_some_iff.mp ht
    obtain rfl := Option.some.inj hrest
    have hlight : Parts bs { bs with lightLuxManager := m } :=
      Parts.change rfl
    split
    · exact hlight.trans (updateCurrentBrightnessLevel_parts _ _ _)
    · exact hlight

theorem autoAdjustBrightness_parts (bs : BrightnessService) (enable : Bool) :
    Parts bs (bs.autoAdjustBrightness enable).1 := by
  rw [autoAdjustBrightness]
  repeat' split
  · exact Parts.change rfl
  · exact .refl
  · refine Parts.trans ?_ (activateValidAmbientSensor_same _).parts
    exact Parts.change rfl
  · exact .refl
  · refine (deactivateAllAmbientSensor_same bs).parts.trans ?_
    exact Parts.change rfl

theorem onFoldStatusChanged_parts (bs : BrightnessService) (foldStatus : FoldStatus) :
    Parts bs (bs.onFoldStatusChanged foldStatus) := by
  rw [onFoldStatusChanged]
  split
  · exact .refl
  · have hfold (displayId : ℕ) : Parts bs ((bs.setDisplayId displayId).foldSensors foldStatus) :=
      Parts.trans (b := bs.setDisplayId displayId) (Parts.change rfl) (foldSensors_same _ _).parts
    have hstored {s : BrightnessService} (hs : Parts bs s) :
        Parts bs { s with lastFoldStatus := foldStatus } :=
      hs.trans (Parts.change rfl)
    dsimp only
    apply hstored
    split
    · exact (hfold _).update _ (by decide) _
    · exact hfold _

theorem setDisplayState_parts (bs : BrightnessService)
    (hsleep : bs.param.sleepDarkenTime < 2 ^ 32) (state : DisplayState) :
    Parts bs (bs.setDisplayState state) := by
  have henter : Parts bs (bs.enterState state) :=
    Parts.trans (b := { bs with state := state }) (Parts.change rfl)
      (enterState_same bs state).parts
  cases state with
  | off =>
    rw [setDisplayState]
    refine henter.trans (Parts.trans ?_ Part.stop.parts)
    split
    · exact Parts.change rfl
    · exact Parts.change rfl
  | dim =>
    rw [setDisplayState, setSleepBrightness]
    split
    · exact henter
    · refine henter.trans (Parts.trans ?_ (overrideBrightness_parts _ _ ?_))
      · exact Parts.change rfl
      · rw [enterState_same bs .dim]
        exact hsleep
  | on =>
    have hon : Parts bs { bs.enterState .on with isDisplayOnWhenFirstLuxReport := true } :=
      henter.trans (Parts.change rfl)
    rw [setDisplayState]
    dsimp only
    split
    · refine hon.trans ((restoreBrightness_parts _ (by decide : 0 < 2 ^ 32)).trans ?_)
      exact Parts.change rfl
    · exact hon
  | _ => exact henter

theorem runTask_parts {bs t : BrightnessService} (h : TimelyInside bs) {id : ℕ}
    (ht : bs.runTask id = some t) : Parts bs t := by
  obtain ⟨task, hfind, rfl⟩ := Option.map_eq_some_iff.mp ht
  have hpending := Tasks.find?_eq_some.mp hfind
  have htaken : Parts bs { bs with tasks := bs.tasks.remove id } :=
    SameDrive.parts ⟨rfl, fun _ hp => Or.inl (Tasks.mem_remove.mp hp).1⟩
  cases task with
  | nextStep => exact (Part.fadeStep id hpending).parts
  | settingBrightness value => exact (Part.setting id value hpending).parts
  | dimmingSettingBrightness value => exact (Part.dimmingSetting id value hpending).parts
  | cancelBoostBrightness duration =>
    exact htaken.trans (cancelBoostBrightness_parts _ (h.boost id duration hpending))
  | waitForFirstLux value => exact htaken.update value (by decide) true

/-- Every step is made of these parts. -/
theorem step_parts {bs t : BrightnessService} (h : TimelyInside bs) {e : BrightnessEvent}
    (he : durationOf e < 2 ^ 32) (ht : bs.step e = some t) : Parts bs t := by
  cases e with
  | processLightLux lux currentTime => exact processLightLux_parts ht
  | runTask id => exact runTask_parts h ht
  | setDisplayState state => exact Option.some.inj ht ▸ setDisplayState_parts bs h.sleep state
  | setScreenOnBrightness => exact Option.some.inj ht ▸ setScreenOnBrightness_parts bs
  | setBrightness value duration continuous =>
    exact Option.some.inj ht ▸ setBrightness_parts bs value he continuous
  | discountBrightness discount duration =>
    exact Option.some.inj ht ▸ discountBrightness_parts bs discount he
  | overrideBrightness value duration =>
    exact Option.some.inj ht ▸ overrideBrightness_parts bs value he
  | restoreBrightness duration => exact Option.some.inj ht ▸ restoreBrightness_parts bs he
  | boostBrightness duration => exact Option.some.inj ht ▸ boostBrightness_parts bs he
  | cancelBoostBrightness duration => exact Option.some.inj ht ▸ cancelBoostBrightness_parts bs he
  | setMaxBrightness value => exact Option.some.inj ht ▸ changeMaxBrightness_parts bs _
  | setMaxBrightnessNit maxNit => exact Option.some.inj ht ▸ changeMaxBrightness_parts bs _
  | autoAdjustBrightness enable => exact Option.some.inj ht ▸ autoAdjustBrightness_parts bs enable
  | clearOffset => exact Option.some.inj ht ▸ clearOffset_parts bs
  | onFoldStatusChanged foldStatus =>
    exact Option.some.inj ht ▸ onFoldStatusChanged_parts bs foldStatus
  | foldDisplayModeChanged mode =>
    exact Option.some.inj ht ▸ Parts.change rfl
  | setDisplayId displayId =>
    exact Option.some.inj ht ▸ Parts.change rfl

/-- The induction rule: what every part keeps, every run with 32-bit durations keeps. -/
theorem run_keeps {J : BrightnessService → Prop} (keep : ∀ a b, Part a b → J a → J b)
    {bs t : BrightnessService} (htimely : TimelyInside bs) (hJ : J bs) {es : List BrightnessEvent}
    (hes : ∀ e ∈ es, durationOf e < 2 ^ 32) (ht : Runs.run step bs es = some t) : J t := by
  refine (Runs.run_invariant_of (J := fun s => TimelyInside s ∧ J s) ?_ ⟨htimely, hJ⟩ hes ht).2
  rintro s e u ⟨hin, hs⟩ he hu
  exact (step_parts hin he hu).keeps (J := fun s => TimelyInside s ∧ J s)
    (fun a b hpart hab => ⟨hpart.timelyInside hab.1, keep a b hpart hab.2⟩) ⟨hin, hs⟩

end BrightnessService

end DisplayPowerMgr
