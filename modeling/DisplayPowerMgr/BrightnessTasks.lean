import DisplayPowerMgr.BrightnessEffects
import Mathlib.Logic.Relation

/-! The tasks of `BrightnessService`, the handles it keeps for them and the two flags that shield
the panel: the few moves that every operation is made of, as far as these are concerned. -/
namespace DisplayPowerMgr

/-- What an operation may submit, cancel or flag. -/
structure Timers where
  hasQueue : Bool
  hasDimmingQueue : Bool
  waitForFirstLux : Bool
  isBrightnessOverridden : Bool
  isBrightnessBoosted : Bool
  animatorTaskHandle : Option ℕ
  waitForFirstLuxTaskHandle : Option ℕ
  cancelBoostTaskHandle : Option ℕ
  tasks : Tasks BrightnessTask

def BrightnessService.timers (bs : BrightnessService) : Timers where
  hasQueue := bs.hasQueue
  hasDimmingQueue := bs.dimming.hasQueue
  waitForFirstLux := bs.waitForFirstLux
  isBrightnessOverridden := bs.isBrightnessOverridden
  isBrightnessBoosted := bs.isBrightnessBoosted
  animatorTaskHandle := bs.animatorTaskHandle
  waitForFirstLuxTaskHandle := bs.waitForFirstLuxTaskHandle
  cancelBoostTaskHandle := bs.cancelBoostTaskHandle
  tasks := bs.tasks

def BrightnessService.AcceptsBoost (bs : BrightnessService) : BrightnessEvent → Prop
  | .boostBrightness _ => bs.canBoostBrightness = true ∧ bs.hasQueue = true
  | _ => False

def BrightnessTask.endsBoost : BrightnessTask → Bool
  | .cancelBoostBrightness _ => true
  | _ => false

namespace Timers

def stopFade (v : Timers) : Timers :=
  { v with
    tasks := (ffrtCancel v.tasks v.hasDimmingQueue v.animatorTaskHandle).1
    animatorTaskHandle := (ffrtCancel v.tasks v.hasDimmingQueue v.animatorTaskHandle).2 }

def startFade (v : Timers) : Timers :=
  { v with tasks := v.tasks.submit .nextStep, animatorTaskHandle := some v.tasks.next }

def lightArrived (v : Timers) : Timers :=
  { v with
    waitForFirstLux := false
    tasks := (ffrtCancel v.tasks v.hasQueue v.waitForFirstLuxTaskHandle).1
    waitForFirstLuxTaskHandle := (ffrtCancel v.tasks v.hasQueue v.waitForFirstLuxTaskHandle).2 }

def waitFirstLux (v : Timers) (screenOnBrightness : ℕ) : Timers :=
  { v with
    waitForFirstLux := true
    tasks := (ffrtCancel v.tasks v.hasQueue v.waitForFirstLuxTaskHandle).1.submit
      (.waitForFirstLux screenOnBrightness)
    waitForFirstLuxTaskHandle := some v.tasks.next }

def boost (v : Timers) (gradualDuration : ℕ) : Timers :=
  { v with
    isBrightnessBoosted := true
    tasks := (ffrtCancel v.tasks v.hasQueue v.cancelBoostTaskHandle).1.submit
      (.cancelBoostBrightness gradualDuration)
    cancelBoostTaskHandle := some v.tasks.next }

def endBoost (v : Timers) : Timers :=
  if v.isBrightnessBoosted && v.hasQueue then
    { v with
      isBrightnessBoosted := false
      tasks := (ffrtCancel v.tasks v.hasQueue v.cancelBoostTaskHandle).1
      cancelBoostTaskHandle := (ffrtCancel v.tasks v.hasQueue v.cancelBoostTaskHandle).2 }
  else v

/-- The moves besides a boost and the wait for light. -/
inductive Move (v : Timers) : Timers → Prop
  | stopFade : Move v v.stopFade
  | startFade : Move v v.startFade
  | submitted (task : BrightnessTask) (write : task.shows = true) :
    Move v { v with tasks := v.tasks.submit task }
  | lightArrived : Move v v.lightArrived
  | taken (id : ℕ) (task : BrightnessTask) (pending : (id, task) ∈ v.tasks.pending)
    (other : task.endsBoost = false) : Move v { v with tasks := v.tasks.remove id }
  | boostEnded : Move v v.endBoost
  | boostExpired (id duration : ℕ)
    (pending : (id, .cancelBoostBrightness duration) ∈ v.tasks.pending) :
    Move v { v with tasks := v.tasks.remove id }.endBoost
  | waitOver : Move v { v with waitForFirstLux := false }
  | overridden (free : v.isBrightnessBoosted = false) :
    Move v { v with isBrightnessOverridden := true, waitForFirstLux := false }
  | released : Move v { v with isBrightnessOverridden := false }

abbrev Moves : Timers → Timers → Prop := Relation.ReflTransGen Move

theorem Moves.refl {v : Timers} : Moves v v := Relation.ReflTransGen.refl

theorem Moves.trans {u v w : Timers} (huv : Moves u v) (hvw : Moves v w) : Moves u w :=
  Relation.ReflTransGen.trans huv hvw

theorem Move.moves {v w : Timers} (h : Move v w) : Moves v w := .single h

theorem Moves.keeps {J : Timers → Prop} (keep : ∀ v w, Move v w → J v → J w) {v w : Timers}
    (h : Moves v w) (hv : J v) : J w := by
  induction h with
  | refl => exact hv
  | tail _ hmove ih => exact keep _ _ hmove ih

open BrightnessService

theorem follow_cancel {α : Type*} {K : α → Prop} (tasks : Tasks α) (hasQueue : Bool)
    (handle : Option ℕ) : tasks.Follow K (ffrtCancel tasks hasQueue handle).1 :=
  ⟨fun _ _ _ hp => mem_ffrtCancel hp, (ffrtCancel_next tasks hasQueue handle).ge⟩

theorem Move.follow {v w : Timers} (h : Move v w) :
    v.tasks.Follow (fun task : BrightnessTask => task.shows = false) w.tasks := by
  have hends (u : Timers) :
      u.tasks.Follow (fun task : BrightnessTask => task.shows = false) u.endBoost.tasks := by
    rw [Timers.endBoost]
    split
    · exact follow_cancel _ _ _
    · exact .refl _
  cases h with
  | stopFade => exact follow_cancel _ _ _
  | startFade => exact .submit (by simp [BrightnessTask.shows])
  | submitted task write => exact .submit (by simp [write])
  | lightArrived => exact follow_cancel _ _ _
  | taken id => exact .remove _ id
  | boostEnded => exact hends v
  | boostExpired id =>
    have hend := hends { v with tasks := v.tasks.remove id }
    exact Tasks.Follow.trans (.remove _ id) hend
  | waitOver => exact .refl _
  | overridden => exact .refl _
  | released => exact .refl _

theorem Moves.follow {v w : Timers} (h : Moves v w) :
    v.tasks.Follow (fun task : BrightnessTask => task.shows = false) w.tasks :=
  h.keeps (J := fun u => v.tasks.Follow (fun task : BrightnessTask => task.shows = false) u.tasks)
    (fun _ _ hmove hu => hu.trans hmove.follow) (.refl _)

theorem timers_sameButSensors {a b : BrightnessService} (h : SameButSensors a b) :
    b.timers = a.timers := by
  rw [h]
  rfl

theorem stopIfDimming_moves (bs : BrightnessService) : Moves bs.timers bs.stopIfDimming.timers := by
  rw [stopIfDimming]
  split
  · exact Move.stopFade.moves
  · exact .refl

theorem startDimming_moves (bs : BrightnessService) (f t duration : ℕ) :
    Moves bs.timers (bs.startDimming f t duration).timers := by
  have hqueue := BrightnessDimming.startDimming_hasQueue bs.dimming f t duration
  have hstart : ({ bs with dimming := (bs.dimming.startDimming f t duration).1 }
      : BrightnessService).timers = bs.timers := by
    simp only [timers, hqueue]
  rw [startDimming]
  dsimp only
  split
  · exact hstart ▸ Move.startFade.moves
  · exact hstart ▸ .refl

theorem Moves.lit {v : Timers} {bs : BrightnessService}
    (h : Moves v { bs with waitForFirstLux := false }.timers) (value duration : ℕ)
    (updateSetting : Bool) :
    Moves v (bs.updateBrightness value duration updateSetting).1.timers := by
  have hhalt : Moves v bs.halted.timers :=
    h.trans (stopIfDimming_moves { bs with waitForFirstLux := false })
  rcases Nat.eq_zero_or_pos duration with rfl | hd
  · rw [updateBrightness_now]
    dsimp only
    split
    · exact hhalt.trans (Move.submitted _ rfl).moves
    · exact hhalt
  · rw [updateBrightness_gradual bs hd]
    exact hhalt.trans (startDimming_moves _ _ _ _)

theorem Moves.update {v : Timers} {bs : BrightnessService} (h : Moves v bs.timers)
    (value duration : ℕ) (updateSetting : Bool) :
    Moves v (bs.updateBrightness value duration updateSetting).1.timers :=
  (h.trans Move.waitOver.moves).lit value duration updateSetting

theorem updateBrightness_waitOver (bs : BrightnessService) (value duration : ℕ)
    (updateSetting : Bool) :
    (bs.updateBrightness value duration updateSetting).1.waitForFirstLux = false := by
  have hhalt : bs.halted.waitForFirstLux = false := by
    rw [halted, stopIfDimming]
    split <;> rfl
  rcases Nat.eq_zero_or_pos duration with rfl | hd
  · rw [updateBrightness_now]
    dsimp only
    split
    · exact hhalt
    · exact hhalt
  · rw [updateBrightness_gradual bs hd, startDimming]
    dsimp only
    split
    · exact hhalt
    · exact hhalt

theorem Moves.override {v : Timers} {bs : BrightnessService} (h : Moves v bs.timers)
    (value duration : ℕ) : Moves v (bs.overrideBrightness value duration).1.timers := by
  rw [overrideBrightness]
  by_cases hcan : bs.canOverrideBrightness = true
  · rw [if_neg (by simp [hcan])]
    have hfree : bs.timers.isBrightnessBoosted = false := by
      simp only [canOverrideBrightness, Bool.and_eq_true, Bool.not_eq_true'] at hcan
      exact hcan.2
    refine Moves.lit ?_ _ _ _
    exact h.trans (Move.overridden hfree).moves
  · rw [if_pos (by simp [hcan])]
    exact h

theorem Moves.restore {v : Timers} {bs : BrightnessService} (h : Moves v bs.timers)
    (duration : ℕ) : Moves v (bs.restoreBrightness duration).1.timers := by
  rw [restoreBrightness]
  split
  · exact h
  · refine Moves.update ?_ _ _ _
    exact h.trans Move.released.moves

theorem setDisplayState_moves (bs : BrightnessService) (state : DisplayState) :
    Moves bs.timers (bs.setDisplayState state).timers := by
  have henter : Moves bs.timers (bs.enterState state).timers := by
    rw [timers_sameButSensors (enterState_same bs state)]
    exact .refl
  cases state with
  | off =>
    rw [setDisplayState]
    generalize bs.enterState .off = b at henter
    refine Moves.trans ?_ (stopIfDimming_moves _)
    split
    · exact henter.trans Move.released.moves
    · exact henter
  | dim =>
    rw [setDisplayState]
    generalize bs.enterState .dim = b at henter
    rw [setSleepBrightness]
    split
    · exact henter
    · refine Moves.override ?_ _ _
      exact henter
  | on =>
    rw [setDisplayState]
    generalize bs.enterState .on = b at henter
    dsimp only
    split
    · have hlit : Moves bs.timers
          ({ b with isDisplayOnWhenFirstLuxReport := true } : BrightnessService).timers := henter
      exact hlit.restore 0
    · exact henter
  | _ => exact henter

theorem setBrightness_moves (bs : BrightnessService) (value duration : ℕ) (continuous : Bool) :
    Moves bs.timers (bs.setBrightness value duration continuous).1.timers := by
  rw [setBrightness]
  split
  · exact .refl
  · dsimp only
    split
    all_goals
      refine Moves.update ?_ _ _ _
      exact Move.released.moves

theorem discountBrightness_moves (bs : BrightnessService) (discount : ℚ) (duration : ℕ) :
    Moves bs.timers (bs.discountBrightness discount duration).1.timers := by
  by_cases hon : bs.isScreenOn = true
  · rw [discountBrightness_eq hon]
    refine Moves.update ?_ _ _ _
    exact .refl
  · rw [discountBrightness, canDiscountBrightness, if_pos (by simp [hon])]

theorem Moves.ends {v : Timers} {bs : BrightnessService} (h : Moves v bs.timers.endBoost)
    (duration : ℕ) : Moves v (bs.cancelBoostBrightness duration).1.timers := by
  rw [cancelBoostBrightness]
  rw [Timers.endBoost] at h
  by_cases hends : bs.isBrightnessBoosted = true ∧ bs.hasQueue = true
  · rw [if_neg (by simp [hends])]
    rw [if_pos (by simp [timers, hends])] at h
    refine Moves.update ?_ _ _ _
    exact h
  · rw [if_pos (by simpa [Classical.or_iff_not_imp_left] using hends)]
    rw [if_neg (by simpa [timers] using hends)] at h
    exact h

theorem changeMaxBrightness_moves (bs : BrightnessService) (maxValue : ℕ) :
    Moves bs.timers (bs.changeMaxBrightness maxValue).1.timers := by
  rw [changeMaxBrightness, followMaxBrightness]
  have hstore : Moves bs.timers (bs.storeMaxBrightness maxValue).timers := .refl
  split
  · exact .refl
  · split
    · exact hstore.update _ _ _
    · split
      · exact hstore
      · exact hstore.update _ _ _

/-- A light report is ignored, is only recorded, or updates the level of the light. -/
theorem processLightLux_cases {bs t : BrightnessService} {lux : ℚ} {currentTime : ℤ}
    (ht : bs.processLightLux lux currentTime = some t) :
    t = bs ∨ ∃ m, t = { bs with lightLuxManager := m } ∨
      t = { bs with lightLuxManager := m }.updateCurrentBrightnessLevel lux m.isFirstLux := by
  rw [processLightLux] at ht
  split at ht
  · exact Or.inl (Option.some.inj ht).symm
  · obtain ⟨⟨m, isNeed⟩, _, hrest⟩ := Option.bind_eq_some_iff.mp ht
    have ht := Option.some.inj hrest
    split at ht
    · exact Or.inr ⟨m, Or.inr ht.symm⟩
    · exact Or.inr ⟨m, Or.inl ht.symm⟩

theorem updateCurrentBrightnessLevel_moves (bs : BrightnessService) (lux : ℚ)
    (isFastDuration : Bool) :
    Moves bs.timers (bs.updateCurrentBrightnessLevel lux isFastDuration).timers := by
  rw [updateCurrentBrightnessLevel]
  dsimp only
  split
  · refine Moves.update ?_ _ _ _
    rw [storeBrightnessLevel, cancelWaitFirstLux]
    dsimp only
    split
    · exact Move.lightArrived.moves
    · exact .refl
  · exact .refl

theorem processLightLux_moves {bs t : BrightnessService} {lux : ℚ} {currentTime : ℤ}
    (ht : bs.processLightLux lux currentTime = some t) : Moves bs.timers t.timers := by
  rcases processLightLux_cases ht with rfl | ⟨m, rfl | rfl⟩
  · exact .refl
  · exact .refl
  · exact updateCurrentBrightnessLevel_moves { bs with lightLuxManager := m } _ _

theorem autoAdjustBrightness_timers (bs : BrightnessService) (enable : Bool) :
    (bs.autoAdjustBrightness enable).1.timers = bs.timers := by
  rw [autoAdjustBrightness]
  split
  · rfl
  · split
    · split
      · rfl
      · have hon := timers_sameButSensors
          (activateValidAmbientSensor_same { bs with isAutoBrightnessEnabled := true })
        exact hon
    · split
      · rfl
      · have hoff := timers_sameButSensors (deactivateAllAmbientSensor_same bs)
        exact hoff

theorem onFoldStatusChanged_moves (bs : BrightnessService) (foldStatus : FoldStatus) :
    Moves bs.timers (bs.onFoldStatusChanged foldStatus).timers := by
  rw [onFoldStatusChanged]
  dsimp only
  generalize bs.calculationManager.curve.getDisplayIdWithFoldstatus foldStatus.toNat = displayId
  have hsensors : Moves bs.timers ((bs.setDisplayId displayId).foldSensors foldStatus).timers := by
    rw [timers_sameButSensors (foldSensors_same _ _)]
    exact .refl
  split
  · exact .refl
  · split
    · exact hsensors.update _ _ _
    · exact hsensors

theorem Moves.changed {v : Timers} {bs : BrightnessService} (h : Moves v bs.timers)
    (changed : Option ℕ) : Moves v (bs.notifyChanged changed).timers := by
  cases changed with
  | none => exact h
  | some value =>
    rw [notifyChanged, onChanged]
    dsimp only
    split
    · exact h
    · split
      · exact h.trans (Move.submitted _ rfl).moves
      · exact h

theorem notifyChanged_dimming (bs : BrightnessService) (changed : Option ℕ) :
    (bs.notifyChanged changed).dimming = bs.dimming := by
  cases changed with
  | none => rfl
  | some value =>
    rw [notifyChanged, onChanged]
    dsimp only
    repeat' split
    all_goals rfl

theorem nextStep_moves (bs : BrightnessService) : Moves bs.timers bs.nextStep.timers := by
  have hchanged : Moves bs.timers
      (bs.notifyChanged bs.dimming.nextStep.changed).timers := Moves.refl.changed _
  have hstep : ({ bs.notifyChanged bs.dimming.nextStep.changed with
      dimming := bs.dimming.nextStep.dimming } : BrightnessService).timers =
      (bs.notifyChanged bs.dimming.nextStep.changed).timers := by
    simp only [timers, notifyChanged_dimming, BrightnessDimming.nextStep_hasQueue]
  rw [BrightnessService.nextStep]
  dsimp only
  split
  · exact hchanged.trans (hstep ▸ Move.startFade.moves)
  · exact hstep ▸ hchanged

theorem runTask_moves {bs t : BrightnessService} {id : ℕ} (ht : bs.runTask id = some t) :
    Moves bs.timers t.timers := by
  obtain ⟨task, hfind, rfl⟩ := Option.map_eq_some_iff.mp ht
  have hpending : (id, task) ∈ bs.timers.tasks.pending := Tasks.find?_eq_some.mp hfind
  have htaken (hother : task.endsBoost = false) :
      Moves bs.timers { bs with tasks := bs.tasks.remove id }.timers :=
    (Move.taken id task hpending hother).moves
  cases task with
  | nextStep => exact (htaken rfl).trans (nextStep_moves _)
  | settingBrightness value => exact htaken rfl
  | dimmingSettingBrightness value => exact htaken rfl
  | cancelBoostBrightness duration =>
    refine Moves.ends ?_ duration
    exact (Move.boostExpired id duration hpending).moves
  | waitForFirstLux value => exact (htaken rfl).update _ _ _

theorem getScreenOnBrightness_waits {bs : BrightnessService} {isUpdateTarget : Bool}
    (h : (bs.getScreenOnBrightness isUpdateTarget).1.waitForFirstLux = true) :
    bs.waitForFirstLux = true ∨
      bs.isBrightnessOverridden = false ∧ bs.isBrightnessBoosted = false := by
  rw [getScreenOnBrightness] at h
  cases hboosted : bs.isBrightnessBoosted with
  | true => exact Or.inl (by simpa [hboosted] using h)
  | false =>
    cases hover : bs.isBrightnessOverridden with
    | true => exact Or.inl (by simpa [hboosted, hover] using h)
    | false => exact Or.inr ⟨rfl, rfl⟩

/-- The screen is lit, or the service waits for light, with a queue by a task that replaces the
one of a wait that runs already. -/
theorem setScreenOnBrightness_moves (bs : BrightnessService) :
    Moves bs.timers bs.setScreenOnBrightness.timers ∨
      (bs.waitForFirstLux = true ∨
        bs.isBrightnessOverridden = false ∧ bs.isBrightnessBoosted = false) ∧
      (bs.setScreenOnBrightness.timers = { bs.timers with waitForFirstLux := true } ∨
        bs.hasQueue = true ∧
          bs.setScreenOnBrightness.timers = bs.timers.waitFirstLux bs.cachedSettingBrightness) := by
  have hget := getScreenOnBrightness_fst bs true
  rw [setScreenOnBrightness]
  dsimp only
  by_cases hwaits : (bs.getScreenOnBrightness true).1.waitForFirstLux = true
  · refine Or.inr ⟨getScreenOnBrightness_waits hwaits, ?_⟩
    rw [if_pos hwaits]
    rw [hwaits] at hget
    rw [hget]
    split
    · exact Or.inl rfl
    · rename_i hqueue
      refine Or.inr ⟨by simpa using hqueue, ?_⟩
      simp [BrightnessService.waitFirstLux, Timers.waitFirstLux, timers, ffrtCancel_next]
  · rw [if_neg hwaits]
    refine Or.inl (Moves.lit ?_ _ _ _)
    rw [hget]
    exact Move.waitOver.moves

theorem boostBrightness_refused {bs : BrightnessService} {duration : ℕ}
    (h : ¬ bs.AcceptsBoost (.boostBrightness duration)) :
    bs.boostBrightness duration = (bs, false) := by
  rw [boostBrightness]
  rw [if_pos (by simpa [AcceptsBoost, Classical.or_iff_not_imp_left] using h)]

/-- A boost that is not refused: the update, unless boosted already, then the task that ends
it. -/
theorem boostBrightness_moves {bs : BrightnessService} {duration : ℕ}
    (h : bs.AcceptsBoost (.boostBrightness duration)) :
    ∃ v, Moves bs.timers v ∧ v.hasQueue = true ∧ v.isBrightnessOverridden = false ∧
      (v.isBrightnessBoosted = true ∨ v.waitForFirstLux = false) ∧
      (bs.boostBrightness duration).1.timers = v.boost duration := by
  obtain ⟨hcan, hqueue⟩ := h
  have hfree : bs.isBrightnessOverridden = false := by
    simp only [canBoostBrightness, Bool.and_eq_true, Bool.not_eq_true'] at hcan
    exact hcan.2
  rw [boostBrightness]
  rw [if_neg (by simp [hcan, hqueue])]
  by_cases hboosted : bs.isBrightnessBoosted = true
  · refine ⟨bs.timers, .refl, hqueue, hfree, Or.inl hboosted, ?_⟩
    rw [if_pos hboosted]
    simp [timers, Timers.boost, hboosted, ffrtCancel_next]
  · rw [if_neg hboosted]
    have hmoves : Moves bs.timers (bs.updateBrightness bs.param.maxBrightness duration
        false).1.timers := Moves.refl.update _ _ _
    have hsame := updateBrightness_sameControl bs bs.param.maxBrightness duration false
    have hraised := congrArg Prod.fst (updateBrightness_within bs
      { bs.surroundings with isBrightnessBoosted := true } bs.param.maxBrightness duration false)
    have hover := updateBrightness_waitOver bs bs.param.maxBrightness duration false
    generalize (bs.updateBrightness bs.param.maxBrightness duration false).1 = w
      at hmoves hsame hraised hover
    change ({ bs with isBrightnessBoosted := true }.updateBrightness bs.param.maxBrightness
      duration false).1 = _ at hraised
    dsimp only
    refine ⟨w.timers, hmoves, ?_, ?_, Or.inr hover, ?_⟩
    · rw [hsame]
      exact hqueue
    · rw [hsame]
      exact hfree
    · rw [hraised]
      simp [timers, within, Timers.boost, ffrtCancel_next]

/-- What any other event does to the tasks. -/
theorem step_moves {bs t : BrightnessService} {e : BrightnessEvent}
    (hon : e ≠ .setScreenOnBrightness) (hboost : ¬ bs.AcceptsBoost e)
    (ht : bs.step e = some t) : Moves bs.timers t.timers := by
  cases e with
  | setDisplayState state => exact Option.some.inj ht ▸ setDisplayState_moves bs state
  | setScreenOnBrightness => exact absurd rfl hon
  | setBrightness value duration continuous =>
    exact Option.some.inj ht ▸ setBrightness_moves bs value duration continuous
  | discountBrightness discount duration =>
    exact Option.some.inj ht ▸ discountBrightness_moves bs discount duration
  | overrideBrightness value duration =>
    exact Option.some.inj ht ▸ Moves.refl.override value duration
  | restoreBrightness duration => exact Option.some.inj ht ▸ Moves.refl.restore duration
  | boostBrightness duration =>
    have hsame := congrArg Prod.fst (boostBrightness_refused hboost)
    exact Option.some.inj ht ▸ hsame ▸ .refl
  | cancelBoostBrightness duration =>
    exact Option.some.inj ht ▸ Moves.ends Move.boostEnded.moves duration
  | setMaxBrightness value =>
    exact Option.some.inj ht ▸ changeMaxBrightness_moves bs (bs.maxValueOf value)
  | setMaxBrightnessNit maxNit =>
    exact Option.some.inj ht ▸ changeMaxBrightness_moves bs (getBrightnessLevelFromNit maxNit)
  | processLightLux lux currentTime => exact processLightLux_moves ht
  | autoAdjustBrightness enable =>
    exact Option.some.inj ht ▸ autoAdjustBrightness_timers bs enable ▸ .refl
  | clearOffset => exact Option.some.inj ht ▸ stopIfDimming_moves bs
  | onFoldStatusChanged foldStatus =>
    exact Option.some.inj ht ▸ onFoldStatusChanged_moves bs foldStatus
  | foldDisplayModeChanged mode => exact Option.some.inj ht ▸ .refl
  | setDisplayId displayId => exact Option.some.inj ht ▸ .refl
  | runTask id => exact runTask_moves ht

end Timers

end DisplayPowerMgr
