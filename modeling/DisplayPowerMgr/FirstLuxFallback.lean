import DisplayPowerMgr.BoostAndOverride
import DisplayPowerMgr.TemporaryBrightness

/-! The task with which `SetScreenOnBrightness` sets a brightness when no light is reported in
time: what may happen between its submission and its run. -/
namespace DisplayPowerMgr.FirstLuxFallback

open BrightnessService BoostAndOverride
open TemporaryBrightness (QueueSpares WritesBack mem_nextStep settingWritten)

def Waiting (bs : BrightnessService) (id : ℕ) : Prop :=
  ∃ value, (id, .waitForFirstLux value) ∈ bs.tasks.pending

/-- The operations that may interleave with the fallback. -/
def Listed : BrightnessEvent → Prop
  | .setDisplayState _ => True
  | .setScreenOnBrightness => True
  | .setBrightness .. => True
  | .overrideBrightness .. => True
  | .boostBrightness _ => True
  | .discountBrightness .. => True
  | .processLightLux .. => True
  | .runTask _ => True
  | _ => False

/-- The device took a level, or a fade was started or goes on. -/
def Applied (s t : BrightnessService) : Prop :=
  (t.device.written ≠ s.device.written ∧ s.device.answers.headD true = true) ∨
    ∃ id, s.tasks.next ≤ id ∧ (id, .nextStep) ∈ t.tasks.pending

/-- Neither the device nor the setting is changed, now or by a write that is queued: such a write
brings what is stored, with nothing else on its way. -/
def Unchanged (s t : BrightnessService) : Prop :=
  t.device.level = s.device.level ∧ t.settings = s.settings ∧
    ∀ p ∈ t.tasks.pending, p ∈ s.tasks.pending ∨
      ∃ value, settingWritten p.2 = some value ∧ WritesBack s value ∧ QueueSpares s

/-- Once a brightness was applied, or the display set to `OFF`, a fallback that was pending
changes nothing when it fires. -/
def NeverLate (s : BrightnessService) (es : List BrightnessEvent) : Prop :=
  ∀ before e middle id after, es = before ++ e :: (middle ++ .runTask id :: after) →
    ∀ s₁ s₂ s₃ t, Runs.run step s before = some s₁ → s₁.step e = some s₂ →
      Runs.run step s₂ middle = some s₃ → s₃.step (.runTask id) = some t →
      Waiting s₁ id → Waiting s₃ id → (e = .setDisplayState .off ∨ Applied s₁ s₂) → Unchanged s₃ t

def AlwaysInTime : Prop :=
  ∀ s, Reachable s → ∀ es, (∀ e ∈ es, Listed e) → NeverLate s es

/-- An update with this value would have its level taken, or start a fade. -/
def Applies (bs : BrightnessService) (value duration : ℕ) : Prop :=
  if duration = 0 then bs.device.answers.headD true = true else bs.StartsFade value

/-- A light report that is followed: it finds no wait for light to end, and its level is new or the
first one. -/
def LightApplies (bs : BrightnessService) (lux : ℚ) (currentTime : ℤ) : Prop :=
  bs.canSetBrightness = true ∧ bs.waitForFirstLux = false ∧
    ∃ m, bs.lightLuxManager.isNeedUpdateBrightness lux currentTime = some (m, true) ∧
      (bs.brightnessLevel ≠ (bs.getBrightnessLevel lux).2 ∨ m.isFirstLux = true) ∧
        Applies bs (bs.getBrightnessLevel lux).2
          (bs.luxDuration (bs.getBrightnessLevel lux).2 m.isFirstLux)

/-- The operation gets past its guards and applies a brightness while a fallback is left pending,
or it switches the display off. -/
def Supersedes (bs : BrightnessService) : BrightnessEvent → Prop
  | .setDisplayState .off => True
  | .setDisplayState .dim =>
    MIN_DEFAULT_BRGIHTNESS_LEVEL < bs.getSettingBrightness ∧ bs.isBrightnessBoosted = false ∧
      Applies bs (enterSleepBrightness bs.param bs.getSettingBrightness) bs.param.sleepDarkenTime
  | .setDisplayState .on =>
    bs.isSleepStatus = true ∧ bs.isBrightnessOverridden = true ∧
      bs.device.answers.headD true = true
  | .setScreenOnBrightness =>
    bs.waitForFirstLux = false ∧ bs.device.answers.headD true = true ∧
      (bs.isBrightnessBoosted = true ∨ bs.isBrightnessOverridden = true ∨
        bs.isAutoBrightnessEnabled = false ∨ 0 < bs.brightnessTarget)
  | .setBrightness value duration _ =>
    (bs.isBrightnessOverridden = true ∨ bs.canSetBrightness = true) ∧ Applies bs value duration
  | .overrideBrightness value duration =>
    bs.canOverrideBrightness = true ∧ Applies bs value duration
  | .boostBrightness duration =>
    bs.canBoostBrightness = true ∧ bs.hasQueue = true ∧ bs.isBrightnessBoosted = false ∧
      Applies bs bs.param.maxBrightness duration
  | .discountBrightness discount duration =>
    bs.canDiscountBrightness = true ∧
      Applies { bs with discount := safeDiscount discount } bs.brightnessInForce duration
  | .processLightLux lux currentTime => LightApplies bs lux currentTime
  | .runTask id =>
    match bs.tasks.find? id with
    | some .nextStep => bs.dimming.isDimming = true ∧ bs.dimming.hasQueue = true ∧
      (bs.device.answers.headD true = true ∨ bs.dimming.nextStep.again = true)
    | some (.cancelBoostBrightness duration) =>
      bs.isBrightnessBoosted = true ∧ bs.hasQueue = true ∧
        Applies bs bs.cachedSettingBrightness duration
    | _ => False
  | _ => False

/-- A fallback with this value is refused by the device, or finds its brightness in force. -/
def Harmless (bs : BrightnessService) (value : ℕ) : Prop :=
  bs.device.answers.headD true = false ∨
    bs.device.level bs.displayId = bs.deviceLevel value ∧
      WritesBack bs (bs.getSafeBrightness value) ∧ QueueSpares bs

def OnlyHarmlessLate (s : BrightnessService) (es : List BrightnessEvent) : Prop :=
  ∀ before e middle id after, es = before ++ e :: (middle ++ .runTask id :: after) →
    ∀ s₁ s₂ s₃, Runs.run step s before = some s₁ → s₁.step e = some s₂ →
      Runs.run step s₂ middle = some s₃ → Waiting s₁ id → Supersedes s₁ e →
      ∀ value, (id, .waitForFirstLux value) ∈ s₃.tasks.pending → Harmless s₃ value

/-- The tasks `r` come after the tasks `q` without a new fallback. -/
structure TasksFollow (q r : Tasks BrightnessTask) : Prop where
  fallback : ∀ id value, (id, .waitForFirstLux value) ∈ r.pending →
    (id, .waitForFirstLux value) ∈ q.pending
  next : q.next ≤ r.next

def Follows (s t : BrightnessService) : Prop := TasksFollow s.tasks t.tasks

theorem TasksFollow.refl (q : Tasks BrightnessTask) : TasksFollow q q :=
  ⟨fun _ _ h => h, le_rfl⟩

theorem TasksFollow.trans {q r u : Tasks BrightnessTask} (hqr : TasksFollow q r)
    (hru : TasksFollow r u) : TasksFollow q u :=
  ⟨fun id value h => hqr.fallback id value (hru.fallback id value h), le_trans hqr.next hru.next⟩

theorem TasksFollow.submit {q : Tasks BrightnessTask} {task : BrightnessTask}
    (h : ∀ value, task ≠ .waitForFirstLux value) : TasksFollow q (q.submit task) := by
  refine ⟨?_, Nat.le_succ _⟩
  intro id value hp
  rcases List.mem_append.mp hp with hp | hp
  · exact hp
  · exact absurd (Prod.mk.inj (List.mem_singleton.mp hp)).2.symm (h value)

theorem tasksFollow_of_follow {q r : Tasks BrightnessTask}
    (h : q.Follow (fun task => task.shows = false) r) : TasksFollow q r :=
  ⟨fun id _ hp => h.pending id _ rfl hp, h.next⟩

theorem updateBrightness_follows (bs : BrightnessService) (value duration : ℕ)
    (updateSetting : Bool) : Follows bs (bs.updateBrightness value duration updateSetting).1 :=
  tasksFollow_of_follow (Timers.Moves.refl.update value duration updateSetting).follow

theorem boostBrightness_follows {bs : BrightnessService} {duration : ℕ}
    (h : bs.AcceptsBoost (.boostBrightness duration)) :
    Follows bs (bs.boostBrightness duration).1 := by
  obtain ⟨v, hmoves, _, _, _, hboost⟩ := Timers.boostBrightness_moves h
  have hbefore : TasksFollow bs.tasks v.tasks := tasksFollow_of_follow hmoves.follow
  have htasks := congrArg Timers.tasks hboost
  change (bs.boostBrightness duration).1.tasks = _ at htasks
  rw [Follows, htasks]
  exact hbefore.trans (TasksFollow.trans (tasksFollow_of_follow (Timers.follow_cancel _ _ _))
    (TasksFollow.submit (by simp)))

/-- Only `SetScreenOnBrightness` adds a fallback. -/
theorem step_follows {s t : BrightnessService} {e : BrightnessEvent}
    (hne : e ≠ .setScreenOnBrightness) (ht : s.step e = some t) : Follows s t := by
  by_cases hboost : s.AcceptsBoost e
  · cases e with
    | boostBrightness duration => exact Option.some.inj ht ▸ boostBrightness_follows hboost
    | _ => exact hboost.elim
  · exact tasksFollow_of_follow (Timers.step_moves hne hboost ht).follow

theorem ffrtCancel_removes {q : Tasks BrightnessTask} {id : ℕ} {task task' : BrightnessTask}
    (hp : (id, task) ∈ q.pending) : (id, task') ∉ (ffrtCancel q true (some id)).1.pending := by
  have hfind := Tasks.find?_eq_some.mpr hp
  simp [ffrtCancel, Tasks.isPending, hfind]

theorem waitFirstLux_tasks (s : BrightnessService) :
    s.waitFirstLux.tasks =
      (ffrtCancel s.tasks s.hasQueue s.waitForFirstLuxTaskHandle).1.submit
        (.waitForFirstLux s.cachedSettingBrightness) := rfl

/-! ## At most one fallback -/

/-- A pending fallback is the one of the handle. -/
def Sole (v : Timers) : Prop :=
  ∀ id value, (id, .waitForFirstLux value) ∈ v.tasks.pending →
    v.hasQueue = true ∧ v.waitForFirstLuxTaskHandle = some id

theorem Sole.of_follow {v w : Timers} (h : Sole v) (hqueue : w.hasQueue = v.hasQueue)
    (hhandle : w.waitForFirstLuxTaskHandle = v.waitForFirstLuxTaskHandle)
    (hfollow : v.tasks.Follow (fun task : BrightnessTask => task.shows = false) w.tasks) :
    Sole w := by
  intro id value hp
  obtain ⟨hq, hh⟩ := h id value (hfollow.pending id _ rfl hp)
  exact ⟨hqueue.trans hq, hhandle.trans hh⟩

theorem Sole.cancelled {v : Timers} (h : Sole v) (id value : ℕ) :
    (id, .waitForFirstLux value) ∉
      (ffrtCancel v.tasks v.hasQueue v.waitForFirstLuxTaskHandle).1.pending := by
  intro hp
  have hold := mem_ffrtCancel hp
  obtain ⟨hqueue, hhandle⟩ := h id value hold
  rw [hqueue, hhandle] at hp
  exact ffrtCancel_removes hold hp

theorem endBoost_hasQueue (v : Timers) : v.endBoost.hasQueue = v.hasQueue := by
  rw [Timers.endBoost]
  split <;> rfl

theorem endBoost_firstLux (v : Timers) :
    v.endBoost.waitForFirstLuxTaskHandle = v.waitForFirstLuxTaskHandle := by
  rw [Timers.endBoost]
  split <;> rfl

theorem Sole.move {v w : Timers} (h : Sole v) (hmove : Timers.Move v w) : Sole w := by
  have hfollow := hmove.follow
  cases hmove with
  | lightArrived => exact fun id value hp => absurd hp (h.cancelled id value)
  | boostEnded => exact h.of_follow (endBoost_hasQueue v) (endBoost_firstLux v) hfollow
  | boostExpired id duration pending =>
    exact h.of_follow (endBoost_hasQueue _) (endBoost_firstLux _) hfollow
  | _ => exact h.of_follow rfl rfl hfollow

theorem Sole.waitFirstLux {v : Timers} (h : Sole v) (hqueue : v.hasQueue = true) (value : ℕ) :
    Sole (v.waitFirstLux value) := by
  intro id value' hp
  rcases List.mem_append.mp hp with hp | hp
  · exact absurd hp (h.cancelled id value')
  · obtain ⟨rfl, _⟩ := Prod.mk.inj (List.mem_singleton.mp hp)
    rw [ffrtCancel_next]
    exact ⟨hqueue, rfl⟩

theorem Sole.boost {v : Timers} (h : Sole v) (duration : ℕ) : Sole (v.boost duration) := by
  intro id value hp
  rcases List.mem_append.mp hp with hp | hp
  · exact h id value (mem_ffrtCancel hp)
  · cases (Prod.mk.inj (List.mem_singleton.mp hp)).2

theorem Sole.step {s t : BrightnessService} {e : BrightnessEvent} (h : Sole s.timers)
    (ht : s.step e = some t) : Sole t.timers := by
  have hmoves {v w : Timers} (hv : Sole v) (hvw : Timers.Moves v w) : Sole w :=
    hvw.keeps (fun _ _ hmove hu => hu.move hmove) hv
  by_cases hboost : s.AcceptsBoost e
  · cases e with
    | boostBrightness duration =>
      obtain ⟨v, hsv, _, _, _, htimers⟩ := Timers.boostBrightness_moves hboost
      rw [← Option.some.inj ht, htimers]
      exact (hmoves h hsv).boost duration
    | _ => exact hboost.elim
  · by_cases hon : e = .setScreenOnBrightness
    · subst hon
      rw [← Option.some.inj ht]
      rcases Timers.setScreenOnBrightness_moves s with hlit | ⟨_, hwaits | ⟨hqueue, hwaits⟩⟩
      · exact hmoves h hlit
      · rw [hwaits]
        exact h
      · rw [hwaits]
        exact h.waitFirstLux hqueue _
    · exact hmoves h (Timers.step_moves hon hboost ht)

theorem Reachable.sole {s : BrightnessService} (h : Reachable s) : Sole s.timers := by
  refine Runs.reachable_invariant (J := fun u => Sole u.timers) ?_
    (fun _ _ _ hu ht => hu.step ht) h
  rintro _ ⟨boot, rfl⟩ id value hp
  cases hp

/-- No fallback `id` is pending and none will be: the handle was given out already. -/
def Gone (id : ℕ) (bs : BrightnessService) : Prop := ¬ Waiting bs id ∧ id < bs.tasks.next

theorem step_submits {s t : BrightnessService} {e : BrightnessEvent} (ht : s.step e = some t) :
    s.tasks.next ≤ t.tasks.next ∧ ∀ id, Waiting t id → Waiting s id ∨ s.tasks.next ≤ id := by
  have hfollow (hf : Follows s t) :
      s.tasks.next ≤ t.tasks.next ∧ ∀ id, Waiting t id → Waiting s id ∨ s.tasks.next ≤ id :=
    ⟨TasksFollow.next hf, fun id hw => Or.inl (hw.imp fun value => hf.fallback id value)⟩
  by_cases hscreen : e = .setScreenOnBrightness
  · subst hscreen
    obtain rfl := Option.some.inj ht
    rcases Timers.setScreenOnBrightness_moves s with hlit | ⟨_, hwaits | ⟨_, hwaits⟩⟩
    · exact hfollow (tasksFollow_of_follow hlit.follow)
    · have htasks : s.setScreenOnBrightness.tasks = s.tasks := congrArg Timers.tasks hwaits
      exact hfollow (by rw [Follows, htasks]; exact TasksFollow.refl _)
    · have htasks := congrArg Timers.tasks hwaits
      change s.setScreenOnBrightness.tasks = _ at htasks
      have hnext := ffrtCancel_next s.tasks s.hasQueue s.waitForFirstLuxTaskHandle
      rw [htasks]
      refine ⟨?_, ?_⟩
      · rw [Timers.waitFirstLux, Tasks.submit_next]
        exact hnext ▸ Nat.le_succ _
      · rintro id ⟨value, hp⟩
        rw [htasks] at hp
        rcases List.mem_append.mp hp with hp | hp
        · exact Or.inl ⟨value, mem_ffrtCancel hp⟩
        · have hid := (Prod.mk.inj (List.mem_singleton.mp hp)).1
          exact Or.inr (hid.trans hnext).ge
  · exact hfollow (step_follows hscreen ht)

theorem gone_step {s t : BrightnessService} {e : BrightnessEvent} {id : ℕ} (hg : Gone id s)
    (ht : s.step e = some t) : Gone id t := by
  obtain ⟨hnext, hnew⟩ := step_submits ht
  have hlt := hg.2
  constructor
  · intro hw
    rcases hnew id hw with h | h
    · exact hg.1 h
    · omega
  · omega

/-! ## Which operations apply a brightness -/

theorem not_applied {s t : BrightnessService} (hwritten : t.device.written = s.device.written)
    (hnew : ∀ p ∈ t.tasks.pending, p ∈ s.tasks.pending ∨ p.2 ≠ .nextStep) : ¬ Applied s t := by
  rintro (⟨hne, _⟩ | ⟨id, hid, hp⟩)
  · exact hne hwritten
  · rcases hnew _ hp with hold | hother
    · exact absurd (s.tasks.fresh _ hold) (not_lt.mpr hid)
    · exact hother rfl

theorem not_applied_refl (s : BrightnessService) : ¬ Applied s s :=
  not_applied rfl fun _ hp => Or.inl hp

/-- Where an update starts from has the device and the task numbers of `s`. -/
structure Before (s bs : BrightnessService) : Prop where
  bounded : Bounded bs
  device : bs.device = s.device
  next : bs.tasks.next = s.tasks.next

theorem applied_update_iff {s bs : BrightnessService} (h : Before s bs) (value duration : ℕ)
    (updateSetting : Bool) :
    Applied s (bs.updateBrightness value duration updateSetting).1 ↔
      Applies bs value duration := by
  have hold {p : ℕ × BrightnessTask} (hp : p ∈ bs.halted.tasks.pending) : p.1 < s.tasks.next :=
    h.next ▸ bs.tasks.fresh _ (mem_halted hp)
  rw [Applies]
  rcases Nat.eq_zero_or_pos duration with rfl | hd
  · rw [if_pos rfl, updateBrightness_now, h.device]
    dsimp only
    constructor
    · rintro (⟨_, haccepts⟩ | ⟨id, hid, hp⟩)
      · exact haccepts
      · have hnone : (id, BrightnessTask.nextStep) ∈ bs.halted.tasks.pending := by
          split at hp
          · rcases List.mem_append.mp hp with hp | hp
            · exact hp
            · cases (Prod.mk.inj (List.mem_singleton.mp hp)).2
          · exact hp
        exact absurd (hold hnone) (not_lt.mpr hid)
    · intro haccepts
      refine Or.inl ⟨?_, haccepts⟩
      split <;> simp [submitTask, Device.setBrightness]
  · rw [if_neg (by omega), updateBrightness_gradual bs hd]
    by_cases hstart : bs.StartsFade value
    · refine iff_of_true (Or.inr ⟨bs.halted.tasks.next, ?_, ?_⟩) hstart
      · rw [halted_next, h.next]
      · rw [startDimming_starts (halted_isDimming bs) (by rw [halted_hasQueue]; exact hstart.1)
          h.bounded.getSettingBrightness_lt (deviceLevel_lt bs value) hstart.2]
        simp [submitNextStep, submitTask]
    · refine iff_of_false ?_ hstart
      rw [halted_stays hstart]
      rintro (⟨hne, _⟩ | ⟨id, hid, hp⟩)
      · exact hne (by rw [halted_device, h.device])
      · exact absurd (hold hp) (not_lt.mpr hid)

theorem enterState_before {s : BrightnessService} (h : Bounded s) (state : DisplayState) :
    Before s (s.enterState state) := by
  have hsame := enterState_same s state
  refine ⟨?_, ?_, ?_⟩
  · rw [hsame]
    exact ⟨h.setting, h.valueMax, h.valueMin, h.queued⟩
  · rw [hsame]
  · rw [hsame]

theorem setDisplayState_applied_iff {s : BrightnessService} (h : Bounded s) (state : DisplayState) :
    (state = .off ∨ Applied s (s.setDisplayState state)) ↔
      Supersedes s (.setDisplayState state) := by
  have hsame := enterState_same s state
  have hbefore := enterState_before h state
  have hquiet : ¬ Applied s (s.enterState state) := by
    rw [hsame]
    exact not_applied rfl fun _ hp => Or.inl hp
  cases state with
  | off => exact iff_of_true (Or.inl rfl) trivial
  | dim =>
    rw [or_iff_right (by simp), setDisplayState, setSleepBrightness, Supersedes]
    have hset : (s.enterState .dim).getSettingBrightness = s.getSettingBrightness := by
      rw [hsame]
      rfl
    have hparam : (s.enterState .dim).param = s.param := by rw [hsame]
    have hflags : (s.enterState .dim).isScreenOn = true ∧
        (s.enterState .dim).isBrightnessBoosted = s.isBrightnessBoosted := by
      rw [hsame]
      exact ⟨rfl, rfl⟩
    have happlies (value duration : ℕ) :
        Applies (s.enterState .dim) value duration ↔ Applies s value duration := by
      rw [hsame]
      exact Iff.rfl
    generalize s.enterState .dim = u at hset hparam hflags happlies hbefore hquiet
    rw [hset, ← hparam]
    by_cases hlow : s.getSettingBrightness ≤ MIN_DEFAULT_BRGIHTNESS_LEVEL
    · rw [if_pos hlow]
      exact iff_of_false hquiet fun hdim => absurd hdim.1 (not_lt.mpr hlow)
    · have hcan : { u with isSleepStatus := true }.canOverrideBrightness =
          !s.isBrightnessBoosted := by
        show (u.isScreenOn && !u.isBrightnessBoosted) = _
        rw [hflags.1, hflags.2]
        rfl
      rw [if_neg hlow, overrideBrightness, and_iff_right (not_le.mp hlow)]
      cases hboost : s.isBrightnessBoosted with
      | true =>
        have hrefused := hcan.trans (congrArg not hboost)
        rw [if_pos (by rw [hrefused]; rfl)]
        exact iff_of_false hquiet (by simp)
      | false =>
        have htaken := hcan.trans (congrArg not hboost)
        rw [if_neg (by rw [htaken]; simp), and_iff_right rfl]
        refine (applied_update_iff ?_ _ _ _).trans (happlies _ _)
        exact ⟨hbefore.bounded, hbefore.device, hbefore.next⟩
  | on =>
    rw [or_iff_right (by simp), setDisplayState, Supersedes]
    have hflags : (s.enterState .on).isSleepStatus = s.isSleepStatus ∧
        (s.enterState .on).isBrightnessOverridden = s.isBrightnessOverridden := by
      rw [hsame]
      exact ⟨rfl, rfl⟩
    dsimp only
    rw [hflags.1]
    generalize s.enterState .on = u at hflags hbefore hquiet
    by_cases hsleep : s.isSleepStatus = true
    · rw [if_pos hsleep, and_iff_right hsleep]
      have hawake (w : BrightnessService) :
          Applied s { w with isSleepStatus := false } ↔ Applied s w := Iff.rfl
      refine (hawake _).trans ?_
      rw [restoreBrightness]
      by_cases hover : s.isBrightnessOverridden = true
      · rw [if_neg (by simp [hflags.2, hover]), and_iff_right hover]
        refine (applied_update_iff ?_ _ _ _).trans ?_
        · exact ⟨hbefore.bounded, hbefore.device, hbefore.next⟩
        · rw [Applies, if_pos rfl]
          exact hbefore.device ▸ Iff.rfl
      · rw [if_pos (by simp [hflags.2, hover])]
        exact iff_of_false hquiet fun hon => hover hon.1
    · rw [if_neg hsleep]
      exact iff_of_false hquiet fun hon => hsleep hon.1
  | _ => exact (or_iff_right (by simp)).trans (iff_of_false hquiet id)

theorem setScreenOnBrightness_applied_iff {s : BrightnessService} (h : Reachable s) {id : ℕ}
    (hwaiting : Waiting s id) (hstays : Waiting s.setScreenOnBrightness id) :
    Applied s s.setScreenOnBrightness ↔ Supersedes s .setScreenOnBrightness := by
  obtain ⟨value, hp⟩ := hwaiting
  obtain ⟨hqueue, _⟩ := Reachable.sole h id value hp
  have hget := getScreenOnBrightness_fst s true
  -- a new wait would have replaced the fallback
  have hlit : (s.getScreenOnBrightness true).1.waitForFirstLux = false := by
    by_contra hwaits
    have hwaits := Bool.eq_true_of_not_eq_false hwaits
    rw [setScreenOnBrightness] at hstays
    dsimp only at hstays
    rw [if_pos hwaits, hget, hwaits,
      if_neg (by simp [show s.hasQueue = true from hqueue])] at hstays
    obtain ⟨value', hp'⟩ := hstays
    rw [waitFirstLux_tasks] at hp'
    rcases List.mem_append.mp hp' with hold | hnew
    · exact (Reachable.sole h).cancelled id value' hold
    · have hid := (Prod.mk.inj (List.mem_singleton.mp hnew)).1
      have hlt := s.tasks.fresh _ hp
      dsimp only at hid hlt
      rw [ffrtCancel_next] at hid
      omega
  have hguard : (s.getScreenOnBrightness true).1.waitForFirstLux = false ↔
      s.waitForFirstLux = false ∧ (s.isBrightnessBoosted = true ∨
        s.isBrightnessOverridden = true ∨ s.isAutoBrightnessEnabled = false ∨
          0 < s.brightnessTarget) := by
    rw [getScreenOnBrightness]
    cases s.isBrightnessBoosted with
    | true => simp
    | false =>
      cases s.isBrightnessOverridden with
      | true => simp
      | false =>
        cases s.isAutoBrightnessEnabled with
        | false => simp
        | true =>
          by_cases htarget : s.brightnessTarget > 0
          · simp [htarget]
          · simp [htarget]
  rw [setScreenOnBrightness, Supersedes]
  dsimp only
  rw [if_neg (by simp [hlit]), hget, hlit]
  refine (applied_update_iff ?_ _ _ _).trans ?_
  · exact ⟨h.bounded, rfl, rfl⟩
  · rw [Applies, if_pos rfl]
    obtain ⟨hflag, hmode⟩ := hguard.mp hlit
    exact (and_iff_right hflag).trans (and_iff_left hmode) |>.symm

theorem setBrightness_applied_iff {s : BrightnessService} (h : Bounded s) (value duration : ℕ)
    (continuous : Bool) :
    Applied s (s.setBrightness value duration continuous).1 ↔
      Supersedes s (.setBrightness value duration continuous) := by
  rw [setBrightness, Supersedes]
  by_cases hguard : s.isBrightnessOverridden = true ∨ s.canSetBrightness = true
  · rw [if_neg (by rcases hguard with hover | hcan <;> simp [*]), and_iff_right hguard]
    dsimp only
    split
    · refine applied_update_iff ?_ _ _ _
      exact ⟨h, rfl, rfl⟩
    · refine applied_update_iff ?_ _ _ _
      exact ⟨h, rfl, rfl⟩
  · rw [if_pos (by simpa using hguard)]
    refine iff_of_false ?_ fun happlies => hguard happlies.1
    exact not_applied rfl fun _ hp => Or.inl hp

theorem overrideBrightness_applied_iff {s : BrightnessService} (h : Bounded s)
    (value duration : ℕ) :
    Applied s (s.overrideBrightness value duration).1 ↔
      Supersedes s (.overrideBrightness value duration) := by
  rw [overrideBrightness, Supersedes]
  by_cases hcan : s.canOverrideBrightness = true
  · rw [if_neg (by simp [hcan]), and_iff_right hcan]
    refine applied_update_iff ?_ _ _ _
    exact ⟨h, rfl, rfl⟩
  · rw [if_pos (by simp [hcan])]
    exact iff_of_false (not_applied_refl s) fun happlies => hcan happlies.1

theorem discountBrightness_applied_iff {s : BrightnessService} (h : Bounded s) (discount : ℚ)
    (duration : ℕ) :
    Applied s (s.discountBrightness discount duration).1 ↔
      Supersedes s (.discountBrightness discount duration) := by
  rw [Supersedes]
  by_cases hon : s.isScreenOn = true
  · rw [discountBrightness_eq hon, and_iff_right (by simpa [canDiscountBrightness] using hon)]
    refine applied_update_iff ?_ _ _ _
    exact ⟨h, rfl, rfl⟩
  · rw [discountBrightness, if_pos (by simp [canDiscountBrightness, hon])]
    exact iff_of_false (not_applied_refl s) fun happlies => hon happlies.1

theorem boostBrightness_applied_iff {s : BrightnessService} (h : Reachable s) (duration : ℕ) :
    Applied s (s.boostBrightness duration).1 ↔ Supersedes s (.boostBrightness duration) := by
  have hhandle := (Reachable.oneEnd h).boost
  rw [boostBrightness, Supersedes]
  by_cases hcan : s.canBoostBrightness = true ∧ s.hasQueue = true
  · rw [if_neg (by simp [hcan]), and_iff_right hcan.1, and_iff_right hcan.2]
    by_cases hboost : s.isBrightnessBoosted = true
    · rw [if_pos hboost]
      refine iff_of_false ?_ fun happlies => absurd (happlies.1.symm.trans hboost) (by simp)
      refine not_applied rfl fun p hp => ?_
      rcases List.mem_append.mp hp with hp | hp
      · exact Or.inl (mem_ffrtCancel hp)
      · rw [List.mem_singleton.mp hp]
        exact Or.inr (by simp)
    · rw [if_neg hboost, and_iff_right (Bool.eq_false_iff.mpr hboost)]
      have hbefore : Before s { s with isBrightnessBoosted := true } := ⟨h.bounded, rfl, rfl⟩
      refine Iff.trans ?_ (applied_update_iff hbefore s.param.maxBrightness duration false)
      have hsame := updateBrightness_sameControl { s with isBrightnessBoosted := true }
        s.param.maxBrightness duration false
      have hkept : ({ s with isBrightnessBoosted := true }.updateBrightness s.param.maxBrightness
          duration false).1.cancelBoostTaskHandle = s.cancelBoostTaskHandle := by rw [hsame]
      generalize { s with isBrightnessBoosted := true }.updateBrightness s.param.maxBrightness
        duration false = result at hkept ⊢
      obtain ⟨u, isSuccess⟩ := result
      rw [Applied, Applied]
      refine or_congr Iff.rfl (exists_congr fun id => and_congr_right fun hid => ?_)
      constructor
      · intro hp
        rcases List.mem_append.mp hp with hp | hp
        · exact mem_ffrtCancel hp
        · cases (Prod.mk.inj (List.mem_singleton.mp hp)).2
      · intro hp
        refine List.mem_append_left _ ?_
        change (id, BrightnessTask.nextStep) ∈
          (ffrtCancel u.tasks u.hasQueue u.cancelBoostTaskHandle).1.pending
        rcases ffrtCancel_cases u.tasks u.hasQueue u.cancelBoostTaskHandle with
          hnone | ⟨handle, hh, _, hremoved⟩
        · rw [hnone]
          exact hp
        · -- the handle is older than the fade
          rw [hremoved]
          have hlt := (hhandle handle (hkept.symm.trans hh)).1
          refine Tasks.mem_remove.mpr ⟨hp, ?_⟩
          change handle < s.tasks.next at hlt
          dsimp only
          omega
  · rw [if_pos (by simpa [Classical.or_iff_not_imp_left] using hcan)]
    exact iff_of_false (not_applied_refl s) fun happlies => hcan ⟨happlies.1, happlies.2.1⟩

theorem processLightLux_applied_iff {s t : BrightnessService} (h : Reachable s) {id : ℕ}
    (hstays : Waiting t id) {lux : ℚ} {currentTime : ℤ}
    (ht : s.processLightLux lux currentTime = some t) :
    Applied s t ↔ LightApplies s lux currentTime := by
  have hquiet {u : BrightnessService} (hu : u.device = s.device ∧ u.tasks = s.tasks) :
      ¬ Applied s u :=
    not_applied (by rw [hu.1]) fun _ hp => Or.inl (hu.2 ▸ hp)
  rw [processLightLux] at ht
  by_cases hcan : s.canSetBrightness = true
  · rw [if_neg (by simp [hcan])] at ht
    obtain ⟨⟨m, isNeed⟩, hneed, ht⟩ := Option.bind_eq_some_iff.mp ht
    obtain rfl := Option.some.inj ht
    rw [LightApplies, and_iff_right hcan, hneed]
    cases isNeed with
    | false => exact iff_of_false (hquiet ⟨rfl, rfl⟩) (by simp)
    | true =>
      rw [if_pos rfl, updateCurrentBrightnessLevel] at hstays ⊢
      dsimp only [getBrightnessLevel] at hstays ⊢
      generalize hmanager : s.calculationManager.getInterpolatedValue lux = interpolated
        at hstays ⊢
      by_cases hnew : s.brightnessLevel ≠
          (intPart (interpolated.2 * float MAX_DEFAULT_BRGIHTNESS_LEVEL)).toNat ∨
            m.isFirstLux = true
      · rw [if_pos hnew] at hstays ⊢
        have hlit : s.waitForFirstLux = false := by
          by_contra hwaits
          obtain ⟨value, hp⟩ := hstays
          have hp := (updateBrightness_follows _ _ _ _).fallback id value hp
          rw [storeBrightnessLevel, cancelWaitFirstLux] at hp
          dsimp only at hp
          rw [if_pos (Bool.eq_true_of_not_eq_false hwaits)] at hp
          exact (Reachable.sole h).cancelled id value hp
        rw [storeBrightnessLevel, cancelWaitFirstLux]
        dsimp only
        rw [if_neg (by simp [hlit]), and_iff_right hlit]
        refine (applied_update_iff ?_ _ _ _).trans ?_
        · exact ⟨h.bounded, rfl, rfl⟩
        · constructor
          · intro happlies
            exact ⟨m, rfl, hnew, happlies⟩
          · rintro ⟨m', hm, _, happlies⟩
            obtain rfl : m = m' := by simpa using hm
            exact happlies
      · rw [if_neg hnew]
        refine iff_of_false (hquiet ⟨rfl, rfl⟩) ?_
        rintro ⟨_, m', hm, hnew', _⟩
        obtain rfl : m = m' := by simpa using hm
        exact hnew hnew'
  · rw [if_pos (by simp [hcan])] at ht
    obtain rfl := Option.some.inj ht
    exact iff_of_false (not_applied_refl s) fun happlies => hcan happlies.1

theorem nextStep_applied_iff {s bs : BrightnessService} (h : Before s bs)
    (hdimming : bs.dimming = s.dimming) :
    Applied s bs.nextStep ↔ s.dimming.isDimming = true ∧ s.dimming.hasQueue = true ∧
      (s.device.answers.headD true = true ∨ s.dimming.nextStep.again = true) := by
  have hold {p : ℕ × BrightnessTask} (hp : p ∈ bs.tasks.pending) : p.1 < s.tasks.next :=
    h.next ▸ bs.tasks.fresh _ hp
  by_cases hactive : s.dimming.isDimming = true ∧ s.dimming.hasQueue = true
  · obtain ⟨level, hlevel⟩ := BrightnessDimming.nextStep_shows hactive.1 hactive.2
    have hwritten : bs.nextStep.device.written ≠ s.device.written := by
      rw [nextStep_device, hdimming, hlevel, notifyChanged,
        onChanged_device (by rw [hdimming]; exact hactive.1), h.device]
      simp [Device.setBrightness]
    have hnext : (∃ id, s.tasks.next ≤ id ∧ (id, .nextStep) ∈ bs.nextStep.tasks.pending) ↔
        s.dimming.nextStep.again = true := by
      constructor
      · rintro ⟨id, hid, hp⟩
        rcases mem_nextStep hp with hp | ⟨hagain, _⟩ | ⟨_, _, _, _, hwrites⟩
        · exact absurd (hold hp) (not_lt.mpr hid)
        · exact hdimming ▸ hagain
        · cases hwrites
      · intro hagain
        have hmoves := (@Timers.Moves.changed bs.timers bs .refl s.dimming.nextStep.changed).follow
        rw [nextStep, hdimming]
        dsimp only
        rw [if_pos hagain]
        exact ⟨_, h.next ▸ hmoves.next, List.mem_append_right _ (List.mem_singleton_self _)⟩
    rw [Applied, and_iff_right hactive.1, and_iff_right hactive.2, hnext, and_iff_right hwritten]
  · rw [nextStep_idle (by rw [hdimming]; simpa [Classical.or_iff_not_imp_left] using hactive)]
    refine iff_of_false ?_ fun hruns => hactive ⟨hruns.1, hruns.2.1⟩
    rintro (⟨hne, _⟩ | ⟨id, hid, hp⟩)
    · exact hne (by rw [h.device])
    · exact absurd (hold hp) (not_lt.mpr hid)

theorem cancelBoostBrightness_applied_iff {s bs : BrightnessService} (h : Before s bs)
    (duration : ℕ) :
    Applied s (bs.cancelBoostBrightness duration).1 ↔
      bs.isBrightnessBoosted = true ∧ bs.hasQueue = true ∧
        Applies bs bs.cachedSettingBrightness duration := by
  rw [cancelBoostBrightness]
  by_cases hends : bs.isBrightnessBoosted = true ∧ bs.hasQueue = true
  · rw [if_neg (by simp [hends]), and_iff_right hends.1, and_iff_right hends.2]
    refine applied_update_iff ?_ _ _ _
    refine ⟨?_, h.device, (ffrtCancel_next _ _ _).trans h.next⟩
    exact BoundedBy.of_subset h.bounded fun p hp => mem_ffrtCancel hp
  · rw [if_pos (by simpa [Classical.or_iff_not_imp_left] using hends)]
    refine iff_of_false ?_ fun happlies => hends ⟨happlies.1, happlies.2.1⟩
    rintro (⟨hne, _⟩ | ⟨id, hid, hp⟩)
    · exact hne (by rw [h.device])
    · exact absurd (h.next ▸ bs.tasks.fresh _ hp) (not_lt.mpr hid)

theorem runTask_applied_iff {s t : BrightnessService} (h : Reachable s) {id : ℕ}
    (hwaiting : Waiting s id) (hstays : Waiting t id) {taken : ℕ}
    (ht : s.runTask taken = some t) : Applied s t ↔ Supersedes s (.runTask taken) := by
  obtain ⟨task, hfind, rfl⟩ := Option.map_eq_some_iff.mp ht
  have hrest : Before s { s with tasks := s.tasks.remove taken } := by
    refine ⟨BoundedBy.of_subset h.bounded ?_, rfl, rfl⟩
    exact fun p hp => (Tasks.mem_remove.mp hp).1
  have hquiet {bs : BrightnessService} (hdevice : bs.device = s.device)
      (htasks : bs.tasks = s.tasks.remove taken) : ¬ Applied s bs :=
    not_applied (by rw [hdevice]) fun _ hp => Or.inl (Tasks.mem_remove.mp (htasks ▸ hp)).1
  simp only [Supersedes, hfind]
  cases task with
  | nextStep => exact nextStep_applied_iff hrest rfl
  | settingBrightness value => exact iff_of_false (hquiet rfl rfl) not_false
  | dimmingSettingBrightness value => exact iff_of_false (hquiet rfl rfl) not_false
  | cancelBoostBrightness duration => exact cancelBoostBrightness_applied_iff hrest duration
  | waitForFirstLux value =>
    -- the only fallback is the one that was taken
    obtain ⟨left, hleft⟩ := hwaiting
    have hsole := Reachable.sole h
    have hhandle := (hsole taken value (Tasks.find?_eq_some.mp hfind)).2
    obtain rfl : taken = id := Option.some.inj (hhandle.symm.trans (hsole id left hleft).2)
    obtain ⟨value', hp⟩ := hstays
    have hp := (updateBrightness_follows _ _ _ _).fallback taken value' hp
    exact absurd rfl (Tasks.mem_remove.mp hp).2

/-- While a fallback stays pending, exactly these operations apply a brightness or switch the
display off. -/
theorem applied_or_off_iff {s t : BrightnessService} {e : BrightnessEvent} (h : Reachable s)
    (hlisted : Listed e) (ht : s.step e = some t) {id : ℕ} (hwaiting : Waiting s id)
    (hstays : Waiting t id) : (e = .setDisplayState .off ∨ Applied s t) ↔ Supersedes s e := by
  have hb := h.bounded
  cases e with
  | setDisplayState state =>
    obtain rfl := Option.some.inj ht
    rw [← setDisplayState_applied_iff hb, BrightnessEvent.setDisplayState.injEq]
  | setScreenOnBrightness =>
    obtain rfl := Option.some.inj ht
    rw [or_iff_right (by simp)]
    exact setScreenOnBrightness_applied_iff h hwaiting hstays
  | setBrightness value duration continuous =>
    obtain rfl := Option.some.inj ht
    rw [or_iff_right (by simp)]
    exact setBrightness_applied_iff hb value duration continuous
  | overrideBrightness value duration =>
    obtain rfl := Option.some.inj ht
    rw [or_iff_right (by simp)]
    exact overrideBrightness_applied_iff hb value duration
  | boostBrightness duration =>
    obtain rfl := Option.some.inj ht
    rw [or_iff_right (by simp)]
    exact boostBrightness_applied_iff h duration
  | discountBrightness discount duration =>
    obtain rfl := Option.some.inj ht
    rw [or_iff_right (by simp)]
    exact discountBrightness_applied_iff hb discount duration
  | processLightLux lux currentTime =>
    rw [or_iff_right (by simp)]
    exact processLightLux_applied_iff h hstays ht
  | runTask taken =>
    rw [or_iff_right (by simp)]
    exact runTask_applied_iff h hwaiting hstays ht
  | _ => exact hlisted.elim

/-! ## Fallbacks that fire -/

theorem fallback_unchanged_iff {s t : BrightnessService} {id value : ℕ}
    (hpending : (id, .waitForFirstLux value) ∈ s.tasks.pending) (ht : s.runTask id = some t) :
    Unchanged s t ↔ Harmless s value := by
  obtain ⟨task, hfind, rfl⟩ := Option.map_eq_some_iff.mp ht
  obtain rfl : task = .waitForFirstLux value :=
    Option.some.inj (hfind.symm.trans (Tasks.find?_eq_some.mpr hpending))
  rw [perform, updateBrightness_now]
  generalize hrest : { s with tasks := s.tasks.remove id } = bs
  have hdevice : bs.device = s.device := by rw [← hrest]
  have hlevel : bs.deviceLevel value = s.deviceLevel value := by rw [← hrest]; rfl
  have hsafe : bs.getSafeBrightness value = s.getSafeBrightness value := by rw [← hrest]; rfl
  have hshown : bs.displayId = s.displayId := by rw [← hrest]
  have hsettings : bs.halted.settings = s.settings := by
    rw [bs.halted_sameControl, ← hrest]
  have hold : ∀ p ∈ bs.halted.tasks.pending, p ∈ s.tasks.pending := by
    intro p hp
    have hp := mem_halted hp
    rw [← hrest] at hp
    exact (Tasks.mem_remove.mp hp).1
  have hnext : bs.halted.tasks.next = s.tasks.next := by
    rw [halted_next, ← hrest]
    rfl
  rw [hdevice, hlevel, hsafe, hshown]
  cases hanswer : s.device.answers.headD true with
  | false =>
    simp only [Device.setBrightness, hanswer, Bool.false_and, Bool.false_eq_true, if_false]
    exact iff_of_true ⟨rfl, hsettings, fun p hp => Or.inl (hold p hp)⟩ (Or.inl hanswer)
  | true =>
    simp only [Device.setBrightness, hanswer, Bool.true_and, if_true]
    rw [Harmless, hanswer, or_iff_right (by simp)]
    constructor
    · rintro ⟨hsame, _, hqueue⟩
      have hlit := congrFun hsame s.displayId
      dsimp only [submitTask] at hlit
      rw [Function.update_self] at hlit
      have hwrite := hqueue (s.tasks.next, .settingBrightness (s.getSafeBrightness value))
        (List.mem_append_right _ (by simp [hnext]))
      rcases hwrite with hfresh | ⟨_, hvalue, hspares⟩
      · exact absurd (s.tasks.fresh _ hfresh) (lt_irrefl _)
      · obtain rfl := Option.some.inj hvalue
        exact ⟨hlit.symm, hspares⟩
    · rintro ⟨hlit, hspares⟩
      refine ⟨?_, hsettings, ?_⟩
      · dsimp only [submitTask]
        rw [← hlit, Function.update_eq_self]
      · intro p hp
        rcases List.mem_append.mp hp with hp | hp
        · exact Or.inl (hold p hp)
        · rw [List.mem_singleton.mp hp]
          exact Or.inr ⟨_, rfl, hspares⟩

theorem waiting_throughout {s t u : BrightnessService} {e : BrightnessEvent}
    {es : List BrightnessEvent} {id : ℕ} (hwaiting : Waiting s id) (ht : s.step e = some t)
    (hu : Runs.run step t es = some u) (hstays : Waiting u id) : Waiting t id := by
  by_contra hgone
  obtain ⟨value, hp⟩ := hwaiting
  have hlt : id < t.tasks.next := lt_of_lt_of_le (s.tasks.fresh _ hp) (step_submits ht).1
  have hgone : Gone id u :=
    Runs.run_invariant_of (P := fun _ => True) (fun _ _ _ hg _ hs => gone_step hg hs)
      ⟨hgone, hlt⟩ (fun _ _ => trivial) hu
  exact hgone.1 hstays

/-- No fallback acts late in a run exactly if the only ones still pending after an operation that
supersedes them are harmless when they fire. -/
theorem never_late_iff {s : BrightnessService} (h : Reachable s) {es : List BrightnessEvent}
    (hlisted : ∀ e ∈ es, Listed e) : NeverLate s es ↔ OnlyHarmlessLate s es := by
  constructor
  · intro hnever before e middle id after hes s₁ s₂ s₃ h₁ h₂ h₃ hwaiting hsupersedes value hp
    have hstays := waiting_throughout hwaiting h₂ h₃ ⟨value, hp⟩
    have happlied :=
      (applied_or_off_iff (h.run h₁) (hlisted e (by simp [hes])) h₂ hwaiting hstays).mpr hsupersedes
    obtain ⟨t, ht⟩ : ∃ t, s₃.runTask id = some t :=
      ⟨_, by rw [runTask, Tasks.find?_eq_some.mpr hp]; rfl⟩
    exact (fallback_unchanged_iff hp ht).mp
      (hnever before e middle id after hes s₁ s₂ s₃ t h₁ h₂ h₃ ht hwaiting ⟨value, hp⟩ happlied)
  · intro hlate before e middle id after hes s₁ s₂ s₃ t h₁ h₂ h₃ ht hwaiting hpending happlied
    have hstays := waiting_throughout hwaiting h₂ h₃ hpending
    have hsupersedes :=
      (applied_or_off_iff (h.run h₁) (hlisted e (by simp [hes])) h₂ hwaiting hstays).mp happlied
    obtain ⟨value, hp⟩ := hpending
    exact (fallback_unchanged_iff hp ht).mpr
      (hlate before e middle id after hes s₁ s₂ s₃ h₁ h₂ h₃ hwaiting hsupersedes value hp)

def autoOn : BrightnessService :=
  ({ state := .on, isSupportLightSensor := true : BrightnessBoot }.start.autoAdjustBrightness
    true).1

theorem autoOn_reachable : Reachable autoOn :=
  ⟨_, [.autoAdjustBrightness true], ⟨{ state := .on, isSupportLightSensor := true }, rfl⟩, rfl⟩

def waitsForLight : BrightnessService := autoOn.setScreenOnBrightness

theorem waitsForLight_waiting : Waiting waitsForLight 0 :=
  ⟨50, Tasks.find?_eq_some.mp (by decide +kernel)⟩

def userSet : BrightnessService := (waitsForLight.setBrightness 200 0 false).1

/-- The user sets 200 while the fallback is pending, which then puts the device back to 50. -/
theorem fallback_undoes_user : ¬ AlwaysInTime := by
  intro h
  have hfind : userSet.tasks.find? 0 = some (.waitForFirstLux 50) := by decide +kernel
  have hfires : userSet.step (.runTask 0) = some _ := runTask_eq hfind
  have hunchanged := h autoOn autoOn_reachable
    [.setScreenOnBrightness, .setBrightness 200 0 false, .runTask 0] (by simp [Listed])
    [.setScreenOnBrightness] _ [] 0 [] rfl waitsForLight userSet userSet _ rfl rfl rfl hfires
    waitsForLight_waiting ⟨_, Tasks.find?_eq_some.mp hfind⟩ (Or.inr (Or.inl (by decide +kernel)))
  have hlevel := congrFun hunchanged.1 0
  exact absurd hlevel (by decide +kernel)

theorem onlyHarmlessLate_of_firings {s : BrightnessService} {es : List BrightnessEvent}
    (h : ∀ before id after, es = before ++ .runTask id :: after → ∀ t,
      Runs.run step s before = some t →
      ∀ value, (id, .waitForFirstLux value) ∈ t.tasks.pending → Harmless t value) :
    OnlyHarmlessLate s es := by
  intro before e middle id after hes s₁ s₂ s₃ h₁ h₂ h₃ _ _
  refine h (before ++ e :: middle) id after (by simp [hes]) s₃ ?_
  exact Runs.run_append_some.mpr ⟨s₁, h₁, Runs.run_cons_some.mpr ⟨s₂, h₂, h₃⟩⟩

/-- The first light is reported while the fallback is pending, and cancels it. -/
theorem light_supersedes_fallback :
    (∃ t, waitsForLight.step (.processLightLux 100 0) = some t ∧ Applied waitsForLight t ∧
      ¬ Waiting t 0) ∧
    NeverLate autoOn [.setScreenOnBrightness, .processLightLux 100 0, .runTask 0] := by
  have hlight : ∃ t, waitsForLight.step (.processLightLux 100 0) = some t ∧
      t.tasks.pending = [(1, .nextStep)] := by
    decide +kernel
  have hnext : waitsForLight.tasks.next = 1 := by decide +kernel
  obtain ⟨t, ht, hpending⟩ := hlight
  have hcancelled : ¬ Waiting t 0 := by simp [Waiting, hpending]
  refine ⟨⟨t, ht, ?_, hcancelled⟩, (never_late_iff autoOn_reachable (by simp [Listed])).mpr ?_⟩
  · exact Or.inr ⟨1, hnext.le, by simp [hpending]⟩
  · refine onlyHarmlessLate_of_firings ?_
    intro before id after hes u hu value hp
    rcases before with _ | ⟨first, _ | ⟨second, _ | ⟨third, rest⟩⟩⟩
    · simp at hes
    · simp at hes
    · obtain ⟨rfl, rfl, ⟨⟩, rfl⟩ : _ = _ ∧ _ = _ ∧ _ = _ ∧ _ = _ := by simpa using hes
      have hrun : Runs.run step waitsForLight [.processLightLux 100 0] = some u := hu
      obtain rfl : t = u := by simpa [ht] using hrun
      exact absurd ⟨value, hp⟩ hcancelled
    · simp at hes

end DisplayPowerMgr.FirstLuxFallback
