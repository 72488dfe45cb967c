import DisplayPowerMgr.BrightnessTasks

/-! The two requests that take the panel over: an override and a boost exclude each other and
shield the panel, and a boost always has exactly one task that ends it. -/
namespace DisplayPowerMgr

theorem ffrtCancel_cases {α : Type*} (tasks : Tasks α) (hasQueue : Bool) (handle : Option ℕ) :
    ffrtCancel tasks hasQueue handle = (tasks, handle) ∨
      ∃ id, handle = some id ∧ hasQueue = true ∧
        ffrtCancel tasks hasQueue handle = (tasks.remove id, none) := by
  cases handle with
  | none => exact Or.inl rfl
  | some id =>
    rw [ffrtCancel]
    by_cases hcancel : (hasQueue && tasks.isPending id) = true
    · rw [if_pos hcancel]
      exact Or.inr ⟨id, rfl, (Bool.and_eq_true_iff.mp hcancel).1, rfl⟩
    · rw [if_neg hcancel]
      exact Or.inl rfl

theorem names_cancel {α : Type*} {tasks : Tasks α} {K : α → Prop} {kept : Option ℕ}
    (h : tasks.Names K kept) (hasQueue : Bool) (handle : Option ℕ) :
    (ffrtCancel tasks hasQueue handle).1.Names K kept := by
  rcases ffrtCancel_cases tasks hasQueue handle with hsame | ⟨id, _, _, hremoved⟩
  · rw [hsame]
    exact h
  · rw [hremoved]
    exact h.remove id

theorem names_cancelled {α : Type*} {tasks : Tasks α} {K : α → Prop} {handle : Option ℕ}
    (h : tasks.Names K handle) (hasQueue : Bool) :
    (ffrtCancel tasks hasQueue handle).1.Names K (ffrtCancel tasks hasQueue handle).2 := by
  rcases ffrtCancel_cases tasks hasQueue handle with hsame | ⟨id, _, _, hremoved⟩
  · rw [hsame]
    exact h
  · rw [hremoved]
    exact .none

namespace Timers

/-- The task `id`, which ends a boost, is pending. -/
def Ends (tasks : Tasks BrightnessTask) (id : ℕ) : Prop :=
  ∃ duration, (id, .cancelBoostBrightness duration) ∈ tasks.pending

/-- The flags exclude each other and a wait for light, every handle names a task of its kind, and a
boost goes with the one task that ends it, the one of the handle. -/
structure OneEnd (v : Timers) : Prop where
  exclusive : v.isBrightnessOverridden = true → v.isBrightnessBoosted = false
  waits : v.waitForFirstLux = true →
    v.isBrightnessOverridden = false ∧ v.isBrightnessBoosted = false
  animator : v.tasks.Names (·.endsBoost = false) v.animatorTaskHandle
  firstLux : v.tasks.Names (·.endsBoost = false) v.waitForFirstLuxTaskHandle
  boost : v.tasks.Names (·.endsBoost = true) v.cancelBoostTaskHandle
  unboosted : v.isBrightnessBoosted = false → ∀ id, ¬ Ends v.tasks id
  boosted : v.isBrightnessBoosted = true →
    v.hasQueue = true ∧ ∃ handle, v.cancelBoostTaskHandle = some handle ∧
      ∀ id, Ends v.tasks id ↔ id = handle

theorem ends_submit {tasks : Tasks BrightnessTask} {task : BrightnessTask}
    (h : task.endsBoost = false) (id : ℕ) : Ends (tasks.submit task) id ↔ Ends tasks id := by
  constructor
  · rintro ⟨duration, hp⟩
    rcases List.mem_append.mp hp with hp | hp
    · exact ⟨duration, hp⟩
    · have htask := (Prod.mk.inj (List.mem_singleton.mp hp)).2
      rw [← htask] at h
      cases h
  · rintro ⟨duration, hp⟩
    exact ⟨duration, List.mem_append_left _ hp⟩

theorem ends_remove {tasks : Tasks BrightnessTask} {taken id : ℕ} :
    Ends (tasks.remove taken) id ↔ Ends tasks id ∧ id ≠ taken := by
  constructor
  · rintro ⟨duration, hp⟩
    obtain ⟨hp, hne⟩ := Tasks.mem_remove.mp hp
    exact ⟨⟨duration, hp⟩, hne⟩
  · rintro ⟨⟨duration, hp⟩, hne⟩
    exact ⟨duration, Tasks.mem_remove.mpr ⟨hp, hne⟩⟩

theorem ends_taken {tasks : Tasks BrightnessTask} {taken : ℕ}
    (h : ∀ task, (taken, task) ∈ tasks.pending → task.endsBoost = false) (id : ℕ) :
    Ends (tasks.remove taken) id ↔ Ends tasks id := by
  rw [ends_remove]
  constructor
  · exact And.left
  · intro hends
    refine ⟨hends, ?_⟩
    rintro rfl
    obtain ⟨duration, hp⟩ := hends
    have hother := h _ hp
    cases hother

theorem ends_cancel {tasks : Tasks BrightnessTask} {handle : Option ℕ}
    (h : tasks.Names (·.endsBoost = false) handle) (hasQueue : Bool) (id : ℕ) :
    Ends (ffrtCancel tasks hasQueue handle).1 id ↔ Ends tasks id := by
  rcases ffrtCancel_cases tasks hasQueue handle with hsame | ⟨taken, rfl, _, hremoved⟩
  · rw [hsame]
  · rw [hremoved]
    exact ends_taken (h taken rfl).2 id

theorem OneEnd.of_ends {v w : Timers} (h : OneEnd v)
    (hends : ∀ id, Ends w.tasks id ↔ Ends v.tasks id)
    (hflags : w.isBrightnessBoosted = v.isBrightnessBoosted ∧ w.hasQueue = v.hasQueue ∧
      w.cancelBoostTaskHandle = v.cancelBoostTaskHandle)
    (exclusive : w.isBrightnessOverridden = true → w.isBrightnessBoosted = false)
    (waits : w.waitForFirstLux = true →
      w.isBrightnessOverridden = false ∧ w.isBrightnessBoosted = false)
    (animator : w.tasks.Names (·.endsBoost = false) w.animatorTaskHandle)
    (firstLux : w.tasks.Names (·.endsBoost = false) w.waitForFirstLuxTaskHandle)
    (boost : w.tasks.Names (·.endsBoost = true) w.cancelBoostTaskHandle) : OneEnd w := by
  obtain ⟨hboosted, hqueue, hhandle⟩ := hflags
  refine ⟨exclusive, waits, animator, firstLux, boost, ?_, ?_⟩
  · intro hw id hid
    exact h.unboosted (hboosted ▸ hw) id ((hends id).mp hid)
  · intro hw
    obtain ⟨hq, handle, hv, hone⟩ := h.boosted (hboosted ▸ hw)
    exact ⟨hqueue ▸ hq, handle, hhandle ▸ hv, fun id => (hends id).trans (hone id)⟩

theorem OneEnd.submit {v : Timers} (h : OneEnd v) {task : BrightnessTask}
    (htask : task.endsBoost = false) : OneEnd { v with tasks := v.tasks.submit task } :=
  h.of_ends (ends_submit htask) ⟨rfl, rfl, rfl⟩ h.exclusive h.waits (h.animator.submit _)
    (h.firstLux.submit _) (h.boost.submit _)

theorem OneEnd.take {v : Timers} (h : OneEnd v) {id : ℕ} {task : BrightnessTask}
    (hpending : (id, task) ∈ v.tasks.pending) (hother : task.endsBoost = false) :
    OneEnd { v with tasks := v.tasks.remove id } := by
  have honly (task' : BrightnessTask) (hp : (id, task') ∈ v.tasks.pending) :
      task'.endsBoost = false := Tasks.mem_unique hpending hp ▸ hother
  exact h.of_ends (ends_taken honly) ⟨rfl, rfl, rfl⟩ h.exclusive h.waits (h.animator.remove _)
    (h.firstLux.remove _) (h.boost.remove _)

theorem OneEnd.stopFade {v : Timers} (h : OneEnd v) : OneEnd v.stopFade :=
  h.of_ends (ends_cancel h.animator _) ⟨rfl, rfl, rfl⟩ h.exclusive h.waits
    (names_cancelled h.animator _) (names_cancel h.firstLux _ _) (names_cancel h.boost _ _)

theorem OneEnd.lightArrived {v : Timers} (h : OneEnd v) : OneEnd v.lightArrived :=
  h.of_ends (ends_cancel h.firstLux _) ⟨rfl, rfl, rfl⟩ h.exclusive (fun hwaits => nomatch hwaits)
    (names_cancel h.animator _ _) (names_cancelled h.firstLux _) (names_cancel h.boost _ _)

theorem OneEnd.startFade {v : Timers} (h : OneEnd v) : OneEnd v.startFade :=
  h.of_ends (ends_submit rfl) ⟨rfl, rfl, rfl⟩ h.exclusive h.waits (.submitted rfl)
    (h.firstLux.submit _) (h.boost.submit _)

theorem OneEnd.free {v : Timers} (h : OneEnd v) (hwaits : v.waitForFirstLux = true ∨
    v.isBrightnessOverridden = false ∧ v.isBrightnessBoosted = false) :
    v.isBrightnessOverridden = false ∧ v.isBrightnessBoosted = false :=
  hwaits.elim h.waits id

theorem OneEnd.waitFirstLux {v : Timers} (h : OneEnd v)
    (hfree : v.isBrightnessOverridden = false ∧ v.isBrightnessBoosted = false)
    (screenOnBrightness : ℕ) : OneEnd (v.waitFirstLux screenOnBrightness) := by
  refine h.of_ends ?_ ⟨rfl, rfl, rfl⟩ h.exclusive (fun _ => hfree) ?_ ?_ ?_
  · intro id
    exact (ends_submit rfl id).trans (ends_cancel h.firstLux _ id)
  · exact (names_cancel h.animator _ _).submit _
  · have hname := BrightnessService.ffrtCancel_next v.tasks v.hasQueue v.waitForFirstLuxTaskHandle
    rw [Timers.waitFirstLux]
    dsimp only
    rw [← hname]
    exact .submitted rfl
  · exact (names_cancel h.boost _ _).submit _

theorem OneEnd.of_none {w : Timers} (hends : ∀ id, ¬ Ends w.tasks id)
    (hunboosted : w.isBrightnessBoosted = false)
    (hfree : w.waitForFirstLux = true → w.isBrightnessOverridden = false)
    (animator : w.tasks.Names (·.endsBoost = false) w.animatorTaskHandle)
    (firstLux : w.tasks.Names (·.endsBoost = false) w.waitForFirstLuxTaskHandle)
    (boost : w.tasks.Names (·.endsBoost = true) w.cancelBoostTaskHandle) : OneEnd w := by
  refine ⟨fun _ => hunboosted, fun hwaits => ⟨hfree hwaits, hunboosted⟩, animator, firstLux, boost,
    fun _ => hends, ?_⟩
  intro hboosted
  rw [hunboosted] at hboosted
  cases hboosted

theorem isPending_of_ends {tasks : Tasks BrightnessTask} {id : ℕ} (h : Ends tasks id) :
    tasks.isPending id = true := by
  obtain ⟨duration, hp⟩ := h
  rw [Tasks.isPending, Tasks.find?_eq_some.mpr hp]
  rfl

theorem OneEnd.none_left {v : Timers} (h : OneEnd v) (hqueue : v.hasQueue = true) (id : ℕ) :
    ¬ Ends (ffrtCancel v.tasks v.hasQueue v.cancelBoostTaskHandle).1 id := by
  intro hid
  cases hboosted : v.isBrightnessBoosted with
  | false =>
    rcases ffrtCancel_cases v.tasks v.hasQueue v.cancelBoostTaskHandle with
      hsame | ⟨taken, _, _, hremoved⟩
    · rw [hsame] at hid
      exact h.unboosted hboosted id hid
    · rw [hremoved] at hid
      exact h.unboosted hboosted id (ends_remove.mp hid).1
  | true =>
    obtain ⟨_, handle, hhandle, hone⟩ := h.boosted hboosted
    have hpending := isPending_of_ends ((hone handle).mpr rfl)
    rw [hhandle, ffrtCancel, if_pos (by simp [hqueue, hpending]), ends_remove, hone] at hid
    exact hid.2 hid.1

theorem OneEnd.endBoost {v : Timers} (h : OneEnd v) : OneEnd v.endBoost := by
  rw [Timers.endBoost]
  by_cases hends : (v.isBrightnessBoosted && v.hasQueue) = true
  · rw [if_pos hends]
    exact .of_none (h.none_left (Bool.and_eq_true_iff.mp hends).2) rfl (fun hw => (h.waits hw).1)
      (names_cancel h.animator _ _) (names_cancel h.firstLux _ _) (names_cancelled h.boost _)
  · rw [if_neg hends]
    exact h

/-- The task that ends a boost runs with its own handle still kept, which cancels nothing. -/
theorem OneEnd.expire {v : Timers} (h : OneEnd v) {id : ℕ} (hpending : Ends v.tasks id) :
    OneEnd { v with tasks := v.tasks.remove id }.endBoost := by
  have hboosted : v.isBrightnessBoosted = true := by
    by_contra hunboosted
    exact h.unboosted (Bool.eq_false_iff.mpr hunboosted) id hpending
  obtain ⟨hqueue, handle, hhandle, hone⟩ := h.boosted hboosted
  rw [Timers.endBoost]
  rw [if_pos (by simp [hboosted, hqueue])]
  refine .of_none ?_ rfl (fun hw => (h.waits hw).1) (names_cancel (h.animator.remove _) _ _)
    (names_cancel (h.firstLux.remove _) _ _) (names_cancelled (h.boost.remove _) _)
  have hnone (i : ℕ) : ¬ Ends (v.tasks.remove id) i := by
    rw [ends_remove, hone, (hone id).mp hpending]
    exact fun hi => hi.2 hi.1
  intro i hi
  rcases ffrtCancel_cases (v.tasks.remove id) v.hasQueue v.cancelBoostTaskHandle with
    hsame | ⟨taken, _, _, hremoved⟩
  · dsimp only at hi
    rw [hsame] at hi
    exact hnone i hi
  · dsimp only at hi
    rw [hremoved] at hi
    exact hnone i (ends_remove.mp hi).1

theorem ends_boost {v : Timers} (h : OneEnd v) (hqueue : v.hasQueue = true)
    (gradualDuration id : ℕ) : Ends (v.boost gradualDuration).tasks id ↔ id = v.tasks.next := by
  have hnext := BrightnessService.ffrtCancel_next v.tasks v.hasQueue v.cancelBoostTaskHandle
  constructor
  · rintro ⟨duration, hp⟩
    rcases List.mem_append.mp hp with hp | hp
    · exact absurd ⟨duration, hp⟩ (h.none_left hqueue id)
    · exact (Prod.mk.inj (List.mem_singleton.mp hp)).1.trans hnext
  · rintro rfl
    refine ⟨gradualDuration, List.mem_append_right _ ?_⟩
    rw [hnext]
    exact List.mem_singleton.mpr rfl

theorem OneEnd.boosts {v : Timers} (h : OneEnd v) (hqueue : v.hasQueue = true)
    (hfree : v.isBrightnessOverridden = false)
    (hover : v.isBrightnessBoosted = true ∨ v.waitForFirstLux = false) (gradualDuration : ℕ) :
    OneEnd (v.boost gradualDuration) := by
  have hnext := BrightnessService.ffrtCancel_next v.tasks v.hasQueue v.cancelBoostTaskHandle
  refine ⟨?_, ?_, (names_cancel h.animator _ _).submit _,
    (names_cancel h.firstLux _ _).submit _, ?_,
    (fun hboosted => nomatch hboosted), ?_⟩
  · intro hover
    exact absurd (hfree.symm.trans hover) (by simp)
  · intro hwaits
    rcases hover with hboosted | hlit
    · exact absurd ((h.waits hwaits).2.symm.trans hboosted) (by simp)
    · exact absurd (hlit.symm.trans hwaits) (by simp)
  · rw [Timers.boost]
    dsimp only
    rw [← hnext]
    exact .submitted rfl
  · intro _
    exact ⟨hqueue, v.tasks.next, rfl, ends_boost h hqueue gradualDuration⟩

theorem OneEnd.move {v w : Timers} (h : OneEnd v) (hmove : Move v w) : OneEnd w := by
  cases hmove with
  | stopFade => exact h.stopFade
  | startFade => exact h.startFade
  | submitted task write =>
    refine h.submit ?_
    cases task with
    | cancelBoostBrightness => cases write
    | _ => rfl
  | lightArrived => exact h.lightArrived
  | taken id task pending other => exact h.take pending other
  | boostEnded => exact h.endBoost
  | boostExpired id duration pending => exact h.expire ⟨duration, pending⟩
  | waitOver =>
    exact h.of_ends (fun _ => Iff.rfl) ⟨rfl, rfl, rfl⟩ h.exclusive (fun hwaits => nomatch hwaits)
      h.animator h.firstLux h.boost
  | overridden free =>
    exact h.of_ends (fun _ => Iff.rfl) ⟨rfl, rfl, rfl⟩ (fun _ => free)
      (fun hwaits => nomatch hwaits)
      h.animator h.firstLux h.boost
  | released =>
    exact h.of_ends (fun _ => Iff.rfl) ⟨rfl, rfl, rfl⟩ (fun hover => nomatch hover)
      (fun hwaits => ⟨rfl, (h.waits hwaits).2⟩) h.animator h.firstLux h.boost

theorem OneEnd.moves {v w : Timers} (h : OneEnd v) (hmoves : Moves v w) : OneEnd w :=
  hmoves.keeps (fun _ _ hmove hv => hv.move hmove) h

/-- Whatever happens, a boost keeps the one task that ends it. -/
theorem OneEnd.step {bs t : BrightnessService} {e : BrightnessEvent} (h : OneEnd bs.timers)
    (ht : bs.step e = some t) : OneEnd t.timers := by
  by_cases hboost : bs.AcceptsBoost e
  · cases e with
    | boostBrightness duration =>
      obtain ⟨v, hmoves, hqueue, hfree, hover, htimers⟩ := boostBrightness_moves hboost
      rw [← Option.some.inj ht, htimers]
      exact (h.moves hmoves).boosts hqueue hfree hover duration
    | _ => exact hboost.elim
  · by_cases hon : e = .setScreenOnBrightness
    · cases hon
      rw [← Option.some.inj ht]
      rcases setScreenOnBrightness_moves bs with hmoves | ⟨hfree, hwaits | ⟨_, hwaits⟩⟩
      · exact h.moves hmoves
      · rw [hwaits]
        exact h.of_ends (fun _ => Iff.rfl) ⟨rfl, rfl, rfl⟩ h.exclusive (fun _ => h.free hfree)
          h.animator h.firstLux h.boost
      · rw [hwaits]
        exact h.waitFirstLux (h.free hfree) _
    · exact h.moves (step_moves hon hboost ht)

theorem OneEnd.start (boot : BrightnessBoot) : OneEnd boot.start.timers := by
  refine ⟨fun _ => rfl, fun _ => ⟨rfl, rfl⟩, .none, .none, .none, ?_, ?_⟩
  · rintro _ id ⟨_, hp⟩
    cases hp
  · intro hboosted
    cases hboosted

end Timers

namespace BoostAndOverride

open BrightnessService Timers

theorem Reachable.oneEnd {bs : BrightnessService} (h : Reachable bs) : OneEnd bs.timers := by
  refine Runs.reachable_invariant (J := fun s => OneEnd s.timers) ?_
    (fun _ _ _ hs ht => hs.step ht) h
  rintro _ ⟨boot, rfl⟩
  exact OneEnd.start boot

/-- Neither a panel nor a level that the service keeps was touched, nor will a task do so that
was not pending before. -/
structure Shielded (s t : BrightnessService) : Prop where
  device : t.device = s.device
  settings : t.settings = s.settings
  brightnessTarget : t.brightnessTarget = s.brightnessTarget
  brightnessLevel : t.brightnessLevel = s.brightnessLevel
  currentBrightness : t.currentBrightness = s.currentBrightness
  tasks : t.tasks = s.tasks

theorem foldSensors_settings (bs : BrightnessService) (foldStatus : FoldStatus) :
    (bs.foldSensors foldStatus).settings = bs.settings := by
  cases foldStatus with
  | unknown => rfl
  | _ =>
    simp only [foldSensors, activateAmbientSensor, activateAmbientSensor1, deactivateAmbientSensor,
      deactivateAmbientSensor1]
    repeat' split
    all_goals rfl

theorem foldSensors_shielded (bs : BrightnessService) (foldStatus : FoldStatus) :
    Shielded bs (bs.foldSensors foldStatus) := by
  have hsame := foldSensors_same bs foldStatus
  have hsettings := foldSensors_settings bs foldStatus
  rw [hsame] at hsettings ⊢
  exact ⟨rfl, hsettings, rfl, rfl, rfl, rfl⟩

theorem onFoldStatusChanged_shielded {bs : BrightnessService} (h : bs.canSetBrightness = false)
    (foldStatus : FoldStatus) : Shielded bs (bs.onFoldStatusChanged foldStatus) := by
  rw [onFoldStatusChanged]
  by_cases hlast : bs.lastFoldStatus = foldStatus
  · rw [if_pos hlast]
    exact ⟨rfl, rfl, rfl, rfl, rfl, rfl⟩
  · rw [if_neg hlast]
    dsimp only
    generalize bs.calculationManager.curve.getDisplayIdWithFoldstatus foldStatus.toNat = displayId
    have hshield := foldSensors_shielded (bs.setDisplayId displayId) foldStatus
    have hcan : ((bs.setDisplayId displayId).foldSensors foldStatus).canSetBrightness = false := by
      rw [foldSensors_same (bs.setDisplayId displayId) foldStatus]
      exact h
    rw [if_neg (by simp [hcan])]
    exact ⟨hshield.device, hshield.settings, hshield.brightnessTarget, hshield.brightnessLevel,
      hshield.currentBrightness, hshield.tasks⟩

/-- An override and a boost are never in force together, and while one of them is, neither a
light report nor a fold change gets through to the panel. -/
theorem exclusive_and_shielding {bs : BrightnessService} (h : Reachable bs) :
    ¬ (bs.isBrightnessOverridden = true ∧ bs.isBrightnessBoosted = true) ∧
      (bs.isBrightnessOverridden = true ∨ bs.isBrightnessBoosted = true →
        (∀ lux currentTime, ∃ t, bs.processLightLux lux currentTime = some t ∧ Shielded bs t) ∧
          ∀ foldStatus, Shielded bs (bs.onFoldStatusChanged foldStatus)) := by
  constructor
  · rintro ⟨hover, hboosted⟩
    have hfree := (Reachable.oneEnd h).exclusive hover
    exact absurd (hfree.symm.trans hboosted) (by simp)
  · intro hshield
    have hcan : bs.canSetBrightness = false := by
      rcases hshield with hover | hboosted
      · simp [canSetBrightness, hover]
      · simp [canSetBrightness, hboosted]
    constructor
    · intro lux currentTime
      refine ⟨bs, ?_, ⟨rfl, rfl, rfl, rfl, rfl, rfl⟩⟩
      rw [processLightLux, if_pos (by simp [hcan])]
    · exact onFoldStatusChanged_shielded hcan

def boostedThenDimmed : BrightnessService :=
  (({ state := .on : BrightnessBoot }.start).boostBrightness 0).1.setDisplayState .dim

theorem boostedThenDimmed_shielded :
    boostedThenDimmed.isBrightnessBoosted = true ∧
      Shielded boostedThenDimmed (boostedThenDimmed.onFoldStatusChanged .folded) :=
  ⟨by decide +kernel, ((exclusive_and_shielding
    ⟨_, [.boostBrightness 0, .setDisplayState .dim], ⟨{ state := .on }, rfl⟩, rfl⟩).2
      (Or.inr (by decide +kernel))).2 .folded⟩

/-- The task `id` was submitted by the last request of the run for a boost that was not
refused. -/
def OfLatestBoost (s₀ : BrightnessService) (es : List BrightnessEvent) (id : ℕ) : Prop :=
  ∃ before duration after s₁ s₂, es = before ++ .boostBrightness duration :: after ∧
    Runs.run step s₀ before = some s₁ ∧ s₁.AcceptsBoost (.boostBrightness duration) ∧
      s₁.step (.boostBrightness duration) = some s₂ ∧
        Runs.Always step (fun s e => ¬ s.AcceptsBoost e) s₂ after ∧
          s₁.tasks.next ≤ id ∧ (id, .cancelBoostBrightness duration) ∈ s₂.tasks.pending

theorem ends_of_follow {q r : Tasks BrightnessTask}
    (h : q.Follow (fun task => task.shows = false) r) {id : ℕ} (hends : Ends r id) :
    Ends q id := by
  obtain ⟨duration, hp⟩ := hends
  exact ⟨duration, h.pending id _ rfl hp⟩

theorem ends_of_step {s t : BrightnessService} {e : BrightnessEvent} (hboost : ¬ s.AcceptsBoost e)
    (ht : s.step e = some t) {id : ℕ} (h : Ends t.tasks id) : Ends s.tasks id := by
  by_cases hon : e = .setScreenOnBrightness
  · cases hon
    rw [← Option.some.inj ht] at h
    rcases setScreenOnBrightness_moves s with hmoves | ⟨_, hwaits | ⟨_, hwaits⟩⟩
    · exact ends_of_follow hmoves.follow h
    · have hsub : Ends ({ s.timers with waitForFirstLux := true } : Timers).tasks id := hwaits ▸ h
      exact hsub
    · have hsub : Ends (s.timers.waitFirstLux s.cachedSettingBrightness).tasks id := hwaits ▸ h
      exact ends_of_follow (follow_cancel _ _ _) ((ends_submit rfl id).mp hsub)
  · exact ends_of_follow (step_moves hon hboost ht).follow h

theorem OfLatestBoost.snoc {s₀ s : BrightnessService} {es : List BrightnessEvent}
    {e : BrightnessEvent} {id : ℕ} (h : OfLatestBoost s₀ es id)
    (hrun : Runs.run step s₀ es = some s) (hboost : ¬ s.AcceptsBoost e) :
    OfLatestBoost s₀ (es ++ [e]) id := by
  obtain ⟨before, duration, after, s₁, s₂, rfl, hbefore, haccept, hstep, hafter, hnew, hp⟩ := h
  refine ⟨before, duration, after ++ [e], s₁, s₂, by simp, hbefore, haccept, hstep, ?_, hnew, hp⟩
  refine Runs.always_append.mpr ⟨hafter, ?_⟩
  intro u hu
  obtain ⟨v, hv, hvs⟩ := Runs.run_append_some.mp hrun
  obtain ⟨w, hw, hws⟩ := Runs.run_cons_some.mp hvs
  rw [hbefore] at hv
  cases hv
  rw [hstep] at hw
  cases hw
  rw [hu] at hws
  cases hws
  exact ⟨hboost, fun _ _ => trivial⟩

theorem reachable_of_run {boot : BrightnessBoot} {es : List BrightnessEvent}
    {s : BrightnessService} (h : Runs.run step boot.start es = some s) : Reachable s :=
  ⟨boot.start, es, ⟨boot, rfl⟩, h⟩

theorem ofLatestBoost_of_accepted {s₀ s t : BrightnessService} {es : List BrightnessEvent}
    {e : BrightnessEvent} {id : ℕ} (hrun : Runs.run step s₀ es = some s)
    (hs : OneEnd s.timers) (hboost : s.AcceptsBoost e) (ht : s.step e = some t)
    (h : Ends t.tasks id) : OfLatestBoost s₀ (es ++ [e]) id := by
  cases e with
  | boostBrightness duration =>
    obtain ⟨v, hmoves, hqueue, _, _, htimers⟩ := boostBrightness_moves hboost
    have hend : Ends (v.boost duration).tasks id := by
      rw [← htimers, Option.some.inj ht]
      exact h
    obtain rfl := (ends_boost (hs.moves hmoves) hqueue duration id).mp hend
    refine ⟨es, duration, [], s, t, rfl, hrun, hboost, ht, trivial, hmoves.follow.next, ?_⟩
    have htasks : t.tasks = (v.boost duration).tasks := by
      rw [← htimers, Option.some.inj ht]
      rfl
    rw [htasks]
    refine List.mem_append_right _ (List.mem_singleton.mpr ?_)
    rw [ffrtCancel_next]
  | _ => exact hboost.elim

theorem ofLatestBoost_of_ends {boot : BrightnessBoot} {es : List BrightnessEvent}
    {t : BrightnessService} (hrun : Runs.run step boot.start es = some t) {id : ℕ}
    (h : Ends t.tasks id) : OfLatestBoost boot.start es id := by
  induction es using List.reverseRecOn generalizing t with
  | nil =>
    cases hrun
    obtain ⟨duration, hp⟩ := h
    cases hp
  | append_singleton es e ih =>
    obtain ⟨s, hs, hst⟩ := Runs.run_append_some.mp hrun
    obtain ⟨u, hu, hut⟩ := Runs.run_cons_some.mp hst
    cases hut
    by_cases hboost : s.AcceptsBoost e
    · exact ofLatestBoost_of_accepted hs (Reachable.oneEnd (reachable_of_run hs)) hboost hu h
    · exact (ih hs (ends_of_step hboost hu h)).snoc hs hboost

/-- A boost is in force exactly while one task is pending that ends it, and that task is the
one of the latest boost. -/
theorem boost_has_one_end {boot : BrightnessBoot} {es : List BrightnessEvent}
    {s : BrightnessService} (h : Runs.run step boot.start es = some s) :
    (s.isBrightnessBoosted = true ↔ ∃! id, Ends s.tasks id) ∧
      ∀ id, Ends s.tasks id → OfLatestBoost boot.start es id := by
  have hone := Reachable.oneEnd (reachable_of_run h)
  refine ⟨?_, fun id hid => ofLatestBoost_of_ends h hid⟩
  constructor
  · intro hboosted
    obtain ⟨_, handle, _, hends⟩ := hone.boosted hboosted
    exact ⟨handle, (hends handle).mpr rfl, fun id hid => (hends id).mp hid⟩
  · rintro ⟨id, hid, _⟩
    by_contra hunboosted
    exact hone.unboosted (Bool.eq_false_iff.mpr hunboosted) id hid

def boostedAgain : BrightnessService := (boostedThenDimmed.boostBrightness 0).1

theorem boostedAgain_has_one_end :
    boostedAgain.isBrightnessBoosted = true ∧ ∃! id, Ends boostedAgain.tasks id := by
  have hrun : Runs.run step ({ state := .on : BrightnessBoot }.start)
      [.boostBrightness 0, .setDisplayState .dim, .boostBrightness 0] = some boostedAgain := rfl
  have hboosted : boostedAgain.isBrightnessBoosted = true := by decide +kernel
  exact ⟨hboosted, (boost_has_one_end hrun).1.mp hboosted⟩

end BoostAndOverride

end DisplayPowerMgr
