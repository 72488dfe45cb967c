import DisplayPowerMgr.BoostAndOverride

/-! A boost and its end, with nothing else in between: what the panel and the setting are left
at. The end writes `mCachedSettingBrightness`, whatever was in force before. -/
namespace DisplayPowerMgr

namespace BoostRoundTrip

open BrightnessService Timers

/-- The screen is on and nothing but the brightness of the setting is in force or under way. -/
structure Ready (bs : BrightnessService) : Prop where
  screen : bs.state = .on
  free : bs.isBrightnessOverridden = false
  unboosted : bs.isBrightnessBoosted = false
  still : bs.dimming.isDimming = false
  written : ∀ p ∈ bs.tasks.pending, p.2.writesSetting = false

/-- A boost with the duration that every caller leaves at its default. -/
def boosts (n : ℕ) : List BrightnessEvent := List.replicate n (.boostBrightness 0)

def EndsBoost (bs : BrightnessService) (e : BrightnessEvent) : Prop :=
  e = .cancelBoostBrightness 0 ∨ ∃ id, e = .runTask id ∧ Ends bs.tasks id

def Restored (bs t : BrightnessService) : Prop :=
  t.shown = bs.shown ∧ t.settings.brightness = bs.settings.brightness

/-- Boosts and their end restore both, at once and after the setting write that is queued. -/
def RoundTrip (bs : BrightnessService) : Prop :=
  ∀ n u e t, 0 < n → Runs.run step bs (boosts n) = some u → EndsBoost u e → u.step e = some t →
    Restored bs t ∧ ∀ id task w, (id, task) ∈ t.tasks.pending → task.writesSetting = true →
      t.runTask id = some w → Restored bs w

def AlwaysRoundTrip : Prop := ∀ bs, Reachable bs → Ready bs → RoundTrip bs

/-- The answers of the panel to the next two levels it is commanded. -/
def acceptsFirst (bs : BrightnessService) : Bool := bs.device.answers.headD true
def acceptsSecond (bs : BrightnessService) : Bool := bs.device.answers.tail.headD true

/-- When the panel takes the level at the end of the boost, the cached setting is the setting,
and stands for the level shown; when it does not, it did not take the boost either or shows the
level of the boost anyway. -/
def CacheFits (bs : BrightnessService) : Prop :=
  bs.hasQueue = true →
    if acceptsSecond bs then
      bs.deviceLevel bs.cachedSettingBrightness = bs.shown ∧
        ∀ value ∈ bs.settings.brightness, bs.getSafeBrightness bs.cachedSettingBrightness = value
    else acceptsFirst bs = true → bs.deviceLevel bs.param.maxBrightness = bs.shown

structure Raised (bs u : BrightnessService) : Prop where
  device : u.device =
    (bs.device.setBrightness bs.displayId (bs.deviceLevel bs.param.maxBrightness)).1
  same : u = { bs with
    waitForFirstLux := false
    isBrightnessBoosted := true
    cancelBoostTaskHandle := u.cancelBoostTaskHandle
    tasks := u.tasks
    device := u.device }
  written : ∀ p ∈ u.tasks.pending, p.2.writesSetting = false
  default : ∀ id duration, (id, .cancelBoostBrightness duration) ∈ u.tasks.pending → duration = 0

theorem accepts_of_ready {bs : BrightnessService} (h : Ready bs) (hqueue : bs.hasQueue = true) :
    bs.AcceptsBoost (.boostBrightness 0) := by
  refine ⟨?_, hqueue⟩
  simp [canBoostBrightness, isScreenOn, h.screen, h.free, DisplayState.isScreenOn]

theorem halted_of_still {bs : BrightnessService} (h : bs.dimming.isDimming = false) :
    bs.halted = { bs with waitForFirstLux := false } := by
  rw [halted, stopIfDimming]
  rw [if_neg (by simp [h])]

theorem updateBrightness_still {bs : BrightnessService} (h : bs.dimming.isDimming = false)
    (value : ℕ) :
    (bs.updateBrightness value 0 false).1 =
      { bs with
        waitForFirstLux := false
        device := (bs.device.setBrightness bs.displayId (bs.deviceLevel value)).1 } := by
  rw [updateBrightness_now, halted_of_still h]
  simp only [Bool.and_false, Bool.false_eq_true, if_false]

theorem Raised.resubmit {bs u : BrightnessService} (h : Raised bs u) :
    Raised bs
      { u with
        tasks := (ffrtCancel u.tasks u.hasQueue u.cancelBoostTaskHandle).1.submit
          (.cancelBoostBrightness 0)
        cancelBoostTaskHandle :=
          some (ffrtCancel u.tasks u.hasQueue u.cancelBoostTaskHandle).1.next } := by
  refine ⟨h.device, ?_, ?_, ?_⟩
  · rw [h.same]
  · intro p hp
    rcases List.mem_append.mp hp with hp | hp
    · exact h.written p (mem_ffrtCancel hp)
    · rw [List.mem_singleton.mp hp]
      rfl
  · intro id duration hp
    rcases List.mem_append.mp hp with hp | hp
    · exact h.default id duration (mem_ffrtCancel hp)
    · have htask := (Prod.mk.inj (List.mem_singleton.mp hp)).2
      exact BrightnessTask.cancelBoostBrightness.inj htask

theorem raised_first {bs : BrightnessService} (hreach : Reachable bs) (h : Ready bs)
    (hqueue : bs.hasQueue = true) : Raised bs (bs.boostBrightness 0).1 := by
  have hcan := (accepts_of_ready h hqueue).1
  have hone := BoostAndOverride.Reachable.oneEnd hreach
  rw [boostBrightness]
  rw [if_neg (by simp [hcan, hqueue]), if_neg (by simp [h.unboosted])]
  dsimp only
  rw [updateBrightness_still (by exact h.still)]
  refine Raised.resubmit ⟨rfl, rfl, h.written, ?_⟩
  intro id duration hp
  exact absurd ⟨duration, hp⟩ (hone.unboosted h.unboosted id)

theorem Raised.again {bs u : BrightnessService} (h : Raised bs u) (hready : Ready bs)
    (hqueue : bs.hasQueue = true) : Raised bs (u.boostBrightness 0).1 := by
  have hcan : u.canBoostBrightness = true ∧ u.hasQueue = true ∧ u.isBrightnessBoosted = true := by
    rw [h.same]
    exact ⟨(accepts_of_ready hready hqueue).1, hqueue, rfl⟩
  rw [boostBrightness]
  rw [if_neg (by simp [hcan]), if_pos hcan.2.2]
  exact h.resubmit

theorem raised_boosts {bs : BrightnessService} (hreach : Reachable bs) (hready : Ready bs)
    (hqueue : bs.hasQueue = true) {n : ℕ} {u : BrightnessService}
    (hrun : Runs.run step bs (boosts (n + 1)) = some u) : Raised bs u := by
  induction n generalizing u with
  | zero =>
    cases hrun
    exact raised_first hreach hready hqueue
  | succ n ih =>
    rw [boosts, List.replicate_succ', Runs.run_append_some] at hrun
    obtain ⟨v, hv, hvu⟩ := hrun
    cases hvu
    exact (ih hv).again hready hqueue

def endedDevice (bs : BrightnessService) : Device × Bool :=
  (bs.device.setBrightness bs.displayId (bs.deviceLevel bs.param.maxBrightness)).1.setBrightness
    bs.displayId (bs.deviceLevel bs.cachedSettingBrightness)

/-- What is left of `bs` when the boost is over: the level of the cached setting, and a task
that writes it when the panel took it. -/
structure Ended (bs t : BrightnessService) : Prop where
  device : t.device = (endedDevice bs).1
  displayId : t.displayId = bs.displayId
  settings : t.settings = bs.settings
  writes : ∀ id task, (id, task) ∈ t.tasks.pending → task.writesSetting = true →
    (endedDevice bs).2 = true ∧
      task = .settingBrightness (bs.getSafeBrightness bs.cachedSettingBrightness)
  queued : (endedDevice bs).2 = true →
    ∃ id, (id, .settingBrightness (bs.getSafeBrightness bs.cachedSettingBrightness))
      ∈ t.tasks.pending

theorem ended_of_raised {bs u : BrightnessService} (h : Raised bs u) (hready : Ready bs)
    {tasks : Tasks BrightnessTask} (hsub : ∀ p ∈ tasks.pending, p ∈ u.tasks.pending)
    (handle : Option ℕ) :
    Ended bs ({ u with
      tasks := tasks
      cancelBoostTaskHandle := handle
      isBrightnessBoosted := false }.updateBrightness u.cachedSettingBrightness 0 true).1 := by
  have hold : ∀ p ∈ tasks.pending, p.2.writesSetting = false :=
    fun p hp => h.written p (hsub p hp)
  have hcached : u.cachedSettingBrightness = bs.cachedSettingBrightness := by rw [h.same]
  have hlow : ({ u with
      tasks := tasks
      cancelBoostTaskHandle := handle
      isBrightnessBoosted := false } : BrightnessService) =
      { bs with
        waitForFirstLux := false
        tasks := tasks
        cancelBoostTaskHandle := handle
        isBrightnessBoosted := false
        device := (bs.device.setBrightness bs.displayId
          (bs.deviceLevel bs.param.maxBrightness)).1 } := by
    rw [← h.device, h.same]
  rw [hlow, hcached, updateBrightness_now, halted_of_still (by exact hready.still)]
  dsimp only
  change Ended bs (if ((endedDevice bs).2 && true) = true then _ else _)
  by_cases haccept : (endedDevice bs).2 = true
  · rw [if_pos (by simp [haccept])]
    refine ⟨rfl, rfl, rfl, ?_, ?_⟩
    · intro id task hp hwrite
      refine ⟨haccept, ?_⟩
      rcases List.mem_append.mp hp with hp | hp
      · exact absurd ((hold _ hp).symm.trans hwrite) (by simp)
      · exact (Prod.mk.inj (List.mem_singleton.mp hp)).2
    · intro _
      exact ⟨_, List.mem_append_right _ (List.mem_singleton.mpr rfl)⟩
  · rw [if_neg (by simp [haccept])]
    refine ⟨rfl, rfl, rfl, ?_, fun h => absurd h haccept⟩
    intro id task hp hwrite
    exact absurd ((hold _ hp).symm.trans hwrite) (by simp)

/-- Either end of a boost is that end. -/
theorem Raised.ends {bs u t : BrightnessService} (h : Raised bs u) (hready : Ready bs)
    (hqueue : bs.hasQueue = true) {e : BrightnessEvent} (he : EndsBoost u e)
    (ht : u.step e = some t) : Ended bs t := by
  have hboosted : u.isBrightnessBoosted = true ∧ u.hasQueue = true := by
    rw [h.same]
    exact ⟨rfl, hqueue⟩
  rcases he with rfl | ⟨id, rfl, duration, hp⟩
  · rw [← Option.some.inj ht, cancelBoostBrightness]
    rw [if_neg (by simp [hboosted])]
    exact ended_of_raised h hready (fun _ => mem_ffrtCancel) _
  · obtain rfl := h.default id duration hp
    have hrun := runTask_eq (Tasks.find?_eq_some.mpr hp)
    have ht := Option.some.inj (hrun.symm.trans ht)
    rw [← ht, perform, cancelBoostBrightness]
    rw [if_neg (by simp [hboosted])]
    exact ended_of_raised h hready
      (fun _ hp => (Tasks.mem_remove.mp (mem_ffrtCancel hp)).1) _

theorem accepted_second (bs : BrightnessService) :
    (endedDevice bs).2 = acceptsSecond bs := rfl

theorem level_ended (bs : BrightnessService) :
    (endedDevice bs).1.level bs.displayId =
      if acceptsSecond bs then bs.deviceLevel bs.cachedSettingBrightness
      else if acceptsFirst bs then bs.deviceLevel bs.param.maxBrightness
      else bs.shown := by
  rw [endedDevice, setBrightness_level, setBrightness_level]
  rfl

theorem restored_of_fits {bs t : BrightnessService} (hfits : CacheFits bs)
    (hqueue : bs.hasQueue = true) (ht : Ended bs t) :
    Restored bs t ∧ ∀ id task w, (id, task) ∈ t.tasks.pending → task.writesSetting = true →
      t.runTask id = some w → Restored bs w := by
  have hfits := hfits hqueue
  have hshown : t.shown = bs.shown := by
    rw [shown, ht.device, ht.displayId, level_ended]
    cases hsecond : acceptsSecond bs with
    | true =>
      rw [hsecond, if_pos rfl] at hfits
      rw [if_pos rfl]
      exact hfits.1
    | false =>
      rw [hsecond, if_neg (by simp)] at hfits
      rw [if_neg (by simp)]
      cases hfirst : acceptsFirst bs with
      | true => exact hfits hfirst
      | false => rfl
  refine ⟨⟨hshown, by rw [ht.settings]⟩, ?_⟩
  intro id task w hp hwrite hw
  obtain ⟨haccept, rfl⟩ := ht.writes id task hp hwrite
  rw [accepted_second] at haccept
  rw [haccept, if_pos rfl] at hfits
  have hrun := Option.some.inj ((runTask_eq (Tasks.find?_eq_some.mpr hp)).symm.trans hw)
  rw [← hrun]
  refine ⟨hshown, ?_⟩
  change t.settings.brightness.map _ = _
  rw [ht.settings]
  cases hsetting : bs.settings.brightness with
  | none => rfl
  | some value => exact congrArg some (hfits.2 value hsetting)

/-- One boost and the request that ends it tell whether the cached setting fits. -/
theorem fits_of_roundTrip {bs : BrightnessService} (hreach : Reachable bs) (hready : Ready bs)
    (h : RoundTrip bs) : CacheFits bs := by
  intro hqueue
  have hraised := raised_first hreach hready hqueue
  obtain ⟨hrestored, hwritten⟩ := h 1 (bs.boostBrightness 0).1 (.cancelBoostBrightness 0) _
    (by omega) rfl (Or.inl rfl) rfl
  have hended := hraised.ends hready hqueue (Or.inl rfl) rfl
  generalize ((bs.boostBrightness 0).1.cancelBoostBrightness 0).1 = t at hrestored hwritten hended
  have hshown := hrestored.1
  rw [shown, hended.device, hended.displayId, level_ended] at hshown
  cases hsecond : acceptsSecond bs with
  | true =>
    rw [if_pos rfl]
    rw [hsecond, if_pos rfl] at hshown
    refine ⟨hshown, ?_⟩
    intro value hvalue
    obtain ⟨id, hp⟩ := hended.queued ((accepted_second bs).trans hsecond)
    have hsetting := (hwritten id _ _ hp rfl (runTask_eq (Tasks.find?_eq_some.mpr hp))).2
    change t.settings.brightness.map _ = _ at hsetting
    rw [hended.settings, Option.mem_def.mp hvalue] at hsetting
    exact Option.some.inj hsetting
  | false =>
    rw [if_neg (by simp)]
    intro hfirst
    rw [hsecond, hfirst] at hshown
    exact hshown

theorem boosts_refused {bs : BrightnessService} (hqueue : ¬ bs.hasQueue = true) {n : ℕ}
    {u : BrightnessService} (hrun : Runs.run step bs (boosts n) = some u) : u = bs := by
  induction n with
  | zero => exact (Option.some.inj hrun).symm
  | succ n ih =>
    obtain ⟨v, hv, hvu⟩ := Runs.run_cons_some.mp hrun
    have hrefused : bs.boostBrightness 0 = (bs, false) :=
      boostBrightness_refused fun h => hqueue h.2
    rw [step, hrefused] at hv
    cases hv
    exact ih hvu

/-- Boosts and their end restore the panel and the setting exactly when the cached setting is
the one in force. -/
theorem roundTrip_iff {bs : BrightnessService} (hreach : Reachable bs) (hready : Ready bs) :
    RoundTrip bs ↔ CacheFits bs := by
  refine ⟨fits_of_roundTrip hreach hready, ?_⟩
  intro hfits n u e t hn hrun he ht
  by_cases hqueue : bs.hasQueue = true
  · obtain ⟨n, rfl⟩ := Nat.exists_eq_succ_of_ne_zero (by omega : n ≠ 0)
    exact restored_of_fits hfits hqueue
      ((raised_boosts hreach hready hqueue hrun).ends hready hqueue he ht)
  · obtain rfl := boosts_refused hqueue hrun
    have hsame : t = u := by
      rcases he with rfl | ⟨id, rfl, hends⟩
      · rw [step, cancelBoostBrightness, if_pos (by simp [hqueue])] at ht
        exact (Option.some.inj ht).symm
      · exact absurd hends
          ((BoostAndOverride.Reachable.oneEnd hreach).unboosted hready.unboosted id)
    rw [hsame]
    refine ⟨⟨rfl, rfl⟩, ?_⟩
    intro id task w hp hwrite
    exact absurd ((hready.written _ hp).symm.trans hwrite) (by simp)

def written100 : BrightnessService :=
  let set100 := (({ state := .on : BrightnessBoot }.start).setBrightness 100 0 false).1
  { set100 with tasks := set100.tasks.remove 0 }.setSettingBrightness 100

def draggedTo200 : BrightnessService := (written100.setBrightness 200 0 true).1

theorem written100_reachable : Reachable written100 := by
  have hfind : (({ state := .on : BrightnessBoot }.start).setBrightness 100 0 false).1.tasks.find?
      0 = some (.settingBrightness 100) := by decide +kernel
  exact ⟨_, [.setBrightness 100 0 false, .runTask 0], ⟨{ state := .on }, rfl⟩,
    Runs.run_cons_some.mpr ⟨_, rfl, Runs.run_cons_some.mpr ⟨_, runTask_eq hfind, rfl⟩⟩⟩

theorem draggedTo200_reachable : Reachable draggedTo200 :=
  Runs.Reachable.next (e := .setBrightness 200 0 true) written100_reachable rfl

theorem written100_ready : Ready written100 :=
  ⟨by decide +kernel, by decide +kernel, by decide +kernel, by decide +kernel, by decide +kernel⟩

theorem draggedTo200_ready : Ready draggedTo200 :=
  ⟨by decide +kernel, by decide +kernel, by decide +kernel, by decide +kernel, by decide +kernel⟩

/-- The end of the boost puts the panel to the cached 100. -/
theorem boost_undoes_drag : ¬ AlwaysRoundTrip := by
  intro h
  have hrestored := (h draggedTo200 draggedTo200_reachable draggedTo200_ready 1 _
    (.cancelBoostBrightness 0) _ (by omega) rfl (Or.inl rfl) rfl).1
  exact absurd hrestored.1 (by decide +kernel)

/-- Right after the setting was written the cache fits. -/
theorem written100_round_trip : RoundTrip written100 := by
  refine (roundTrip_iff written100_reachable written100_ready).mpr ?_
  intro _
  rw [if_pos (by decide +kernel)]
  exact ⟨by decide +kernel, by decide +kernel⟩

end BoostRoundTrip

end DisplayPowerMgr
