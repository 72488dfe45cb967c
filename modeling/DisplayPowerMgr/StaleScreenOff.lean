import DisplayPowerMgr.OneDisplay

/-! A screen-on request and the delayed screen-offs submitted before it: when it cancels every
one of them, and what one that is left over does later. -/
namespace DisplayPowerMgr.StaleScreenOff

open DisplayPowerMgrService
open ScreenController (isNeedSkipNextProc)

def RequestsOff : DisplayEvent → Prop
  | .setDisplayState _ _ state _ _ => state = .off ∨ state = .doze
  | _ => False

instance : DecidablePred RequestsOff
  | .setDisplayState _ _ state _ _ => inferInstanceAs (Decidable (state = .off ∨ state = .doze))
  | .overrideDisplayOffDelay _ _ => inferInstanceAs (Decidable False)
  | .screenOffDelay _ _ => inferInstanceAs (Decidable False)
  | .updateScreenPowerState _ _ => inferInstanceAs (Decidable False)
  | .brightness _ => inferInstanceAs (Decidable False)

/-- After a screen-on request that answered yes, and without a request for off or doze since,
a delayed screen-off submitted before it that fires leaves the display on. -/
def OnIsKept (s : DisplayPowerMgrService) : DisplayEvent → Prop
  | .setDisplayState isSystem id state reason hw =>
    state = .on → (s.setDisplayStateInner isSystem id state reason hw).2 = true →
    ∀ es u, (∀ e ∈ es, e.IsPower ∧ e.Succeeds ∧ ¬RequestsOff e) →
      Runs.run step (s.setDisplayStateInner isSystem id state reason hw).1 es = some u →
    ∀ task hw' v, task < s.screenOffDelayTasks.next → hw'.Succeeds →
      u.runScreenOffDelay task hw' = some v → u.mainState = .on → v.mainState = .on
  | _ => True

def CancelsAll (s : DisplayPowerMgrService) : Prop :=
  ∀ p ∈ s.screenOffDelayTasks.pending,
    s.isDisplayDelayOff = true ∧ s.screenOffDelayTaskHandle = some p.1

/-- An accepted screen-on request answers yes. -/
def AnswersYes (s : DisplayPowerMgrService) (c : ScreenController) (reason : StateChangeReason) :
    Prop :=
  s.isDisplayDelayOff = true ∨ isNeedSkipNextProc reason = false ∨
    reason = .preBright ∧ c.state = .on

/-- A screen-on request that answers yes finds no pending screen-off that it would leave; with
a stored reason that interrupts updates, one left over cannot do harm. -/
def LeavesNone (s : DisplayPowerMgrService) : DisplayEvent → Prop
  | .setDisplayState isSystem id state reason _ =>
    state = .on → isSystem = true → ∀ id' c, s.findController id = some (id', c) →
      AnswersYes s c reason → CancelsAll s ∨ isNeedSkipNextProc s.displayReason = true
  | _ => True

theorem isOn_not_ignored {c : ScreenController} {reason : StateChangeReason}
    (h : c.ignores .on reason = true) : c.state = .on := by
  rcases ScreenController.ignores_iff.mp h with ⟨_, hc⟩ | ⟨hdim, _⟩
  · exact hc.symm
  · cases hdim

theorem updateState_on {c : ScreenController} {host : DisplayHost} {reason : StateChangeReason}
    {hw : HwAnswer} (hyes : (c.updateState host .on reason hw).2.2 = true) :
    (c.updateState host .on reason hw).1.state = .on := by
  rw [ScreenController.updateState_yes hyes, if_neg (by simp)]

theorem updateState_on_yes_iff {c : ScreenController} (host : DisplayHost)
    (reason : StateChangeReason) {hw : HwAnswer} (hhw : hw.Succeeds) :
    (c.updateState host .on reason hw).2.2 = true ↔
      isNeedSkipNextProc reason = false ∨ reason = .preBright ∧ c.state = .on := by
  have hsome := ScreenController.commandState_isSome c host .on reason hhw
  have hupdate := ScreenController.updateState_update c host .on reason hw
  generalize c.updateState host .on reason hw = r at hupdate ⊢
  cases hupdate with
  | ignored h =>
    have hon := isOn_not_ignored h
    have hne : reason ≠ .preBrightAuthFailScreenOff := by
      rcases ScreenController.ignores_iff.mp h with ⟨hne, _⟩ | ⟨hdim, _⟩
      · exact hne
      · cases hdim
    simp only [true_iff]
    cases hskip : isNeedSkipNextProc reason with
    | false => exact Or.inl rfl
    | true =>
      rcases ScreenController.isNeedSkipNextProc_iff.mp hskip with hr | hr
      · exact Or.inr ⟨hr, hon⟩
      · exact absurd hr hne
  | refused _ command =>
    rw [command] at hsome
    cases hsome
  | interrupted h _ _ skip =>
    simp only [Bool.false_eq_true, false_iff, not_or, not_and]
    refine ⟨by simp [skip], ?_⟩
    intro hr hon
    exact (ScreenController.ne_of_not_ignored h (by simp [hr])).1 hon.symm
  | cached _ _ _ noSkip => simp [noSkip]

/-- What a screen-on request that answered yes leaves: the display on, and of the pending
screen-offs those that it did not cancel. -/
theorem after_on {s : DisplayPowerMgrService} (hone : s.OneDisplay) {isSystem : Bool} {id : ℕ}
    {reason : StateChangeReason} {hw : HwAnswer}
    (hyes : (s.setDisplayStateInner isSystem id .on reason hw).2 = true) :
    (s.setDisplayStateInner isSystem id .on reason hw).1.mainState = .on ∧
      (s.setDisplayStateInner isSystem id .on reason hw).1.displayReason = s.displayReason ∧
      (s.setDisplayStateInner isSystem id .on reason hw).1.screenOffDelayTasks =
        if s.isDisplayDelayOff then
          cancelTask s.screenOffDelayTasks s.screenOffDelayTaskHandle
        else s.screenOffDelayTasks := by
  rcases hone.request_cases isSystem id .on reason hw with
    ⟨_, heq⟩ | ⟨c, _, _, _, hchange⟩
  · rw [heq] at hyes
    cases hyes
  · generalize s.setDisplayStateInner isSystem id .on reason hw = r at hyes hchange ⊢
    cases hchange with
    | submitted _ isOff => simp at isOff
    | cancelled armed =>
      have harmed : s.isDisplayDelayOff = true := armed
      exact ⟨mainState_setController _ _, rfl, by rw [if_pos harmed]; rfl⟩
    | applied t free same =>
      have hfree : ¬s.isDisplayDelayOff = true := fun h => (free h).2.2 rfl
      rw [if_neg hfree]
      refine ⟨?_, by rw [same]; rfl, by rw [same]; rfl⟩
      rw [same.mainState_eq]
      exact (updateState_main (s.setBrightnessState .on) c .on reason hw).trans
        (updateState_on hyes)

theorem fire_keeps {s v : DisplayPowerMgrService} (h : StoredOff s) {task : ℕ} {hw : HwAnswer}
    (hskip : isNeedSkipNextProc s.displayReason = true)
    (hfire : s.runScreenOffDelay task hw = some v) : v.mainState = s.mainState := by
  obtain ⟨c, hc⟩ := h.1.exists_main
  rw [(fire_main h hc hfire).1, ScreenController.updateState_skipped s.host hw hskip,
    mainState_eq hc]

theorem fire_turns_off {s v : DisplayPowerMgrService} (h : StoredOff s) {task : ℕ}
    {hw : HwAnswer} (hhw : hw.Succeeds) (hskip : isNeedSkipNextProc s.displayReason = false)
    (hon : s.mainState = .on) (hfire : s.runScreenOffDelay task hw = some v) :
    v.mainState ≠ .on := by
  obtain ⟨c, hc⟩ := h.1.exists_main
  obtain ⟨hmain, _, hoff⟩ := fire_main h hc hfire
  have hcon : c.state = .on := (mainState_eq hc).symm.trans hon
  have hignore : c.ignores s.displayState s.displayReason = false := by
    rcases hoff with hoff | hoff <;> simp [ScreenController.ignores, hoff, hcon]
  rw [hmain, (ScreenController.updateState_cached s.host hhw hignore hskip).1]
  rcases hoff with hoff | hoff <;> simp [hoff]

/-- Without requests for off or doze, no screen-off joins the pending ones and the stored reason
stays. -/
theorem step_quiet {s t : DisplayPowerMgrService} {e : DisplayEvent} (hquiet : ¬RequestsOff e)
    (hstep : s.step e = some t) :
    (∀ p ∈ t.screenOffDelayTasks.pending, p ∈ s.screenOffDelayTasks.pending) ∧
      t.displayReason = s.displayReason := by
  cases step_delay hstep with
  | kept same =>
    rw [same]
    exact ⟨fun p hp => hp, rfl⟩
  | submitted _ _ _ _ _ isOff => exact absurd isOff hquiet
  | cancelled _ _ _ same =>
    rw [same]
    exact ⟨fun p hp => (mem_cancelTask.mp hp).1, rfl⟩
  | overridden _ _ _ same =>
    rw [same]
    exact ⟨fun p hp => hp, rfl⟩
  | fired _ _ same =>
    rw [same]
    exact ⟨fun p hp => (Tasks.mem_remove.mp hp).1, rfl⟩

theorem run_quiet {s t : DisplayPowerMgrService} {es : List DisplayEvent}
    (hquiet : ∀ e ∈ es, ¬RequestsOff e) (hrun : Runs.run step s es = some t) :
    (∀ p ∈ t.screenOffDelayTasks.pending, p ∈ s.screenOffDelayTasks.pending) ∧
      t.displayReason = s.displayReason := by
  apply Runs.run_invariant_of (P := fun e => ¬RequestsOff e)
    (J := fun u => (∀ p ∈ u.screenOffDelayTasks.pending, p ∈ s.screenOffDelayTasks.pending) ∧
      u.displayReason = s.displayReason) _ _ hquiet hrun
  · intro u e v hu he hstep
    have hnext := step_quiet he hstep
    exact ⟨fun p hp => hu.1 p (hnext.1 p hp), hnext.2.trans hu.2⟩
  · exact ⟨fun p hp => hp, rfl⟩

theorem on_yes_iff {s : DisplayPowerMgrService} {id id' : ℕ} {c : ScreenController}
    (hfind : s.findController id = some (id', c)) (reason : StateChangeReason) {hw : HwAnswer}
    (hhw : hw.Succeeds) :
    (s.setDisplayStateInner true id .on reason hw).2 = true ↔ AnswersYes s c reason := by
  have hchange := setDisplayStateInner_change hfind .on reason hw
  generalize s.setDisplayStateInner true id .on reason hw = r at hchange ⊢
  cases hchange with
  | submitted _ isOff => simp at isOff
  | cancelled armed => exact iff_of_true rfl (Or.inl armed)
  | applied t free _ =>
    have hfree : ¬s.isDisplayDelayOff = true := fun h => (free h).2.2 rfl
    rw [AnswersYes, or_iff_right hfree]
    exact updateState_on_yes_iff _ reason hhw

theorem mem_after_on {s : DisplayPowerMgrService} {p : ℕ × DelayedRequest} :
    p ∈ (if s.isDisplayDelayOff then
          cancelTask s.screenOffDelayTasks s.screenOffDelayTaskHandle
        else s.screenOffDelayTasks).pending ↔
      p ∈ s.screenOffDelayTasks.pending ∧
        ¬(s.isDisplayDelayOff = true ∧ s.screenOffDelayTaskHandle = some p.1) := by
  by_cases harmed : s.isDisplayDelayOff = true
  · rw [if_pos harmed, mem_cancelTask]
    simp [harmed]
  · rw [if_neg harmed]
    simp [harmed]

theorem onIsKept_of_leavesNone {s : DisplayPowerMgrService} {e : DisplayEvent}
    (h : StoredOff s) (he : e.Succeeds) (hcond : LeavesNone s e) : OnIsKept s e := by
  cases e with
  | setDisplayState isSystem id state reason hw =>
    rintro rfl hyes es u hes hrun task hw' v _ _ hfire hon
    obtain ⟨_, hreason, htasks⟩ := after_on h.1 hyes
    have hquiet := run_quiet (fun e he => (hes e he).2.2) hrun
    have hstored : StoredOff (s.setDisplayStateInner isSystem id .on reason hw).1 :=
      step_storedOff (e := .setDisplayState isSystem id .on reason hw) h rfl
    have hu : StoredOff u := Runs.run_invariant_of (P := fun _ => True)
      (fun a e b ha _ hab => step_storedOff ha hab) hstored (fun _ _ => trivial) hrun
    rcases setDisplayStateInner_cases s isSystem id .on reason hw with
      ⟨_, heq⟩ | ⟨id', c, rfl, hfind, _⟩
    · rw [heq] at hyes
      cases hyes
    · rcases hcond rfl rfl id' c hfind ((on_yes_iff hfind reason he).mp hyes) with hall | hskip
      · obtain ⟨request, hmem, _⟩ := runScreenOffDelay_some hfire
        have hleft := hquiet.1 _ hmem
        rw [htasks, mem_after_on] at hleft
        exact absurd (hall _ hleft.1) hleft.2
      · rw [fire_keeps hu (by rw [hquiet.2, hreason, hskip]) hfire]
        exact hon
  | _ => trivial

theorem leavesNone_of_onIsKept {s : DisplayPowerMgrService} {e : DisplayEvent}
    (h : StoredOff s) (he : e.Succeeds) (hkept : OnIsKept s e) : LeavesNone s e := by
  cases e with
  | setDisplayState isSystem id state reason hw =>
    rintro rfl rfl id' c hfind hanswer
    have hyes := (on_yes_iff hfind reason he).mpr hanswer
    obtain ⟨hon, hreason, htasks⟩ := after_on h.1 hyes
    cases hskip : isNeedSkipNextProc s.displayReason with
    | true => exact Or.inr rfl
    | false =>
      -- a screen-off left over fires at once and turns the display off
      left
      by_contra hnot
      obtain ⟨p, hp, hleft⟩ : ∃ p ∈ s.screenOffDelayTasks.pending,
          ¬(s.isDisplayDelayOff = true ∧ s.screenOffDelayTaskHandle = some p.1) := by
        simpa [CancelsAll] using hnot
      have hstored : StoredOff (s.setDisplayStateInner true id .on reason hw).1 :=
        step_storedOff (e := .setDisplayState true id .on reason hw) h rfl
      have hmem := (mem_after_on (s := s)).mpr ⟨hp, hleft⟩
      rw [← htasks] at hmem
      have hfire := runScreenOffDelay_of_mem hmem {}
      have hsucc : ({} : HwAnswer).Succeeds := ⟨rfl, rfl⟩
      exact fire_turns_off hstored hsucc (by rw [hreason, hskip]) hon hfire
        (hkept rfl hyes [] _ (by simp) rfl p.1 {} _ (s.screenOffDelayTasks.fresh p hp) hsucc
          hfire hon)
  | _ => trivial

/-- Along a run of one display from its boot, no screen-on request is undone by a screen-off
submitted before it, if and only if none of them leaves one. -/
theorem on_is_kept_iff {boot : DisplayBoot} (hone : boot.start.OneDisplay)
    {es : List DisplayEvent} (hes : ∀ e ∈ es, e.IsPower ∧ e.Succeeds) :
    Runs.Always step OnIsKept boot.start es ↔ Runs.Always step LeavesNone boot.start es := by
  apply Runs.always_congr (J := StoredOff) (P := fun e => e.IsPower ∧ e.Succeeds) _ _
    (start_storedOff hone) hes
  · intro s e t hs _ hstep
    exact step_storedOff hs hstep
  · intro s e hs he
    exact ⟨leavesNone_of_onIsKept hs he.2, onIsKept_of_leavesNone hs he.2⟩

/-- No delayed request while another one is pending, and no override either. -/
def OneAtATime (s : DisplayPowerMgrService) : DisplayEvent → Prop
  | .setDisplayState isSystem id state _ _ =>
    isSystem = true → s.findController id ≠ none → s.isDisplayDelayOff = true →
      state = .off ∨ state = .doze → s.screenOffDelayTasks.pending = []
  | .overrideDisplayOffDelay isSystem _ =>
    isSystem = true → s.screenOffDelayTasks.pending = []
  | _ => True

def SoleTask (s : DisplayPowerMgrService) : Prop :=
  s.screenOffDelayTasks.pending = [] ∨
    s.isDisplayDelayOff = true ∧ ∃ p, s.screenOffDelayTasks.pending = [p] ∧
      s.screenOffDelayTaskHandle = some p.1

theorem SoleTask.cancelsAll {s : DisplayPowerMgrService} (h : SoleTask s) : CancelsAll s := by
  intro q hq
  rcases h with hnil | ⟨harmed, p, hp, hhandle⟩
  · rw [hnil] at hq
    cases hq
  · rw [hp] at hq
    cases List.mem_singleton.mp hq
    exact ⟨harmed, hhandle⟩

theorem SoleTask.cancelTask {s : DisplayPowerMgrService} (h : SoleTask s) :
    (cancelTask s.screenOffDelayTasks s.screenOffDelayTaskHandle).pending = [] := by
  apply List.eq_nil_iff_forall_not_mem.mpr
  intro p hp
  obtain ⟨hmem, hne⟩ := mem_cancelTask.mp hp
  exact hne (h.cancelsAll p hmem).2

theorem SoleTask.remove {s : DisplayPowerMgrService} (h : SoleTask s) {task : ℕ}
    {request : DelayedRequest} (hmem : (task, request) ∈ s.screenOffDelayTasks.pending) :
    (s.screenOffDelayTasks.remove task).pending = [] := by
  rcases h with hnil | ⟨_, p, hp, _⟩
  · rw [hnil] at hmem
    cases hmem
  · rw [hp] at hmem
    cases List.mem_singleton.mp hmem
    exact Tasks.remove_singleton hp

theorem step_soleTask {s t : DisplayPowerMgrService} {e : DisplayEvent} (h : SoleTask s)
    (hcond : OneAtATime s e) (hstep : s.step e = some t) : SoleTask t := by
  cases step_delay hstep with
  | kept same =>
    rw [same]
    exact h
  | @submitted _ _ state reason _ _ id' c permitted find armed isOff same =>
    have hnil := hcond permitted (by simp [find]) armed isOff
    rw [same]
    exact Or.inr ⟨armed, (s.screenOffDelayTasks.next, ⟨id', state, reason⟩),
      congrArg (· ++ _) hnil, rfl⟩
  | cancelled _ _ _ same =>
    rw [same]
    exact Or.inl h.cancelTask
  | overridden _ _ permitted same =>
    rw [same]
    exact Or.inl (hcond permitted)
  | fired _ pending same =>
    rw [same]
    exact Or.inl (h.remove pending)

/-- Callers that keep to one delayed screen-off at a time never lose one. -/
theorem leavesNone_of_oneAtATime {boot : DisplayBoot} {es : List DisplayEvent}
    (h : Runs.Always step OneAtATime boot.start es) :
    Runs.Always step LeavesNone boot.start es := by
  refine Runs.always_of_invariant (J := SoleTask) ?_ ?_ (Or.inl rfl) h
  · intro s e t hs hcond hstep
    exact step_soleTask hs hcond hstep
  · intro s e hs _
    cases e with
    | setDisplayState isSystem id state reason hw =>
      intro _ _ _ _ _ _
      exact Or.inl hs.cancelsAll
    | _ => trivial

/-- One screen-on, delayed off and on again. -/
theorem on_is_kept_after_one_delay :
    Runs.Always step OnIsKept (oneDisplayBoot .on).start
      [.overrideDisplayOffDelay true 10, .setDisplayState true 0 .off (.other 1) {},
        .setDisplayState true 0 .on (.other 1) {}] := by
  refine (on_is_kept_iff (oneDisplayBoot_start .on) (by decide)).mpr ?_
  apply leavesNone_of_oneAtATime
  refine ⟨fun _ => rfl, fun t ht => ⟨?_, fun u _ => ⟨?_, fun _ _ => trivial⟩⟩⟩
  · cases ht
    intro _ _ _ _
    rfl
  · intro _ _ _ hstate
    simp at hstate

/-- Two delayed screen-offs, and the screen-on request in between cancels only the second. -/
theorem first_delay_survives :
    ¬∀ boot : DisplayBoot, boot.start.OneDisplay → ∀ es : List DisplayEvent,
      (∀ e ∈ es, e.IsPower ∧ e.Succeeds) → Runs.Always step OnIsKept boot.start es := by
  intro h
  have hrun := h (oneDisplayBoot .on) (oneDisplayBoot_start .on)
    [.overrideDisplayOffDelay true 10, .setDisplayState true 0 .off (.other 1) {},
      .setDisplayState true 0 .off (.other 1) {}, .setDisplayState true 0 .on (.other 1) {}]
    (by decide)
  have hkept := (((hrun.2 _ rfl).2 _ rfl).2 _ rfl).1
  have hoff := hkept rfl rfl [] _ (by simp) rfl 0 {} _ (by decide) ⟨rfl, rfl⟩ rfl rfl
  exact absurd hoff (by decide)

end DisplayPowerMgr.StaleScreenOff
