import DisplayPowerMgr.DisplayPowerRuns

/-! Delayed screen-offs of several displays: whose request a firing applies, and what a
screen-on request for one display does to those of the others. -/
namespace DisplayPowerMgr.DelayedRequests

open DisplayPowerMgrService

/-- The request that the next firing reads, whichever task it is. -/
def storedRequest (s : DisplayPowerMgrService) : DelayedRequest :=
  ⟨s.displayId, s.displayState, s.displayReason⟩

def Owns (s : DisplayPowerMgrService) : Prop :=
  ∀ p ∈ s.screenOffDelayTasks.pending, storedRequest s = p.2

/-- A screen-off that fires applies the request that submitted it. -/
def FiresOwn (s : DisplayPowerMgrService) : DisplayEvent → Prop
  | .screenOffDelay task hw =>
    ∀ request, (task, request) ∈ s.screenOffDelayTasks.pending →
      s.runScreenOffDelay task hw =
        some ({ s with screenOffDelayTasks := s.screenOffDelayTasks.remove task }.screenOffDelay
          request.displayId request.displayState request.displayReason hw)
  | _ => True

def KeepsOthers (s : DisplayPowerMgrService) : DisplayEvent → Prop
  | .setDisplayState isSystem id state reason hw =>
    state = .on → ∀ id' c, s.findController id = some (id', c) →
      ∀ p ∈ s.screenOffDelayTasks.pending, p.2.displayId ≠ id' →
        p ∈ (s.setDisplayStateInner isSystem id state reason hw).1.screenOffDelayTasks.pending
  | _ => True

/-- A delayed request is made only while the pending ones are the same. -/
def SameRequest (s : DisplayPowerMgrService) : DisplayEvent → Prop
  | .setDisplayState isSystem id state reason _ =>
    isSystem = true → s.isDisplayDelayOff = true → state = .off ∨ state = .doze →
      ∀ id' c, s.findController id = some (id', c) →
        ∀ p ∈ s.screenOffDelayTasks.pending, p.2 = ⟨id', state, reason⟩
  | _ => True

/-- A screen-on request while the delay is armed is for the display of the screen-off that the
handle names, if that one is pending. -/
def OwnScreenOn (s : DisplayPowerMgrService) : DisplayEvent → Prop
  | .setDisplayState isSystem id state _ _ =>
    isSystem = true → s.isDisplayDelayOff = true → state = .on →
      ∀ id' c, s.findController id = some (id', c) →
        ∀ p ∈ s.screenOffDelayTasks.pending, s.screenOffDelayTaskHandle = some p.1 →
          p.2.displayId = id'
  | _ => True

theorem found_not_rejected {s : DisplayPowerMgrService} {isSystem : Bool} {id : ℕ}
    {found : ℕ × ScreenController} (hrejected : isSystem = false ∨ s.findController id = none)
    (hsystem : isSystem = true) : s.findController id ≠ some found := by
  rw [hrejected.resolve_left (by simp [hsystem])]
  exact nofun

theorem Owns.firesOwn {s : DisplayPowerMgrService} (h : Owns s) (e : DisplayEvent) :
    FiresOwn s e := by
  cases e with
  | screenOffDelay task hw =>
    intro request hmem
    have hown : storedRequest s = request := h _ hmem
    rw [runScreenOffDelay_of_mem hmem, ← hown]
    rfl
  | _ => trivial

theorem owns_of_sameDelay {a b : DisplayPowerMgrService} (h : SameDelay a b) (ha : Owns a) :
    Owns b := by
  rw [h]
  exact ha

theorem request_owns_iff {s : DisplayPowerMgrService} (h : Owns s) (isSystem : Bool) (id : ℕ)
    (state : DisplayState) (reason : StateChangeReason) (hw : HwAnswer) :
    SameRequest s (.setDisplayState isSystem id state reason hw) ↔
      Owns (s.setDisplayStateInner isSystem id state reason hw).1 := by
  rw [SameRequest]
  rcases setDisplayStateInner_cases s isSystem id state reason hw with
    ⟨hrejected, heq⟩ | ⟨id', c, hsystem, hfind, hchange⟩
  · rw [heq]
    refine iff_of_true ?_ h
    intro hsystem _ _ id' c hfind
    exact absurd hfind (found_not_rejected hrejected hsystem)
  · rw [hsystem] at hchange ⊢
    generalize s.setDisplayStateInner true id state reason hw = r at hchange ⊢
    cases hchange with
    | submitted armed isOff =>
      constructor
      · intro hsame p hp
        rcases List.mem_append.mp hp with hold | hnew
        · exact (hsame rfl armed isOff id' c hfind p hold).symm
        · cases List.mem_singleton.mp hnew
          rfl
      · intro howns _ _ _ id₂ c₂ hfind₂ p hp
        rw [hfind] at hfind₂
        cases hfind₂
        exact (howns p (List.mem_append_left _ hp)).symm
    | cancelled _ isOn =>
      refine iff_of_true ?_ ?_
      · intro _ _ hoff
        rw [isOn] at hoff
        simp at hoff
      · intro p hp
        exact h p (mem_cancelTask.mp hp).1
    | applied t free same =>
      refine iff_of_true ?_ ?_
      · intro _ harmed hoff
        rcases hoff with hoff | hoff
        · exact absurd hoff (free harmed).1
        · exact absurd hoff (free harmed).2.1
      · exact owns_of_sameDelay ((updateState_sameDelay _ _ _ _ _ _).trans same.sameDelay) h

theorem step_owns_iff {s : DisplayPowerMgrService} (h : Owns s) (e : DisplayEvent) :
    SameRequest s e ↔ ∀ t, s.step e = some t → Owns t := by
  cases e with
  | setDisplayState isSystem id state reason hw =>
    rw [DisplayPowerMgrService.step]
    simp only [Option.some.injEq, forall_eq']
    exact request_owns_iff h isSystem id state reason hw
  | overrideDisplayOffDelay isSystem delayMs =>
    refine iff_of_true trivial ?_
    rintro t ⟨⟩
    obtain ⟨armed, ms, heq⟩ := overrideDisplayOffDelayInner_fst s isSystem delayMs
    rw [heq]
    exact h
  | screenOffDelay task hw =>
    refine iff_of_true trivial ?_
    intro t hfire
    obtain ⟨_, _, rfl⟩ := runScreenOffDelay_some hfire
    refine owns_of_sameDelay (screenOffDelay_sameDelay _ _ _ _ _) ?_
    intro p hp
    exact h p (Tasks.mem_remove.mp hp).1
  | updateScreenPowerState isSystem isScreenOn =>
    refine iff_of_true trivial ?_
    rintro t ⟨⟩
    exact owns_of_sameDelay (updateScreenPowerState_sameDelay s isSystem isScreenOn) h
  | brightness event =>
    refine iff_of_true trivial ?_
    intro t hstep
    exact owns_of_sameDelay (brightnessStep_sameScreens hstep).sameDelay h

theorem keepsOthers_iff (s : DisplayPowerMgrService) (e : DisplayEvent) :
    KeepsOthers s e ↔ OwnScreenOn s e := by
  cases e with
  | setDisplayState isSystem id state reason hw =>
    rw [KeepsOthers, OwnScreenOn]
    rcases setDisplayStateInner_cases s isSystem id state reason hw with
      ⟨hrejected, heq⟩ | ⟨id', c, hsystem, hfind, hchange⟩
    · rw [heq]
      refine iff_of_true (fun _ _ _ _ p hp _ => hp) ?_
      intro hsystem _ _ id' c hfind
      exact absurd hfind (found_not_rejected hrejected hsystem)
    · rw [hsystem] at hchange ⊢
      generalize s.setDisplayStateInner true id state reason hw = r at hchange ⊢
      cases hchange with
      | submitted _ isOff =>
        have hon : state ≠ .on := by rcases isOff with rfl | rfl <;> simp
        exact iff_of_true (fun h => absurd h hon) (fun _ _ h => absurd h hon)
      | cancelled armed isOn =>
        have harmed : s.isDisplayDelayOff = true := armed
        constructor
        · intro hkeeps _ _ hon id₂ c₂ hfind₂ p hp hhandle
          by_contra hother
          exact (mem_cancelTask.mp (hkeeps hon id₂ c₂ hfind₂ p hp hother)).2 hhandle
        · intro hown hon id₂ c₂ hfind₂ p hp hother
          refine mem_cancelTask.mpr ⟨hp, ?_⟩
          intro hhandle
          exact hother (hown rfl harmed hon id₂ c₂ hfind₂ p hp hhandle)
      | applied t free same =>
        have hsame := ((updateState_sameDelay _ _ _ _ _ _).trans same.sameDelay)
        refine iff_of_true ?_ ?_
        · intro _ _ _ _ p hp _
          rw [hsame]
          exact hp
        · intro _ harmed hon
          exact absurd hon (free harmed).2.2
  | _ => exact Iff.rfl

theorem start_owns (boot : DisplayBoot) : Owns boot.start :=
  fun _ hp => absurd hp List.not_mem_nil

theorem always_owns_iff (boot : DisplayBoot) (es : List DisplayEvent) :
    Runs.Always step (fun s e => ∀ t, s.step e = some t → Owns t) boot.start es ↔
      Runs.Always step SameRequest boot.start es := by
  apply Runs.always_keeps_iff (J := fun _ => True) (P := fun _ => True) _ _ trivial
    (start_owns boot) (fun _ _ => trivial)
  · intro _ _ _ _ _ _
    trivial
  · intro s e _ hs _
    exact step_owns_iff hs e

theorem always_firesOwn {boot : DisplayBoot} {es : List DisplayEvent}
    (h : Runs.Always step SameRequest boot.start es) :
    Runs.Always step FiresOwn boot.start es := by
  refine Runs.always_of_invariant (J := Owns) ?_ ?_ (start_owns boot) h
  · intro s e t hs hsame hstep
    exact (step_owns_iff hs e).mp hsame t hstep
  · intro s e hs _
    exact hs.firesOwn e

/-- Along a run of any number of displays every delayed screen-off that fires applies its own
request, as would every one left pending, and no screen-on request takes away one of another
display, if and only if delayed requests are only repeated and screen-on requests are for the
display that the handle's screen-off is for. -/
theorem own_requests_iff (boot : DisplayBoot) (es : List DisplayEvent) :
    Runs.Always step FiresOwn boot.start es ∧
        Runs.Always step (fun s e => ∀ t, s.step e = some t → Owns t) boot.start es ∧
        Runs.Always step KeepsOthers boot.start es ↔
      Runs.Always step SameRequest boot.start es ∧ Runs.Always step OwnScreenOn boot.start es := by
  have hothers : Runs.Always step KeepsOthers boot.start es ↔
      Runs.Always step OwnScreenOn boot.start es := by
    constructor
    · apply Runs.Always.mono
      intro s e
      exact (keepsOthers_iff s e).mp
    · apply Runs.Always.mono
      intro s e
      exact (keepsOthers_iff s e).mpr
  constructor
  · rintro ⟨_, howns, hkeeps⟩
    exact ⟨(always_owns_iff boot es).mp howns, hothers.mp hkeeps⟩
  · rintro ⟨hsame, hown⟩
    exact ⟨always_firesOwn hsame, (always_owns_iff boot es).mpr hsame, hothers.mpr hown⟩

def twoDisplays : DisplayBoot where
  displays id := if id = 0 ∨ id = 1 then some .on else none
  commanded := .on
  screenPower := .on

/-- The second delayed request takes the first one's place in the service, and the first task
fires for the other display. -/
theorem second_request_retargets :
    ¬∀ (boot : DisplayBoot) (es : List DisplayEvent),
      Runs.Always step FiresOwn boot.start es ∧
        Runs.Always step (fun s e => ∀ t, s.step e = some t → Owns t) boot.start es ∧
        Runs.Always step KeepsOthers boot.start es := by
  intro h
  have hrun := (h twoDisplays
    [.overrideDisplayOffDelay true 10, .setDisplayState true 1 .off (.other 1) {},
      .setDisplayState true 0 .off (.other 2) {}, .screenOffDelay 0 {}]).1
  have hfires := (((hrun.2 _ rfl).2 _ rfl).2 _ rfl).1 ⟨1, .off, .other 1⟩ (by decide)
  have hfirst := congrArg (Option.map fun t => t.getDisplayStateInner 1) hfires
  exact absurd hfirst (by decide)

end DisplayPowerMgr.DelayedRequests
