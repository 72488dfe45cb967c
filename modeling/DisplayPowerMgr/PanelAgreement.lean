import DisplayPowerMgr.OneDisplay

/-! The state cached for a display against the last state commanded of the display manager. -/
namespace DisplayPowerMgr.PanelAgreement

open DisplayPowerMgrService

/-- What a cached state promises about the last command. -/
def Agrees (cached commanded : DisplayState) : Prop :=
  match cached with
  | .on | .dim => commanded = .on
  | .off | .doze | .dozeSuspend => commanded = cached
  | .suspend | .delayOff | .unknown => True

def InAgreement (s : DisplayPowerMgrService) : Prop := Agrees s.mainState s.host.commanded

def Covered (e : DisplayEvent) : Prop := e.IsPower ∧ e.Succeeds ∧ e.PlainReason

instance : DecidablePred Covered := fun e =>
  inferInstanceAs (Decidable (e.IsPower ∧ e.Succeeds ∧ e.PlainReason))

/-- The two requests that cache a lit state without a command, for which the last command must
have been on already: dim, and on while the delay is armed. -/
def LitAlready (s : DisplayPowerMgrService) : DisplayEvent → Prop
  | .setDisplayState isSystem id state _ _ =>
    isSystem = true → s.findController id ≠ none →
      state = .dim ∧ s.mainState ≠ .dim ∧ s.mainState ≠ .off ∨
        state = .on ∧ s.isDisplayDelayOff = true →
      s.host.commanded = .on
  | _ => True

/-- One update of a controller that agrees: only dim may break the agreement. -/
theorem updateState_agrees_iff {c : ScreenController} {host : DisplayHost}
    (h : Agrees c.state host.commanded) (state : DisplayState) {reason : StateChangeReason}
    (hplain : reason.isPreBright = false) {hw : HwAnswer} (hhw : hw.Succeeds) :
    Agrees (c.updateState host state reason hw).1.state
        (c.updateState host state reason hw).2.1.commanded ↔
      (state = .dim ∧ c.state ≠ .dim ∧ c.state ≠ .off → host.commanded = .on) := by
  obtain ⟨hnoskip, hnoenable, hne⟩ := ScreenController.noSkip_of_plain hplain
  have hsome := ScreenController.commandState_isSome c host state reason hhw
  have hupdate := ScreenController.updateState_update c host state reason hw
  generalize c.updateState host state reason hw = r at hupdate ⊢
  cases hupdate with
  | ignored hignore =>
    refine iff_of_true h ?_
    rintro ⟨rfl, hdim, hoff⟩
    rcases ScreenController.ignores_iff.mp hignore with ⟨_, hc⟩ | ⟨_, hc⟩
    · exact absurd hc.symm hdim
    · exact absurd hc hoff
  | refused _ command =>
    rw [command] at hsome
    cases hsome
  | interrupted _ _ _ skip =>
    rw [hnoskip] at skip
    cases skip
  | cached hignore host' command =>
    obtain ⟨hstate, hdimoff⟩ := ScreenController.ne_of_not_ignored hignore hne
    have hcommanded := ScreenController.commandState_commanded command
    rw [hnoenable, Bool.not_false, Bool.and_true] at hcommanded
    simp only [hcommanded]
    cases state with
    | on =>
      refine iff_of_true ?_ (by simp)
      by_cases hdim : c.state = .dim
      · rw [if_neg (by simp [ScreenController.needsCommand, hdim])]
        rw [hdim] at h
        exact h
      · rw [if_pos (by simp [ScreenController.needsCommand, hdim])]
        rfl
    | dim =>
      have hdim : c.state ≠ .dim := fun hc => hstate hc.symm
      have hoff : c.state ≠ .off := fun hc => hdimoff ⟨rfl, hc⟩
      constructor
      · intro hagrees _
        exact hagrees
      · intro hlit
        exact hlit ⟨rfl, hdim, hoff⟩
    | off => exact iff_of_true rfl (by simp)
    | doze => exact iff_of_true rfl (by simp)
    | dozeSuspend => exact iff_of_true rfl (by simp)
    | suspend => exact iff_of_true trivial (by simp)
    | delayOff => exact iff_of_true trivial (by simp)
    | unknown => exact iff_of_true trivial (by simp)

/-- What every step keeps besides the agreement: the stored reason is none of the cycle. -/
def StoredPlain (s : DisplayPowerMgrService) : Prop :=
  StoredOff s ∧ s.displayReason.isPreBright = false

theorem step_storedPlain {s t : DisplayPowerMgrService} {e : DisplayEvent} (h : StoredPlain s)
    (he : Covered e) (hstep : s.step e = some t) : StoredPlain t := by
  refine ⟨step_storedOff h.1 hstep, ?_⟩
  cases step_delay hstep with
  | submitted id' c _ _ _ _ same =>
    rw [same]
    exact he.2.2
  | kept same | cancelled _ _ _ same | overridden _ _ _ same | fired _ _ same =>
    rw [same]
    exact h.2

theorem inAgreement_of_sameScreens {a b : DisplayPowerMgrService} (h : SameScreens a b) :
    InAgreement b ↔ InAgreement a := by
  rw [InAgreement, InAgreement, h.mainState_eq, h.host_eq]

theorem request_agreement_iff {s : DisplayPowerMgrService} (hs : s.OneDisplay)
    (h : InAgreement s) (isSystem : Bool) (id : ℕ) (state : DisplayState)
    {reason : StateChangeReason} (hplain : reason.isPreBright = false) {hw : HwAnswer}
    (hhw : hw.Succeeds) :
    LitAlready s (.setDisplayState isSystem id state reason hw) ↔
      InAgreement (s.setDisplayStateInner isSystem id state reason hw).1 := by
  rw [LitAlready]
  rcases hs.request_cases isSystem id state reason hw with
    ⟨hrejected, heq⟩ | ⟨c, hsystem, hfound, hc, hchange⟩
  · rw [heq]
    refine iff_of_true ?_ h
    intro hsystem hfound
    exact absurd (hrejected hsystem) hfound
  · have hmain : s.mainState = c.state := mainState_eq hc
    simp only [hsystem, hfound, ne_eq, not_false_eq_true, forall_const]
    rw [hsystem] at hchange
    generalize s.setDisplayStateInner true id state reason hw = r at hchange ⊢
    cases hchange with
    | submitted _ isOff =>
      refine iff_of_true ?_ ?_
      · intro hlit
        rcases isOff with rfl | rfl <;> simp at hlit
      · rw [InAgreement, submitScreenOff, setBrightnessState]
        exact (mainState_setController _ c.setDelayOffState).symm ▸ trivial
    | cancelled armed isOn =>
      subst isOn
      have hstate : ((s.setBrightnessState .on).cancelScreenOff s.mainDisplayId c).mainState =
          .on := mainState_setController _ _
      rw [InAgreement, hstate]
      have harmed : s.isDisplayDelayOff = true := armed
      simp only [harmed, and_self, or_true, forall_const]
      rfl
    | applied t free same =>
      have hnoton : ¬(state = .on ∧ s.isDisplayDelayOff = true) := fun hon => (free hon.2).2.2 hon.1
      have hagrees : Agrees c.state (s.setBrightnessState state).host.commanded := hmain ▸ h
      have hstate : ((s.setBrightnessState state).updateState s.mainDisplayId c state reason
          hw).1.mainState = _ := updateState_main (s.setBrightnessState state) c state reason hw
      rw [inAgreement_of_sameScreens same, InAgreement, hstate, or_iff_left hnoton, hmain]
      exact (updateState_agrees_iff hagrees state hplain hhw).symm

theorem step_agreement_iff {s : DisplayPowerMgrService} {e : DisplayEvent} (hs : StoredPlain s)
    (h : InAgreement s) (he : Covered e) :
    LitAlready s e ↔ ∀ t, s.step e = some t → InAgreement t := by
  cases e with
  | setDisplayState isSystem id state reason hw =>
    rw [DisplayPowerMgrService.step]
    simp only [Option.some.injEq, forall_eq']
    exact request_agreement_iff hs.1.1 h isSystem id state he.2.2 he.2.1
  | overrideDisplayOffDelay isSystem delayMs =>
    refine iff_of_true trivial ?_
    rintro t ⟨⟩
    obtain ⟨armed, ms, heq⟩ := overrideDisplayOffDelayInner_fst s isSystem delayMs
    rw [heq]
    exact h
  | screenOffDelay task hw =>
    refine iff_of_true trivial ?_
    intro t hstep
    obtain ⟨c, hc⟩ := hs.1.1.exists_main
    obtain ⟨hmain, hhost, hoff⟩ := fire_main hs.1 hc hstep
    have hagrees : Agrees c.state s.host.commanded := mainState_eq hc ▸ h
    rw [InAgreement, hmain, hhost]
    refine (updateState_agrees_iff hagrees s.displayState hs.2 he.2.1).mpr ?_
    intro hdim
    rcases hoff with hoff | hoff <;> simp [hoff] at hdim
  | updateScreenPowerState isSystem isScreenOn => exact absurd he.1 id
  | brightness event =>
    refine iff_of_true trivial ?_
    intro t hstep
    exact (inAgreement_of_sameScreens (brightnessStep_sameScreens hstep)).mpr h

/-- A run that starts in agreement stays in it if and only if dim, and on while armed, are only
requested of a display commanded on. -/
theorem in_agreement_iff {boot : DisplayBoot} (hone : boot.start.OneDisplay)
    (h : InAgreement boot.start) {es : List DisplayEvent} (hes : ∀ e ∈ es, Covered e) :
    Runs.Always step (fun s e => ∀ t, s.step e = some t → InAgreement t) boot.start es ↔
      Runs.Always step LitAlready boot.start es := by
  have hstart : StoredPlain boot.start := ⟨start_storedOff hone, rfl⟩
  apply Runs.always_keeps_iff (J := StoredPlain) (P := Covered) _ _ hstart h hes
  · intro s e t hs he hstep
    exact step_storedPlain hs he hstep
  · intro s e hs hagrees he
    exact step_agreement_iff hs hagrees he

/-- From on to dim, off and on again. -/
theorem in_agreement_after_dim :
    Runs.Always step (fun s e => ∀ t, s.step e = some t → InAgreement t)
      (oneDisplayBoot .on).start
      [.setDisplayState true 0 .dim (.other 1) {}, .setDisplayState true 0 .off (.other 1) {},
        .setDisplayState true 0 .on (.other 1) {}] := by
  refine (in_agreement_iff (oneDisplayBoot_start .on) rfl (by decide)).mpr ?_
  refine ⟨fun _ _ _ => rfl, fun t ht => ⟨?_, fun u hu => ⟨?_, fun _ _ => trivial⟩⟩⟩
  · intro _ _ hlit
    simp at hlit
  · cases ht
    cases hu
    intro _ _ hlit
    exact absurd hlit (by decide)

/-- Dim is accepted while the display dozes. -/
theorem dim_from_doze_disagrees :
    ¬∀ boot : DisplayBoot, boot.start.OneDisplay → InAgreement boot.start →
      ∀ es : List DisplayEvent, (∀ e ∈ es, Covered e) →
        Runs.Always step (fun s e => ∀ t, s.step e = some t → InAgreement t) boot.start es := by
  intro h
  have hrun := h (oneDisplayBoot .on) (oneDisplayBoot_start .on) rfl
    [.setDisplayState true 0 .doze (.other 1) {}, .setDisplayState true 0 .dim (.other 1) {}]
    (by decide)
  have hdim : DisplayState.doze = .on := (hrun.2 _ rfl).1 _ rfl
  cases hdim

end DisplayPowerMgr.PanelAgreement
