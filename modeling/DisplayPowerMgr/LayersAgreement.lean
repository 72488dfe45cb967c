import DisplayPowerMgr.OneDisplay

/-! Whether the screen is on: what the brightness service thinks after a request for a display
state, and what the controller of the display thinks. -/
namespace DisplayPowerMgr.LayersAgreement

open DisplayPowerMgrService

def LayersAgree (s : DisplayPowerMgrService) : Prop :=
  s.host.brightness.isScreenOn = s.mainState.isScreenOn

/-- The layers agree after a request that answers yes. -/
def AgreeAfter (s : DisplayPowerMgrService) : DisplayEvent → Prop
  | .setDisplayState isSystem id state reason hw =>
    (s.setDisplayStateInner isSystem id state reason hw).2 = true →
      LayersAgree (s.setDisplayStateInner isSystem id state reason hw).1
  | _ => True

/-- The one request that the controller answers yes and ignores while it is in another state. -/
def NotDimWhileOff (s : DisplayPowerMgrService) : DisplayEvent → Prop
  | .setDisplayState isSystem id state _ _ =>
    isSystem = true → s.findController id ≠ none → ¬(state = .dim ∧ s.mainState = .off)
  | _ => True

def OverridesDelay : DisplayEvent → Prop
  | .overrideDisplayOffDelay _ _ => True
  | _ => False

instance : DecidablePred OverridesDelay
  | .setDisplayState _ _ _ _ _ => inferInstanceAs (Decidable False)
  | .overrideDisplayOffDelay _ _ => inferInstanceAs (Decidable True)
  | .screenOffDelay _ _ => inferInstanceAs (Decidable False)
  | .updateScreenPowerState _ _ => inferInstanceAs (Decidable False)
  | .brightness _ => inferInstanceAs (Decidable False)

def Covered (e : DisplayEvent) : Prop := e.Succeeds ∧ e.PlainReason ∧ ¬OverridesDelay e

instance : DecidablePred Covered := fun e =>
  inferInstanceAs (Decidable (e.Succeeds ∧ e.PlainReason ∧ ¬OverridesDelay e))

def Unarmed (s : DisplayPowerMgrService) : Prop := s.OneDisplay ∧ s.isDisplayDelayOff = false

theorem step_unarmed {s t : DisplayPowerMgrService} {e : DisplayEvent} (h : Unarmed s)
    (he : ¬OverridesDelay e) (hstep : s.step e = some t) : Unarmed t := by
  refine ⟨h.1.step hstep, ?_⟩
  cases step_delay hstep with
  | kept same =>
    rw [same]
    exact h.2
  | submitted _ _ _ _ armed =>
    rw [h.2] at armed
    cases armed
  | overridden => exact absurd trivial he
  | cancelled _ _ _ same =>
    rw [same]
    rfl
  | fired _ _ same => rw [same]

theorem layersAgree_iff {s : DisplayPowerMgrService} {c : ScreenController}
    {state : DisplayState} {reason : StateChangeReason} {hw : HwAnswer}
    (hyes : (c.updateState (s.setBrightnessState state).host state reason hw).2.2 = true) :
    LayersAgree ((s.setBrightnessState state).updateState s.mainDisplayId c state reason hw).1 ↔
      ¬(state = .dim ∧ c.state = .off) := by
  have hmain : ((s.setBrightnessState state).updateState s.mainDisplayId c state reason
      hw).1.mainState = _ := updateState_main (s.setBrightnessState state) c state reason hw
  have hbright : ((s.setBrightnessState state).updateState s.mainDisplayId c state reason
      hw).1.host.brightness.state = state :=
    (congrArg BrightnessMode.state (ScreenController.updateState_mode c _ state reason hw)).trans
      (BrightnessService.setDisplayState_state _ _)
  rw [LayersAgree, hmain, ScreenController.updateState_yes hyes, BrightnessService.isScreenOn,
    hbright]
  by_cases hdim : state = .dim ∧ c.state = .off
  · rw [if_pos hdim, hdim.1]
    simp [hdim.2]
  · rw [if_neg hdim]
    exact iff_of_true rfl hdim

theorem request_agree_iff {s : DisplayPowerMgrService} (hs : Unarmed s) (isSystem : Bool)
    (id : ℕ) (state : DisplayState) {reason : StateChangeReason}
    (hplain : reason.isPreBright = false) {hw : HwAnswer} (hhw : hw.Succeeds) :
    AgreeAfter s (.setDisplayState isSystem id state reason hw) ↔
      NotDimWhileOff s (.setDisplayState isSystem id state reason hw) := by
  rw [AgreeAfter, NotDimWhileOff]
  rcases hs.1.request_cases isSystem id state reason hw with
    ⟨hrejected, heq⟩ | ⟨c, hsystem, hfound, hc, hchange⟩
  · rw [heq]
    refine iff_of_true (fun h => nomatch h) ?_
    intro hsystem hfound
    exact absurd (hrejected hsystem) hfound
  · have hmain : s.mainState = c.state := mainState_eq hc
    have hunarmed : ¬s.isDisplayDelayOff = true := by simp [hs.2]
    have hyes := ScreenController.updateState_accepts c (s.setBrightnessState state).host state
      hplain hhw
    simp only [hsystem, hfound, ne_eq, not_false_eq_true, forall_const, hmain]
    rw [hsystem] at hchange
    generalize s.setDisplayStateInner true id state reason hw = r at hchange ⊢
    cases hchange with
    | submitted armed => exact absurd armed hunarmed
    | cancelled armed => exact absurd armed hunarmed
    | applied t _ _ kept =>
      have hret : ((s.setBrightnessState state).updateState s.mainDisplayId c state reason
        hw).2 = true := hyes
      rw [kept fun _ => hret]
      simp only [hret, forall_const]
      exact layersAgree_iff hyes

/-- Along a run without delay the layers agree after every request that answers yes, if and
only if dim is never requested of a display that is off. -/
theorem layers_agree_iff {boot : DisplayBoot} (hone : boot.start.OneDisplay)
    {es : List DisplayEvent} (hes : ∀ e ∈ es, Covered e) :
    Runs.Always step AgreeAfter boot.start es ↔
      Runs.Always step NotDimWhileOff boot.start es := by
  apply Runs.always_congr (J := Unarmed) (P := Covered) _ _ ⟨hone, rfl⟩ hes
  · intro s e t hs he hstep
    exact step_unarmed hs he.2.2 hstep
  · intro s e hs he
    cases e with
    | setDisplayState isSystem id state reason hw =>
      exact request_agree_iff hs isSystem id state he.2.1 he.1
    | _ => exact Iff.rfl

/-- On, dim and off again. -/
theorem layers_agree_through_dim :
    Runs.Always step AgreeAfter (oneDisplayBoot .off).start
      [.setDisplayState true 0 .on (.other 1) {}, .setDisplayState true 0 .dim (.other 1) {},
        .setDisplayState true 0 .off (.other 1) {}] := by
  refine (layers_agree_iff (oneDisplayBoot_start .off) (by decide)).mpr ?_
  refine ⟨fun _ _ => by decide, fun t ht => ⟨?_, fun u _ => ⟨?_, fun _ _ => trivial⟩⟩⟩
  · cases ht
    intro _ _
    decide
  · intro _ _
    simp

/-- Dim requested of a display that is off: answered yes, with only one layer turning on. -/
theorem dim_while_off_disagrees :
    ¬∀ boot : DisplayBoot, boot.start.OneDisplay → ∀ es : List DisplayEvent,
      (∀ e ∈ es, Covered e) → Runs.Always step AgreeAfter boot.start es := by
  intro h
  have hrun := h (oneDisplayBoot .off) (oneDisplayBoot_start .off)
    [.setDisplayState true 0 .dim (.other 1) {}] (by decide)
  have hagree : LayersAgree _ := hrun.1 rfl
  rw [LayersAgree] at hagree
  exact absurd hagree (by decide +kernel)

end DisplayPowerMgr.LayersAgreement
