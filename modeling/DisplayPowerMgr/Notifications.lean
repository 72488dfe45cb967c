import DisplayPowerMgr.Library.Edges
import DisplayPowerMgr.OneDisplay

/-! What the registered callback is told about a display that turns on and off. -/
namespace DisplayPowerMgr.Notifications

open DisplayPowerMgrService
open ScreenController (isNeedSkipNextProc enableSkipSetDisplayState notifiedState)
open Edges (edge)

def notifiedStates (host : DisplayHost) : List DisplayState := host.notified.map fun n => n.2.1

/-- On or dim, or waiting to turn off with the panel still powered. -/
def isLit (cached power : DisplayState) : Bool :=
  cached.isScreenOn || (cached = .delayOff && power.isScreenOn)

def level (s : DisplayPowerMgrService) : Bool := isLit s.mainState s.host.screenPower

def report (isOn : Bool) : DisplayState := if isOn then .on else .off

/-- The step sends one notification if it turns the display on or off, and none otherwise. -/
def Reports (s : DisplayPowerMgrService) (e : DisplayEvent) : Prop :=
  ∀ t, s.step e = some t →
    notifiedStates t.host = notifiedStates s.host ++ (edge (level s) (level t)).map report

def Listed : DisplayEvent → Prop
  | .setDisplayState _ _ state _ _ => state = .on ∨ state = .dim ∨ state = .off ∨ state = .doze
  | _ => True

instance : DecidablePred Listed
  | .setDisplayState _ _ state _ _ =>
    inferInstanceAs (Decidable (state = .on ∨ state = .dim ∨ state = .off ∨ state = .doze))
  | .overrideDisplayOffDelay _ _ => inferInstanceAs (Decidable True)
  | .screenOffDelay _ _ => inferInstanceAs (Decidable True)
  | .updateScreenPowerState _ _ => inferInstanceAs (Decidable True)
  | .brightness _ => inferInstanceAs (Decidable True)

def Covered (e : DisplayEvent) : Prop := e.IsPower ∧ e.Succeeds ∧ Listed e

instance : DecidablePred Covered := fun e =>
  inferInstanceAs (Decidable (e.IsPower ∧ e.Succeeds ∧ Listed e))

/-- An update that is not ignored and reaches the display manager does not meet a display that
waits to turn off while lit, nor cross between on and off only to be interrupted; one that
caches its state without a command meets a lit display. -/
def UpdateReports (c : ScreenController) (power state : DisplayState)
    (reason : StateChangeReason) : Prop :=
  c.ignores state reason = false →
    (c.needsCommand state = true → c.state = .delayOff →
      power.isScreenOn = (reason = .preBright && state.isScreenOn)) ∧
    (c.needsCommand state = true → c.state ≠ .delayOff → reason = .preBrightAuthFailScreenOff →
      c.state.isScreenOn = state.isScreenOn) ∧
    (c.needsCommand state = false → isNeedSkipNextProc reason = false →
      isLit c.state power = true)

/-- A request that arms or cancels a delayed screen-off finds the cached state and the power of
the panel in step; every other one, and a screen-off that fires, makes such an update. -/
def StepReports (s : DisplayPowerMgrService) : DisplayEvent → Prop
  | .setDisplayState isSystem id state reason _ =>
    isSystem = true → s.findController id ≠ none → ∀ c, s.controllerMap s.mainDisplayId = some c →
      if s.isDisplayDelayOff = true ∧ (state = .off ∨ state = .doze) then
        isLit c.state s.host.screenPower = s.host.screenPower.isScreenOn
      else if s.isDisplayDelayOff = true ∧ state = .on then
        isLit c.state s.host.screenPower = true
      else UpdateReports c s.host.screenPower state reason
  | .screenOffDelay task _ =>
    s.screenOffDelayTasks.isPending task = true → ∀ c, s.controllerMap s.mainDisplayId = some c →
      UpdateReports c s.host.screenPower s.displayState s.displayReason
  | _ => True

theorem onStateChanged_report (c : ScreenController) (host : DisplayHost) (state : DisplayState)
    (reason : StateChangeReason) {hw : HwAnswer} (h : hw.Succeeds) :
    (c.onStateChanged host state reason hw).screenPower = state ∧
      notifiedStates (c.onStateChanged host state reason hw) =
        notifiedStates host ++
          if reason = .preBright ∨ c.state.isScreenOn = state.isScreenOn then []
          else [notifiedState state] := by
  have hpower : host.setDisplayPower state hw = ({ host with screenPower := state }, true) := by
    simp [DisplayHost.setDisplayPower, h.2]
  rw [ScreenController.onStateChanged, hpower]
  by_cases hreason : reason = .preBright
  · simp [hreason, notifiedStates]
  · by_cases hskip : c.state.isScreenOn = state.isScreenOn
    · simp [hreason, hskip, ScreenController.skipNotify, notifiedStates]
    · simp only [hreason, hskip, ScreenController.skipNotify, ScreenController.announce, if_false,
        beq_iff_eq, if_true, or_self]
      by_cases hon : state = .on
      · simp [hon, notifiedStates, DisplayHost.notifyStateChangeCallback,
          DisplayHost.setScreenOnBrightness]
      · simp [hon, notifiedStates, DisplayHost.notifyStateChangeCallback]

theorem commandState_report {c : ScreenController} {host host' : DisplayHost}
    {state : DisplayState} {reason : StateChangeReason} {hw : HwAnswer} (h : hw.Succeeds)
    (hcommand : c.commandState host state reason hw = some host') :
    (c.needsCommand state = true → host'.screenPower = state ∧
      notifiedStates host' = notifiedStates host ++
        if reason = .preBright ∨ c.state.isScreenOn = state.isScreenOn then []
        else [notifiedState state]) ∧
    (c.needsCommand state = false → host' = host) := by
  rcases ScreenController.commandState_cases hcommand with ⟨hnone, rfl⟩ | ⟨hneeds, rfl⟩
  · refine ⟨fun hneeds => ?_, fun _ => rfl⟩
    exact absurd (hnone.symm.trans hneeds) (by simp)
  · refine ⟨fun _ => ?_, fun hnone => ?_⟩
    · exact onStateChanged_report c { host with
        commanded := if enableSkipSetDisplayState reason then host.commanded else state }
        state reason h
    · exact absurd (hnone.symm.trans hneeds) (by simp)

theorem notifiedState_listed {state : DisplayState}
    (h : state = .on ∨ state = .dim ∨ state = .off ∨ state = .doze) (hdim : state ≠ .dim) :
    notifiedState state = report state.isScreenOn := by
  rcases h with rfl | rfl | rfl | rfl
  · rfl
  · exact absurd rfl hdim
  · rfl
  · rfl

theorem isLit_of_not_delayOff {cached power : DisplayState} (h : cached ≠ .delayOff) :
    isLit cached power = cached.isScreenOn := by
  simp [isLit, h]

theorem isLit_delayOff (power : DisplayState) : isLit .delayOff power = power.isScreenOn := rfl

section Update
variable {c : ScreenController} {host host' : DisplayHost} {state : DisplayState}
  {reason : StateChangeReason} {hw : HwAnswer}

theorem commandState_listed
    (hlisted : state = .on ∨ state = .dim ∨ state = .off ∨ state = .doze) (hhw : hw.Succeeds)
    (command : c.commandState host state reason hw = some host')
    (hneeds : c.needsCommand state = true) :
    host'.screenPower = state ∧ notifiedStates host' = notifiedStates host ++
      if reason = .preBright ∨ c.state.isScreenOn = state.isScreenOn then []
      else [report state.isScreenOn] := by
  have hdim : state ≠ .dim := by
    rintro rfl
    cases hneeds
  rw [← notifiedState_listed hlisted hdim]
  exact (commandState_report hhw command).1 hneeds

theorem interrupted_reports_iff
    (hlisted : state = .on ∨ state = .dim ∨ state = .off ∨ state = .doze) (hhw : hw.Succeeds)
    (hignore : c.ignores state reason = false)
    (command : c.commandState host state reason hw = some host')
    (skip : isNeedSkipNextProc reason = true) :
    notifiedStates host' = notifiedStates host ++
        (edge (isLit c.state host.screenPower) (isLit c.state host'.screenPower)).map report ↔
      UpdateReports c host.screenPower state reason := by
  rw [UpdateReports]
  cases hneeds : c.needsCommand state with
  | false => simp [(commandState_report hhw command).2 hneeds, hignore, skip, edge]
  | true =>
    obtain ⟨hpower, hstates⟩ := commandState_listed hlisted hhw command hneeds
    rw [hpower, hstates, List.append_cancel_left_eq]
    by_cases hdelay : c.state = .delayOff
    · simp only [hignore, hdelay, isLit_delayOff, isScreenOn_delayOff, skip]
      rcases ScreenController.isNeedSkipNextProc_iff.mp skip with rfl | rfl
      · cases host.screenPower.isScreenOn <;> cases state.isScreenOn <;> simp [edge, report]
      · cases host.screenPower.isScreenOn <;> cases state.isScreenOn <;> simp [edge, report]
    · simp only [hignore, hdelay, isLit_of_not_delayOff hdelay, edge, skip]
      rcases ScreenController.isNeedSkipNextProc_iff.mp skip with rfl | rfl
      · simp
      · cases c.state.isScreenOn <;> cases state.isScreenOn <;> simp [report, hdelay]

theorem cached_reports_iff
    (hlisted : state = .on ∨ state = .dim ∨ state = .off ∨ state = .doze) (hhw : hw.Succeeds)
    (hignore : c.ignores state reason = false)
    (command : c.commandState host state reason hw = some host')
    (noSkip : isNeedSkipNextProc reason = false) :
    notifiedStates host' = notifiedStates host ++
        (edge (isLit c.state host.screenPower) (isLit state host'.screenPower)).map report ↔
      UpdateReports c host.screenPower state reason := by
  rw [UpdateReports]
  cases hneeds : c.needsCommand state with
  | false =>
    rw [(commandState_report hhw command).2 hneeds]
    have hlit : isLit state host.screenPower = true := by
      rcases hlisted with rfl | rfl | rfl | rfl
      · rfl
      · rfl
      · cases hneeds
      · cases hneeds
    simp only [hignore, noSkip, hlit, edge]
    cases isLit c.state host.screenPower <;> simp [report]
  | true =>
    have hnot : state ≠ .delayOff := by rcases hlisted with rfl | rfl | rfl | rfl <;> simp
    have hreason : reason ≠ .preBright ∧ reason ≠ .preBrightAuthFailScreenOff := by
      constructor <;>
      · rintro rfl
        cases noSkip
    obtain ⟨hpower, hstates⟩ := commandState_listed hlisted hhw command hneeds
    rw [hpower, hstates, List.append_cancel_left_eq]
    simp only [hignore, hreason.1, hreason.2, isLit_of_not_delayOff hnot, noSkip]
    by_cases hdelay : c.state = .delayOff
    · simp only [hdelay, isLit_delayOff, isScreenOn_delayOff]
      cases host.screenPower.isScreenOn <;> cases state.isScreenOn <;> simp [edge, report]
    · simp only [hdelay, isLit_of_not_delayOff hdelay]
      cases c.state.isScreenOn <;> cases state.isScreenOn <;> simp [edge, report]

/-- One update sends what it should exactly under the condition. -/
theorem updateState_reports_iff (c : ScreenController) (host : DisplayHost)
    {state : DisplayState} (hlisted : state = .on ∨ state = .dim ∨ state = .off ∨ state = .doze)
    (reason : StateChangeReason) {hw : HwAnswer} (hhw : hw.Succeeds) :
    notifiedStates (c.updateState host state reason hw).2.1 = notifiedStates host ++
        (edge (isLit c.state host.screenPower) (isLit (c.updateState host state reason hw).1.state
          (c.updateState host state reason hw).2.1.screenPower)).map report ↔
      UpdateReports c host.screenPower state reason := by
  have hsome := ScreenController.commandState_isSome c host state reason hhw
  have hupdate := ScreenController.updateState_update c host state reason hw
  generalize c.updateState host state reason hw = r at hupdate ⊢
  cases hupdate with
  | ignored hignore => simp [UpdateReports, hignore, edge]
  | refused _ command =>
    rw [command] at hsome
    cases hsome
  | interrupted hignore host' command skip =>
    exact interrupted_reports_iff hlisted hhw hignore command skip
  | cached hignore host' command noSkip =>
    exact cached_reports_iff hlisted hhw hignore command noSkip

end Update

theorem level_of_sameScreens {a b : DisplayPowerMgrService} (h : SameScreens a b) :
    level b = level a ∧ notifiedStates b.host = notifiedStates a.host := by
  rw [level, level, h.mainState_eq, h.host_eq]
  exact ⟨rfl, rfl⟩

theorem request_reports_iff {s : DisplayPowerMgrService} (hs : s.OneDisplay) (isSystem : Bool)
    (id : ℕ) {state : DisplayState}
    (hlisted : state = .on ∨ state = .dim ∨ state = .off ∨ state = .doze)
    (reason : StateChangeReason) {hw : HwAnswer} (hhw : hw.Succeeds) :
    Reports s (.setDisplayState isSystem id state reason hw) ↔
      StepReports s (.setDisplayState isSystem id state reason hw) := by
  rw [Reports, StepReports, DisplayPowerMgrService.step]
  simp only [Option.some.injEq, forall_eq']
  rcases hs.request_cases isSystem id state reason hw with
    ⟨hrejected, heq⟩ | ⟨c, hsystem, hfound, hc, hchange⟩
  · rw [heq]
    refine iff_of_true (by simp [edge]) ?_
    intro hsystem hfound
    exact absurd (hrejected hsystem) hfound
  · have hlevel : level s = isLit c.state s.host.screenPower := by rw [level, mainState_eq hc]
    simp only [hsystem, hfound, hc, ne_eq, not_false_eq_true, forall_const, Option.some.injEq,
      forall_eq']
    rw [hsystem] at hchange
    generalize s.setDisplayStateInner true id state reason hw = r at hchange ⊢
    cases hchange with
    | submitted armed isOff =>
      have harmed : s.isDisplayDelayOff = true := armed
      have hnext : level ((s.setBrightnessState state).submitScreenOff s.mainDisplayId c state
          reason) = s.host.screenPower.isScreenOn := by
        have hmain : ((s.setBrightnessState state).submitScreenOff s.mainDisplayId c state
          reason).mainState = .delayOff := mainState_setController _ c.setDelayOffState
        rw [level, hmain]
        rfl
      have hsent : notifiedStates ((s.setBrightnessState state).submitScreenOff s.mainDisplayId c
        state reason).host = notifiedStates s.host := rfl
      rw [if_pos ⟨harmed, isOff⟩, hlevel, hnext, hsent]
      cases isLit c.state s.host.screenPower <;> cases s.host.screenPower.isScreenOn <;>
        simp [edge]
    | cancelled armed isOn =>
      subst isOn
      have harmed : s.isDisplayDelayOff = true := armed
      have hnext : level ((s.setBrightnessState .on).cancelScreenOff s.mainDisplayId c) = true := by
        have hmain : ((s.setBrightnessState .on).cancelScreenOff s.mainDisplayId c).mainState =
          .on := mainState_setController _ c.setOnState
        rw [level, hmain]
        rfl
      have hsent : notifiedStates ((s.setBrightnessState .on).cancelScreenOff s.mainDisplayId
        c).host = notifiedStates s.host := rfl
      rw [if_neg (by simp), if_pos ⟨harmed, rfl⟩, hlevel, hnext, hsent]
      cases isLit c.state s.host.screenPower <;> simp [edge]
    | applied t free same =>
      have hfree : ¬(s.isDisplayDelayOff = true ∧ (state = .off ∨ state = .doze)) := by
        rintro ⟨harmed, hoff | hoff⟩
        · exact (free harmed).1 hoff
        · exact (free harmed).2.1 hoff
      have hfree' : ¬(s.isDisplayDelayOff = true ∧ state = .on) := fun h => (free h.1).2.2 h.2
      rw [if_neg hfree, if_neg hfree', (level_of_sameScreens same).1,
        (level_of_sameScreens same).2, hlevel, level]
      have hmain : ((s.setBrightnessState state).updateState s.mainDisplayId c state reason
        hw).1.mainState = _ := updateState_main (s.setBrightnessState state) c state reason hw
      rw [hmain]
      exact updateState_reports_iff c (s.setBrightnessState state).host hlisted reason hhw

theorem fire_reports_iff {s : DisplayPowerMgrService} (hs : StoredOff s) (task : ℕ)
    {hw : HwAnswer} (hhw : hw.Succeeds) :
    Reports s (.screenOffDelay task hw) ↔ StepReports s (.screenOffDelay task hw) := by
  obtain ⟨c, hc⟩ := hs.1.exists_main
  have hlevel : level s = isLit c.state s.host.screenPower := by rw [level, mainState_eq hc]
  rw [Reports, StepReports, DisplayPowerMgrService.step, Tasks.isPending]
  simp only [hc, Option.some.injEq, forall_eq']
  cases hfind : s.screenOffDelayTasks.find? task with
  | none =>
    refine iff_of_true ?_ (fun h => nomatch h)
    intro t hfire
    rw [runScreenOffDelay, hfind] at hfire
    cases hfire
  | some request =>
    have hfire := runScreenOffDelay_of_mem (Tasks.find?_eq_some.mp hfind) hw
    obtain ⟨hmain, hhost, hoff⟩ := fire_main hs hc hfire
    rw [hfire]
    simp only [Option.some.injEq, forall_eq', Option.isSome_some, forall_const]
    rw [hlevel, level, hmain, hhost]
    apply updateState_reports_iff c s.host _ s.displayReason hhw
    rcases hoff with hoff | hoff
    · exact Or.inr (Or.inr (Or.inl hoff))
    · exact Or.inr (Or.inr (Or.inr hoff))

theorem step_reports_iff {s : DisplayPowerMgrService} {e : DisplayEvent} (hs : StoredOff s)
    (he : Covered e) : Reports s e ↔ StepReports s e := by
  cases e with
  | setDisplayState isSystem id state reason hw =>
    exact request_reports_iff hs.1 isSystem id he.2.2 reason he.2.1
  | overrideDisplayOffDelay isSystem delayMs =>
    refine iff_of_true ?_ trivial
    rintro t ⟨⟩
    obtain ⟨armed, ms, heq⟩ := overrideDisplayOffDelayInner_fst s isSystem delayMs
    have hlevel : level { s with isDisplayDelayOff := armed, displayOffDelayMs := ms } =
      level s := rfl
    rw [heq, hlevel]
    simp [edge]
  | screenOffDelay task hw => exact fire_reports_iff hs task he.2.1
  | updateScreenPowerState isSystem isScreenOn => exact absurd he.1 id
  | brightness event =>
    refine iff_of_true ?_ trivial
    intro t hstep
    obtain ⟨hlevel, hsent⟩ := level_of_sameScreens (brightnessStep_sameScreens hstep)
    rw [hlevel, hsent]
    simp [edge]

/-- The notifications sent since `s` are those of a display that turned on and off by turns and
came to the level it has in `t`. -/
def Alternate (s t : DisplayPowerMgrService) : Prop :=
  ∃ added : List Bool, notifiedStates t.host = notifiedStates s.host ++ added.map report ∧
    Edges.Tracks (level s) (level t) added

/-- Along a run every change is notified once, by turns on and off, if and only if all its
steps meet the condition. -/
theorem notified_once_iff {boot : DisplayBoot} (hone : boot.start.OneDisplay)
    {es : List DisplayEvent} (hes : ∀ e ∈ es, Covered e) :
    (Runs.Always step Reports boot.start es ∧
        ∀ t, Runs.run step boot.start es = some t → Alternate boot.start t) ↔
      Runs.Always step StepReports boot.start es := by
  have hiff : Runs.Always step Reports boot.start es ↔
      Runs.Always step StepReports boot.start es := by
    apply Runs.always_congr (J := StoredOff) (P := Covered) _ _ (start_storedOff hone) hes
    · intro s e t hs _ hstep
      exact step_storedOff hs hstep
    · intro s e hs he
      exact step_reports_iff hs he
  constructor
  · intro h
    exact hiff.mp h.1
  · intro h
    have hreports := hiff.mpr h
    refine ⟨hreports, ?_⟩
    intro t hrun
    exact Edges.tracks_of_run hreports hrun

/-- Off and on again, at once. -/
theorem notified_once_at_once :
    Runs.Always step Reports (oneDisplayBoot .on).start
        [.setDisplayState true 0 .off (.other 1) {}, .setDisplayState true 0 .on (.other 1) {}] ∧
      ∀ t, Runs.run step (oneDisplayBoot .on).start
          [.setDisplayState true 0 .off (.other 1) {}, .setDisplayState true 0 .on (.other 1) {}] =
            some t → Alternate (oneDisplayBoot .on).start t := by
  refine (notified_once_iff (oneDisplayBoot_start .on) (by decide)).mpr ?_
  refine ⟨?_, fun t ht => ⟨?_, fun _ _ => trivial⟩⟩
  · intro _ _ c hc
    cases hc
    rw [if_neg (by decide), if_neg (by decide)]
    intro _
    decide
  · cases ht
    intro _ _ c hc
    cases hc
    rw [if_neg (by decide), if_neg (by decide)]
    intro _
    decide

/-- The delayed screen-off turns the panel off without telling the callback. -/
theorem delayed_off_unnotified :
    ¬∀ boot : DisplayBoot, boot.start.OneDisplay → ∀ es : List DisplayEvent,
      (∀ e ∈ es, Covered e) → Runs.Always step Reports boot.start es ∧
        ∀ t, Runs.run step boot.start es = some t → Alternate boot.start t := by
  intro h
  have hrun := (h (oneDisplayBoot .on) (oneDisplayBoot_start .on)
    [.overrideDisplayOffDelay true 10, .setDisplayState true 0 .off (.other 1) {},
      .screenOffDelay 0 {}] (by decide)).1
  have hsent := ((hrun.2 _ rfl).2 _ rfl).1 _ rfl
  exact absurd hsent (by decide)

end DisplayPowerMgr.Notifications
