import DisplayPowerMgr.Library.History
import DisplayPowerMgr.ServiceRequests

/-! Runs of the requests: whatever the service is asked, the brightness service goes through one of
its own runs, and the requests that are refused might as well not have been made. -/
namespace DisplayPowerMgr

open Runs

/-! ## The brightness service inside the requests for a state -/

namespace ScreenController

variable {c : ScreenController} {host host' : DisplayHost} {state : DisplayState}
  {reason : StateChangeReason} {hw : HwAnswer}

theorem announce_leads (c : ScreenController) (host : DisplayHost) (state : DisplayState)
    (reason : StateChangeReason) (ret : Bool) :
    Leads BrightnessService.step host.brightness (c.announce host state reason ret).brightness := by
  have hrelit : Leads BrightnessService.step host.brightness
      (if state = .on then host.setScreenOnBrightness else host).brightness := by
    split
    · exact .of_step (e := .setScreenOnBrightness) rfl
    · exact .refl _
  rw [announce]
  split
  · exact hrelit
  · exact hrelit

theorem onStateChanged_leads (c : ScreenController) (host : DisplayHost) (state : DisplayState)
    (reason : StateChangeReason) (hw : HwAnswer) :
    Leads BrightnessService.step host.brightness
      (c.onStateChanged host state reason hw).brightness := by
  have hpower : (host.setDisplayPower state hw).1.brightness = host.brightness := by
    rw [DisplayHost.setDisplayPower]
    dsimp only
    split <;> rfl
  rw [onStateChanged, ← hpower]
  dsimp only
  split
  · exact .refl _
  · split
    · exact .refl _
    · exact announce_leads c _ state reason _

theorem commandState_leads (h : c.commandState host state reason hw = some host') :
    Leads BrightnessService.step host.brightness host'.brightness := by
  rw [commandState] at h
  split at h
  · split at h
    · obtain rfl := Option.some.inj h
      exact onStateChanged_leads c host state reason hw
    · obtain ⟨commanded, hcommanded, rfl⟩ := Option.map_eq_some_iff.mp h
      have hsame : commanded.brightness = host.brightness := by
        rw [DisplayHost.setDisplayState] at hcommanded
        split at hcommanded
        · obtain rfl := Option.some.inj hcommanded
          rfl
        · cases hcommanded
      rw [← hsame]
      exact onStateChanged_leads c commanded state reason hw
  · obtain rfl := Option.some.inj h
    exact .refl _

theorem updateState_leads (c : ScreenController) (host : DisplayHost) (state : DisplayState)
    (reason : StateChangeReason) (hw : HwAnswer) :
    Leads BrightnessService.step host.brightness
      (c.updateState host state reason hw).2.1.brightness := by
  have h := updateState_update c host state reason hw
  generalize c.updateState host state reason hw = updated at h ⊢
  cases h with
  | ignored => exact .refl _
  | refused => exact .refl _
  | interrupted _ host' command => exact commandState_leads command
  | cached _ host' command => exact commandState_leads command

end ScreenController

namespace DisplayPowerMgrService

variable {s t : DisplayPowerMgrService}

theorem undoSetDisplayStateInner_leads (s : DisplayPowerMgrService) (curState : DisplayState) :
    Leads BrightnessService.step s.host.brightness
      (s.undoSetDisplayStateInner curState).host.brightness := by
  have hstate : Leads BrightnessService.step s.host.brightness
      (s.setBrightnessState curState).host.brightness :=
    .of_step (e := .setDisplayState curState) rfl
  rw [undoSetDisplayStateInner]
  split
  · exact hstate.trans (.of_step (e := .setScreenOnBrightness) rfl)
  · exact hstate

theorem Change.leads {id : ℕ} {c : ScreenController} {state : DisplayState}
    {reason : StateChangeReason} {hw : HwAnswer} {r : DisplayPowerMgrService × Bool}
    (h : Change s id c state reason hw r) :
    Leads BrightnessService.step s.host.brightness r.1.host.brightness := by
  have hupdate : Leads BrightnessService.step s.host.brightness
      (s.updateState id c state reason hw).1.host.brightness :=
    c.updateState_leads s.host state reason hw
  cases h with
  | submitted => exact .refl _
  | cancelled => exact .refl _
  | applied t _ _ kept undone =>
    by_cases hundo : (state = .off ∨ state = .doze) ∧ (s.updateState id c state reason hw).2 = false
    · have ht := undone hundo.1 hundo.2
      subst ht
      exact hupdate.trans (undoSetDisplayStateInner_leads _ c.state)
    · have ht := kept fun hoff => by
        by_contra hret
        exact hundo ⟨hoff, Bool.not_eq_true _ ▸ hret⟩
      subst ht
      exact hupdate

theorem screenOffDelay_leads (s : DisplayPowerMgrService) (id : ℕ) (state : DisplayState)
    (reason : StateChangeReason) (hw : HwAnswer) :
    Leads BrightnessService.step s.host.brightness
      (s.screenOffDelay id state reason hw).host.brightness := by
  rw [screenOffDelay]
  dsimp only
  split
  · exact .refl _
  · rename_i c hc
    exact c.updateState_leads s.host state reason hw

theorem step_leads {e : DisplayEvent} (h : step s e = some t) :
    Leads BrightnessService.step s.host.brightness t.host.brightness := by
  cases e with
  | setDisplayState isSystem id state reason hw =>
    cases h
    rcases setDisplayStateInner_cases s isSystem id state reason hw with
      ⟨_, heq⟩ | ⟨id', c, _, _, hchange⟩
    · rw [heq]
    · have hstate : Leads BrightnessService.step s.host.brightness
          (s.setBrightnessState state).host.brightness :=
        .of_step (e := .setDisplayState state) rfl
      exact hstate.trans hchange.leads
  | overrideDisplayOffDelay isSystem delayMs =>
    cases h
    obtain ⟨armed, ms, heq⟩ := overrideDisplayOffDelayInner_fst s isSystem delayMs
    rw [heq]
  | screenOffDelay task hw =>
    obtain ⟨request, _, rfl⟩ := runScreenOffDelay_some h
    exact screenOffDelay_leads
      { s with screenOffDelayTasks := s.screenOffDelayTasks.remove task } _ _ _ _
  | updateScreenPowerState isSystem isScreenOn =>
    cases h
    rw [updateScreenPowerState]
    split
    · exact .refl _
    · split
      · exact .refl _
      · exact .refl _
  | brightness event =>
    rw [step, brightnessStep] at h
    split at h
    · cases h
    · obtain ⟨b, hb, rfl⟩ := Option.map_eq_some_iff.mp h
      exact .of_step hb

end DisplayPowerMgrService

namespace DisplayManager

open DisplayPowerMgrService (SameDisplays)

variable {m m' : DisplayManager}

/-! ## The controllers stay out of it -/

/-- No controller has a mode of its own, and none waits to write the setting. -/
structure Bare (m : DisplayManager) : Prop where
  overridden : ∀ id, (m.display.screens id).isBrightnessOverridden = false
  boosted : ∀ id, (m.display.screens id).isBrightnessBoosted = false
  settingTasks : m.display.settingTasks.pending = []

/-- What an event does that leaves the panel to the brightness service. -/
structure Served (m m' : DisplayManager) : Prop where
  leads : Leads BrightnessService.step m.brightness m'.brightness
  bare : m'.Bare
  displays : SameDisplays m.service m'.service

theorem Bare.served (h : m.Bare) : Served m m := ⟨.refl _, h, SameDisplays.refl _⟩

theorem Bare.note (h : m.Bare) (error : DisplayErrors) : Served m (m.note error) :=
  ⟨.refl _, ⟨h.overridden, h.boosted, h.settingTasks⟩, SameDisplays.refl _⟩

theorem Bare.withBrightness (h : m.Bare) {bs : BrightnessService}
    (hleads : Leads BrightnessService.step m.brightness bs) : Served m (m.withBrightness bs) where
  leads := hleads
  bare := ⟨h.overridden, h.boosted, h.settingTasks⟩
  displays := SameDisplays.refl _

theorem Bare.withService (h : m.Bare) {service : DisplayPowerMgrService} {e : DisplayEvent}
    (hstep : m.service.step e = some service) : Served m (m.withService service) where
  leads := DisplayPowerMgrService.step_leads hstep
  bare := ⟨h.overridden, h.boosted, h.settingTasks⟩
  displays := DisplayPowerMgrService.step_sameDisplays hstep

theorem Served.trans {m₁ m₂ m₃ : DisplayManager} (h : Served m₁ m₂) (h' : Served m₂ m₃) :
    Served m₁ m₃ :=
  ⟨h.leads.trans h'.leads, h'.bare, h.displays.trans h'.displays⟩

theorem Bare.forward (h : m.Bare) (isSystem isValid : Bool) (displayId : ℕ)
    {f : BrightnessService → BrightnessService × Bool}
    (hf : Leads BrightnessService.step m.brightness (f m.brightness).1) :
    Served m (m.forward isSystem isValid displayId f).1 := by
  rw [DisplayManager.forward]
  split
  · exact h.served
  · split
    · exact h.served
    · split
      · exact h.served
      · exact h.withBrightness hf

theorem orController_refused {asked : DisplayManager × Bool} {displayId : ℕ}
    {f : DisplayBrightness → ScreenController → DisplayBrightness × Bool}
    (hf : ∀ c, f asked.1.display c = (asked.1.display, false)) :
    orController asked displayId f = asked := by
  rw [orController]
  split
  · rfl
  · rename_i hret
    split
    · rfl
    · rename_i c hc
      have hfalse : asked.2 = false := by simpa using hret
      rw [hf c, ← hfalse]

theorem Bare.restoreBrightness (h : m.Bare) (id : ℕ) (c : ScreenController) :
    m.display.restoreBrightness id c 0 = (m.display, false) := by
  rw [DisplayBrightness.restoreBrightness, h.overridden]
  rfl

theorem Bare.cancelBoostBrightness (h : m.Bare) (id : ℕ) (c : ScreenController) :
    m.display.cancelBoostBrightness id c 0 = (m.display, false) := by
  rw [DisplayBrightness.cancelBoostBrightness, h.boosted]
  rfl

theorem Bare.restoreBrightnessInner (h : m.Bare) (isSystem : Bool) (displayId duration : ℕ) :
    m.restoreBrightnessInner isSystem displayId duration =
      m.forward isSystem (isValidDuration duration) displayId fun bs =>
        bs.restoreBrightness duration := by
  have hserved := h.forward isSystem (isValidDuration duration) displayId
    (f := fun bs => bs.restoreBrightness duration)
    (.of_step (e := .restoreBrightness duration) rfl)
  rw [DisplayManager.restoreBrightnessInner]
  split
  · rfl
  · exact orController_refused fun c => hserved.bare.restoreBrightness displayId c

theorem Bare.cancelBoostBrightnessInner (h : m.Bare) (isSystem : Bool) (displayId : ℕ) :
    m.cancelBoostBrightnessInner isSystem displayId =
      m.forward isSystem true displayId fun bs => bs.cancelBoostBrightness 0 := by
  have hserved := h.forward isSystem true displayId (f := fun bs => bs.cancelBoostBrightness 0)
    (.of_step (e := .cancelBoostBrightness 0) rfl)
  rw [DisplayManager.cancelBoostBrightnessInner]
  split
  · rfl
  · exact orController_refused fun c => hserved.bare.cancelBoostBrightness displayId c

/-! ## What each event does -/

theorem Bare.withScreen (h : m.Bare) (id : ℕ) (screen : ScreenBrightness)
    (hover : screen.isBrightnessOverridden = false) (hboost : screen.isBrightnessBoosted = false) :
    Bare { m with display := m.display.setScreen id screen } where
  overridden i := by
    change (Function.update m.display.screens id screen i).isBrightnessOverridden = false
    by_cases hi : i = id
    · rw [hi, Function.update_self, hover]
    · rw [Function.update_of_ne hi, h.overridden]
  boosted i := by
    change (Function.update m.display.screens id screen i).isBrightnessBoosted = false
    by_cases hi : i = id
    · rw [hi, Function.update_self, hboost]
    · rw [Function.update_of_ne hi, h.boosted]
  settingTasks := h.settingTasks

theorem Bare.canSetBrightness (h : m.Bare) (id : ℕ) (c : ScreenController) :
    m.display.canSetBrightness id c = c.isScreenOn := by
  rw [DisplayBrightness.canSetBrightness, h.overridden, h.boosted]
  simp

theorem Bare.setBrightness (h : m.Bare) (id : ℕ) {c : ScreenController}
    (hc : c.isScreenOn = true) (value duration : ℕ) (continuous : Bool) :
    Served m { m with display := (m.display.setBrightness id c value duration continuous).1 } := by
  rw [DisplayBrightness.setBrightness, if_pos ((h.canSetBrightness id c).trans hc)]
  exact ⟨.refl _, h.withScreen id _ (h.overridden id) (h.boosted id), SameDisplays.refl _⟩

/-- An adjustment that the brightness service refuses does not find its controller dark, where it
would write the panel itself. -/
def StaysOut (m : DisplayManager) : ManagerEvent → Prop
  | .request true (.adjustBrightness id value duration) =>
    ∀ c, m.service.controllerMap id = some c →
      (m.brightness.setBrightness (wrap32 value) duration false).2 = true ∨ c.isScreenOn = true
  | _ => True

theorem Bare.adjustBrightnessInner (h : m.Bare) {id duration : ℕ} {value : ℤ} {isSystem : Bool}
    (hout : m.StaysOut (.request isSystem (.adjustBrightness id value duration))) :
    Served m (m.adjustBrightnessInner isSystem id value duration).1 := by
  rw [DisplayManager.adjustBrightnessInner, DisplayBrightness.adjustBrightnessInner]
  cases isSystem with
  | false => exact h.served
  | true =>
    dsimp only
    rw [if_neg (by simp)]
    split
    · exact h.served
    · have hasked : Served m
          (m.withBrightness (m.brightness.setBrightness (wrap32 value) duration false).1) :=
        h.withBrightness (.of_step (e := .setBrightness (wrap32 value) duration false) rfl)
      split
      · exact h.served
      · rename_i c hc
        split
        · exact hasked
        · rename_i hret
          have hon : c.isScreenOn = true := (hout c hc).resolve_left hret
          exact hasked.trans (hasked.bare.setBrightness id hon (wrap32 value) duration false)

theorem Bare.withCapService (h : m.Bare) {s : CapService}
    (hleads : Leads BrightnessService.step m.brightness s.brightness) :
    Served m (m.withCapService s) where
  leads := hleads
  bare := ⟨h.overridden, h.boosted, h.settingTasks⟩
  displays := SameDisplays.refl _

theorem Bare.setMaxBrightnessInner (h : m.Bare) (isSystem : Bool) (value : ℚ) (mode : ℕ) :
    Served m (m.setMaxBrightnessInner isSystem value mode).1 := by
  have hcap : Leads BrightnessService.step m.brightness
      (m.capService.setMaxBrightnessInner isSystem value mode).1.brightness := by
    rw [CapService.setMaxBrightnessInner]
    split
    · exact .refl _
    · split
      · exact .refl _
      · dsimp only
        rw [CapService.changeMode_brightness]
        split
        · exact .of_step (e := .setMaxBrightness 1) rfl
        · exact .of_step (e := .setMaxBrightness value) rfl
  rw [DisplayManager.setMaxBrightnessInner]
  dsimp only
  split
  · exact h.withCapService hcap
  · exact (h.note _).trans ((h.note _).bare.withCapService hcap)

theorem Bare.setMaxBrightnessNitInner (h : m.Bare) (isSystem : Bool) (maxNit mode : ℕ) :
    Served m (m.setMaxBrightnessNitInner isSystem maxNit mode).1 := by
  have hcap : Leads BrightnessService.step m.brightness
      (m.capService.setMaxBrightnessNitInner isSystem maxNit mode).1.brightness := by
    rw [CapService.setMaxBrightnessNitInner]
    split
    · exact .refl _
    · split
      · exact .refl _
      · dsimp only
        rw [CapService.changeMode_brightness]
        split
        · exact .of_step (e := .setMaxBrightnessNit 600) rfl
        · exact .of_step (e := .setMaxBrightnessNit maxNit) rfl
  rw [DisplayManager.setMaxBrightnessNitInner]
  dsimp only
  split
  · exact h.withCapService hcap
  · exact (h.note _).trans ((h.note _).bare.withCapService hcap)

theorem Bare.setBrightnessInner (h : m.Bare) (isSystem : Bool) (value : ℕ) (continuous : Bool) :
    Served m (m.setBrightnessInner isSystem value continuous).1 := by
  rw [DisplayManager.setBrightnessInner]
  split
  · exact h.note _
  · exact h.withBrightness
      (.of_step (e := .setBrightness (m.display.getSafeBrightness value) 0 continuous) rfl)

theorem Bare.setScreenDisplayState (h : m.Bare) (isSystem : Bool) (state : DisplayState)
    (isSet : Bool) : Served m (m.setScreenDisplayState isSystem state isSet).1 := by
  rw [DisplayManager.setScreenDisplayState]
  split_ifs
  · exact h.served
  · exact h.served
  · exact h.served
  · exact h.withBrightness (.of_step (e := .setScreenOnBrightness) rfl)
  · exact h.served

theorem Bare.request (h : m.Bare) {isSystem : Bool} {r : DisplayRequest}
    (hout : m.StaysOut (.request isSystem r)) : Served m (m.request isSystem r).1 := by
  cases r with
  | setDisplayState id state reason hw =>
    exact h.withService (e := .setDisplayState isSystem id state reason hw) rfl
  | setScreenDisplayState state isSet => exact h.setScreenDisplayState isSystem state isSet
  | overrideDisplayOffDelay delayMs =>
    exact h.withService (e := .overrideDisplayOffDelay isSystem delayMs) rfl
  | updateScreenPowerState isScreenOn =>
    exact h.withService (e := .updateScreenPowerState isSystem isScreenOn) rfl
  | setScreenOnBrightness =>
    rw [DisplayManager.request, setScreenOnBrightnessInner]
    split
    · exact h.served
    · exact h.withBrightness (.of_step (e := .setScreenOnBrightness) rfl)
  | setBrightness value displayId continuous => exact h.setBrightnessInner isSystem value continuous
  | discountBrightness discount displayId =>
    exact h.forward isSystem _ displayId (.of_step (e := .discountBrightness discount 0) rfl)
  | overrideBrightness brightness displayId duration =>
    exact h.forward isSystem _ displayId
      (.of_step (e := .overrideBrightness brightness duration) rfl)
  | restoreBrightness displayId duration =>
    rw [DisplayManager.request, h.restoreBrightnessInner]
    exact h.forward isSystem _ displayId (.of_step (e := .restoreBrightness duration) rfl)
  | adjustBrightness id value duration => exact h.adjustBrightnessInner hout
  | autoAdjustBrightness enable =>
    rw [DisplayManager.request, autoAdjustBrightnessInner]
    split
    · exact h.served
    · exact h.withBrightness (.of_step (e := .autoAdjustBrightness enable) rfl)
  | boostBrightness timeoutMs displayId =>
    exact h.forward isSystem _ displayId (.of_step (e := .boostBrightness 0) rfl)
  | cancelBoostBrightness displayId =>
    rw [DisplayManager.request, h.cancelBoostBrightnessInner]
    exact h.forward isSystem true displayId (.of_step (e := .cancelBoostBrightness 0) rfl)
  | setMaxBrightness value mode => exact h.setMaxBrightnessInner isSystem value mode
  | setMaxBrightnessNit maxNit mode => exact h.setMaxBrightnessNitInner isSystem maxNit mode

theorem Bare.setBootCompletedBrightness (h : m.Bare) : Served m m.setBootCompletedBrightness := by
  rw [DisplayManager.setBootCompletedBrightness]
  have hdisplay : Served m (m.withBrightness (m.brightness.setDisplayId
      (m.brightness.getCurrentDisplayId m.service.mainDisplayId))) :=
    h.withBrightness (.of_step (e := .setDisplayId _) rfl)
  have hstate := hdisplay.trans (hdisplay.bare.withBrightness
    (.of_step (e := .setDisplayState (m.service.getDisplayStateInner m.service.mainDisplayId)) rfl))
  exact hstate.trans (hstate.bare.setBrightnessInner true _ false)

theorem Bare.runAnimatorTask (h : m.Bare) {task : ℕ} {display : DisplayBrightness}
    (hrun : m.display.runAnimatorTask task = some display) :
    Served m { m with display := display } := by
  obtain ⟨id, _, rfl⟩ := Option.map_eq_some_iff.mp hrun
  have hbare := h.withScreen id
    { m.display.screens id with animator := (m.display.screens id).animator.nextStep.1 }
    (h.overridden id) (h.boosted id)
  dsimp only
  split
  · exact ⟨.refl _, ⟨hbare.overridden, hbare.boosted, h.settingTasks⟩, SameDisplays.refl _⟩
  · exact ⟨.refl _, ⟨hbare.overridden, hbare.boosted, h.settingTasks⟩, SameDisplays.refl _⟩

theorem Bare.step (h : m.Bare) {e : ManagerEvent} (hout : m.StaysOut e)
    (ht : m.step e = some m') : Served m m' := by
  cases e with
  | request isSystem r =>
    obtain rfl := Option.some.inj ht
    exact h.request hout
  | getError =>
    obtain rfl := Option.some.inj ht
    exact h.note _
  | screenOffDelay task hw =>
    obtain ⟨service, hservice, rfl⟩ := Option.map_eq_some_iff.mp ht
    exact h.withService (e := .screenOffDelay task hw) hservice
  | settingTask task =>
    -- No controller has written the panel, so no write of the setting waits.
    obtain ⟨display, hdisplay, rfl⟩ := Option.map_eq_some_iff.mp ht
    obtain ⟨value, hvalue, _⟩ := Option.map_eq_some_iff.mp hdisplay
    rw [Tasks.find?, h.settingTasks] at hvalue
    cases hvalue
  | animatorTask task =>
    obtain ⟨display, hdisplay, rfl⟩ := Option.map_eq_some_iff.mp ht
    exact h.runAnimatorTask hdisplay
  | brightness e =>
    rw [DisplayManager.step] at ht
    split at ht
    · obtain ⟨bs, hbs, rfl⟩ := Option.map_eq_some_iff.mp ht
      exact h.withBrightness (.of_step hbs)
    · cases ht
  | handleBootBrightness =>
    obtain rfl := Option.some.inj ht
    rw [DisplayManager.handleBootBrightness]
    split
    · exact h.served
    · have hboot := h.setBootCompletedBrightness
      exact ⟨hboot.leads, ⟨hboot.bare.overridden, hboot.bare.boosted, hboot.bare.settingTasks⟩,
        hboot.displays⟩

theorem start_bare (boot : DisplayBoot) : (start boot).Bare := ⟨fun _ => rfl, fun _ => rfl, rfl⟩

theorem Bare.run_leads (h : m.Bare) {es : List ManagerEvent}
    (hout : Always DisplayManager.step StaysOut m es)
    (ht : run DisplayManager.step m es = some m') :
    Leads BrightnessService.step m.brightness m'.brightness ∧ m'.Bare := by
  constructor
  · refine run_refines (J := Bare) ?_ ?_ h hout ht
    · exact fun _ _ _ hbare hstays hstep => (hbare.step hstays hstep).bare
    · exact fun _ _ _ hbare hstays hstep => (hbare.step hstays hstep).leads
  · exact run_invariant (fun _ _ _ hbare hstays hstep => (hbare.step hstays hstep).bare) h hout ht

/-- Whatever the service is asked, the brightness service inside goes through a run of its own, and
restores and cancelled boosts never get an answer from a controller. -/
theorem brightness_keeps_to_itself {boot : DisplayBoot} {es : List ManagerEvent}
    {m : DisplayManager} (hout : Always step StaysOut (start boot) es)
    (hm : run step (start boot) es = some m) :
    Leads BrightnessService.step boot.brightness.start m.brightness ∧
    (∀ isSystem displayId duration, m.restoreBrightnessInner isSystem displayId duration =
      m.forward isSystem (isValidDuration duration) displayId fun bs =>
        bs.restoreBrightness duration) ∧
    ∀ isSystem displayId, m.cancelBoostBrightnessInner isSystem displayId =
      m.forward isSystem true displayId fun bs => bs.cancelBoostBrightness 0 := by
  obtain ⟨hleads, hbare⟩ := (start_bare boot).run_leads hout hm
  exact ⟨hleads, hbare.restoreBrightnessInner, hbare.cancelBoostBrightnessInner⟩

def litBoot : DisplayBoot :=
  { displays := fun id => if id = 0 then some .on else none, brightness := { state := .on } }

def litEvents : List ManagerEvent :=
  [.request true (.overrideBrightness 100 0 0), .request true (.adjustBrightness 0 120 0),
    .request true (.restoreBrightness 0 0)]

theorem lit_display_keeps_to_itself : ∃ m, run step (start litBoot) litEvents = some m ∧
    Leads BrightnessService.step litBoot.brightness.start m.brightness := by
  refine ⟨_, rfl, (@brightness_keeps_to_itself litBoot litEvents _ ?_ rfl).1⟩
  refine ⟨trivial, fun t ht => ⟨fun c _ => Or.inl ?_, fun u _ => ⟨trivial, fun v _ => trivial⟩⟩⟩
  obtain rfl := Option.some.inj ht
  decide +kernel

/-- What holds of every run of the brightness service holds inside. -/
theorem brightness_bounded {boot : DisplayBoot} {es : List ManagerEvent} {m : DisplayManager}
    (hout : Always step StaysOut (start boot) es) (hm : run step (start boot) es = some m) :
    m.brightness.Bounded := by
  have hleads := ((start_bare boot).run_leads hout hm).1
  exact BrightnessService.Reachable.bounded
    (hleads.reachable ⟨_, [], ⟨boot.brightness, rfl⟩, rfl⟩)

end DisplayManager

/-! ## Requests that change nothing -/

namespace DisplayBoot

def hasDisplay (boot : DisplayBoot) (id : ℕ) : Bool := (boot.displays id).isSome

def findsDisplay (boot : DisplayBoot) (id : ℕ) : Bool :=
  boot.hasDisplay id || id == DEFALUT_DISPLAY_ID && boot.hasDisplay boot.mainDisplayId

/-- The requests whose arguments are turned away, or whose display is not there. -/
def rejects (boot : DisplayBoot) : DisplayRequest → Bool
  | .setDisplayState id _ _ _ => !boot.findsDisplay id
  | .setScreenDisplayState state isSet => !isSet || decide (state ≠ .on ∧ state ≠ .off)
  | .overrideDisplayOffDelay _ => false
  | .updateScreenPowerState _ => !boot.findsDisplay DEFALUT_DISPLAY_ID
  | .setScreenOnBrightness => false
  | .setBrightness _ _ _ => false
  | .discountBrightness discount id =>
    ServiceRequest.isOutRange discount 0 1 || !boot.hasDisplay id
  | .overrideBrightness _ id duration => decide (duration > 60 * 1000) || !boot.hasDisplay id
  | .restoreBrightness id duration => decide (duration > 60 * 1000) || !boot.hasDisplay id
  | .adjustBrightness id _ duration => decide (duration > 60 * 1000) || !boot.hasDisplay id
  | .autoAdjustBrightness _ => false
  | .boostBrightness timeoutMs id => decide (timeoutMs ≤ 0) || !boot.hasDisplay id
  | .cancelBoostBrightness id => !boot.hasDisplay id
  | .setMaxBrightness value _ => ServiceRequest.isOutRange value 0 1
  | .setMaxBrightnessNit maxNit _ => decide (maxNit > 100 * 1000)

end DisplayBoot

/-- The calls whose caller learns the error behind a failure. -/
def DisplayRequest.reports : DisplayRequest → Bool
  | .setBrightness _ _ _ => true
  | .setMaxBrightness _ _ => true
  | .setMaxBrightnessNit _ _ => true
  | _ => false

namespace DisplayManager

def denied (m : DisplayManager) (isSystem : Bool) (r : DisplayRequest) : DisplayManager :=
  if !isSystem && r.reports then m.note .systemApiDenied else m

end DisplayManager

open DisplayPowerMgrService (SameDisplays)

namespace DisplayBrightness

theorem startAnimation_service (s : DisplayBrightness) (id f t duration : ℕ) :
    (s.startAnimation id f t duration).service = s.service := by
  rw [startAnimation]
  dsimp only
  split
  · rfl
  · rfl

theorem updateBrightness_sameDisplays (s : DisplayBrightness) (id : ℕ) (c : ScreenController)
    (value duration : ℕ) (updateSetting : Bool) :
    SameDisplays s.service (s.updateBrightness id c value duration updateSetting).1.service := by
  rcases Nat.eq_zero_or_pos duration with rfl | hd
  · rw [updateBrightness_now]
    dsimp only
    split
    · rw [withBrightness, halted_service]
      exact SameDisplays.refl s.service
    · rw [withBrightness, halted_service]
      exact SameDisplays.refl s.service
  · rw [updateBrightness_gradual s id c value hd, startAnimation_service, halted_service]
    exact SameDisplays.refl s.service

theorem setBrightness_sameDisplays (s : DisplayBrightness) (id : ℕ) (c : ScreenController)
    (value duration : ℕ) (continuous : Bool) :
    SameDisplays s.service (s.setBrightness id c value duration continuous).1.service := by
  rw [setBrightness]
  split
  · exact SameDisplays.refl s.service
  · exact updateBrightness_sameDisplays s id c value duration _

theorem restoreBrightness_sameDisplays (s : DisplayBrightness) (id : ℕ) (c : ScreenController)
    (duration : ℕ) : SameDisplays s.service (s.restoreBrightness id c duration).1.service := by
  rw [restoreBrightness]
  split
  · exact SameDisplays.refl s.service
  · exact updateBrightness_sameDisplays _ id c _ duration true

theorem cancelBoostBrightness_sameDisplays (s : DisplayBrightness) (id : ℕ) (c : ScreenController)
    (duration : ℕ) : SameDisplays s.service (s.cancelBoostBrightness id c duration).1.service := by
  rw [cancelBoostBrightness]
  split
  · exact SameDisplays.refl s.service
  · exact updateBrightness_sameDisplays _ id c _ duration true

theorem adjustBrightnessInner_sameDisplays (s : DisplayBrightness) (isSystem : Bool) (id : ℕ)
    (value : ℤ) (duration : ℕ) :
    SameDisplays s.service (s.adjustBrightnessInner isSystem id value duration).1.service := by
  rw [adjustBrightnessInner]
  split
  · exact SameDisplays.refl s.service
  · split
    · exact SameDisplays.refl s.service
    · split
      · exact SameDisplays.refl s.service
      · dsimp only
        split
        · exact SameDisplays.refl s.service
        · exact setBrightness_sameDisplays (s.withBrightness _) id _ _ duration false

end DisplayBrightness

namespace DisplayManager

variable {boot : DisplayBoot} {m m' : DisplayManager}

theorem forward_sameDisplays (m : DisplayManager) (isSystem isValid : Bool) (displayId : ℕ)
    (f : BrightnessService → BrightnessService × Bool) :
    SameDisplays m.service (m.forward isSystem isValid displayId f).1.service := by
  rw [forward]
  split_ifs
  · exact SameDisplays.refl _
  · exact SameDisplays.refl _
  · exact SameDisplays.refl _
  · exact SameDisplays.refl _

theorem orController_sameDisplays (asked : DisplayManager × Bool) (displayId : ℕ)
    {f : DisplayBrightness → ScreenController → DisplayBrightness × Bool}
    (hf : ∀ s c, SameDisplays s.service (f s c).1.service) :
    SameDisplays asked.1.service (orController asked displayId f).1.service := by
  rw [orController]
  split
  · exact SameDisplays.refl _
  · split
    · exact SameDisplays.refl _
    · exact hf asked.1.display _

theorem request_sameDisplays (m : DisplayManager) (isSystem : Bool) (r : DisplayRequest) :
    SameDisplays m.service (m.request isSystem r).1.service := by
  cases r with
  | setDisplayState id state reason hw =>
    exact DisplayPowerMgrService.step_sameDisplays
      (e := .setDisplayState isSystem id state reason hw) rfl
  | setScreenDisplayState state isSet =>
    rw [request, setScreenDisplayState]
    split_ifs
    all_goals exact SameDisplays.refl _
  | overrideDisplayOffDelay delayMs =>
    exact DisplayPowerMgrService.step_sameDisplays
      (e := .overrideDisplayOffDelay isSystem delayMs) rfl
  | updateScreenPowerState isScreenOn =>
    exact DisplayPowerMgrService.step_sameDisplays
      (e := .updateScreenPowerState isSystem isScreenOn) rfl
  | setScreenOnBrightness =>
    rw [request, setScreenOnBrightnessInner]
    split
    all_goals exact SameDisplays.refl _
  | setBrightness value displayId continuous =>
    rw [request, setBrightnessInner]
    split
    all_goals exact SameDisplays.refl _
  | discountBrightness discount displayId => exact m.forward_sameDisplays isSystem _ displayId _
  | overrideBrightness brightness displayId duration =>
    exact m.forward_sameDisplays isSystem _ displayId _
  | restoreBrightness displayId duration =>
    rw [request, restoreBrightnessInner]
    have hforward := m.forward_sameDisplays isSystem (isValidDuration duration) displayId
      fun bs => bs.restoreBrightness duration
    split
    · exact hforward
    · exact hforward.trans (orController_sameDisplays _ displayId fun s c =>
        s.restoreBrightness_sameDisplays displayId c 0)
  | adjustBrightness id value duration =>
    exact m.display.adjustBrightnessInner_sameDisplays isSystem id value duration
  | autoAdjustBrightness enable =>
    rw [request, autoAdjustBrightnessInner]
    split
    all_goals exact SameDisplays.refl _
  | boostBrightness timeoutMs displayId => exact m.forward_sameDisplays isSystem _ displayId _
  | cancelBoostBrightness displayId =>
    rw [request, cancelBoostBrightnessInner]
    have hforward := m.forward_sameDisplays isSystem true displayId
      fun bs => bs.cancelBoostBrightness 0
    split
    · exact hforward
    · exact hforward.trans (orController_sameDisplays _ displayId fun s c =>
        s.cancelBoostBrightness_sameDisplays displayId c 0)
  | setMaxBrightness value mode =>
    rw [request, setMaxBrightnessInner]
    dsimp only
    split
    all_goals exact SameDisplays.refl _
  | setMaxBrightnessNit maxNit mode =>
    rw [request, setMaxBrightnessNitInner]
    dsimp only
    split
    all_goals exact SameDisplays.refl _

theorem step_sameDisplays {e : ManagerEvent} (ht : m.step e = some m') :
    SameDisplays m.service m'.service := by
  cases e with
  | request isSystem r =>
    obtain rfl := Option.some.inj ht
    exact m.request_sameDisplays isSystem r
  | getError =>
    obtain rfl := Option.some.inj ht
    exact SameDisplays.refl _
  | screenOffDelay task hw =>
    obtain ⟨service, hservice, rfl⟩ := Option.map_eq_some_iff.mp ht
    exact DisplayPowerMgrService.step_sameDisplays (e := .screenOffDelay task hw) hservice
  | settingTask task =>
    obtain ⟨display, hdisplay, rfl⟩ := Option.map_eq_some_iff.mp ht
    obtain ⟨value, _, rfl⟩ := Option.map_eq_some_iff.mp hdisplay
    exact SameDisplays.refl _
  | animatorTask task =>
    obtain ⟨display, hdisplay, rfl⟩ := Option.map_eq_some_iff.mp ht
    have hservice := DisplayBrightness.runAnimatorTask_service hdisplay
    change SameDisplays m.display.service display.service
    rw [hservice]
    exact SameDisplays.refl _
  | brightness e =>
    rw [step] at ht
    split at ht
    · obtain ⟨bs, _, rfl⟩ := Option.map_eq_some_iff.mp ht
      exact SameDisplays.refl _
    · cases ht
  | handleBootBrightness =>
    obtain rfl := Option.some.inj ht
    rw [handleBootBrightness]
    split
    · exact SameDisplays.refl _
    · exact SameDisplays.refl _

def HasDisplaysOf (boot : DisplayBoot) (m : DisplayManager) : Prop :=
  SameDisplays boot.start m.service

theorem HasDisplaysOf.hasDisplay (h : m.HasDisplaysOf boot) (id : ℕ) :
    m.hasDisplay id = boot.hasDisplay id := by
  rw [DisplayManager.hasDisplay, h.2 id]
  exact Option.isSome_map

theorem HasDisplaysOf.controllerMap (h : m.HasDisplaysOf boot) {id : ℕ}
    (hid : boot.hasDisplay id = false) : m.service.controllerMap id = none := by
  rw [← h.hasDisplay id] at hid
  exact Option.not_isSome_iff_eq_none.mp (by simpa [DisplayManager.hasDisplay] using hid)

theorem HasDisplaysOf.findController (h : m.HasDisplaysOf boot) {id : ℕ}
    (hid : boot.findsDisplay id = false) : m.service.findController id = none := by
  rw [DisplayBoot.findsDisplay, Bool.or_eq_false_iff, Bool.and_eq_false_iff] at hid
  obtain ⟨hnone, hmain⟩ := hid
  rw [DisplayPowerMgrService.findController, h.controllerMap hnone]
  dsimp only
  split
  · rfl
  · rename_i hdefault
    have hmain : boot.hasDisplay boot.mainDisplayId = false :=
      hmain.resolve_left (by simpa using hdefault)
    have hid : m.service.mainDisplayId = boot.mainDisplayId := h.1
    rw [hid, h.controllerMap hmain]
    rfl

end DisplayManager

end DisplayPowerMgr
