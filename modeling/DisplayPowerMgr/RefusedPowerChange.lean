import DisplayPowerMgr.OneDisplay

/-! What a power change that the display manager refuses leaves behind, in the controller and
in the brightness service, which was told first. -/
namespace DisplayPowerMgr

namespace BrightnessConfig

def SensorsStay (cfg : BrightnessConfig) (sensors : AmbientSensors) (state : DisplayState) : Prop :=
  cfg.hasAutoSensor = true →
    if state.isScreenOn then cfg.isSensing sensors = true ∨ cfg.currentSensor = none
    else cfg.isSensing sensors = false

def SensorsReturn (cfg : BrightnessConfig) (sensors : AmbientSensors) (back : DisplayState) :
    Prop :=
  cfg.hasAutoSensor = true →
    if back.isScreenOn then
      cfg.currentSensor = none ∨ cfg.isSensing sensors = true ∧ (cfg.isFoldable = true →
        ∀ sensor, sensors.isEnabled sensor = true → cfg.currentSensor = some sensor)
    else cfg.isSensing sensors = false

theorem first_of_not_foldable {cfg : BrightnessConfig} {sensor : AmbientSensor}
    (hfold : cfg.isFoldable = false) (hcurrent : cfg.currentSensor = some sensor) :
    sensor = .first := by
  rw [cfg.first_of_rigid hfold] at hcurrent
  exact (Option.some.inj hcurrent).symm

theorem isSensing_sensorsOff {cfg : BrightnessConfig} (h : cfg.hasAutoSensor = true)
    (sensors : AmbientSensors) : cfg.isSensing (cfg.sensorsOff sensors) = false := by
  rw [sensorsOff, h, Bool.true_and]
  by_cases hsensing : cfg.isSensing sensors = true
  · rw [if_pos hsensing, isSensing]
    cases hcurrent : cfg.currentSensor with
    | none => rfl
    | some sensor =>
      cases hfold : cfg.isFoldable with
      | false =>
        cases first_of_not_foldable hfold hcurrent
        rfl
      | true => cases sensor <;> rfl
  · rw [if_neg hsensing]
    exact Bool.eq_false_iff.mpr hsensing

theorem sensorsOff_eq_iff (cfg : BrightnessConfig) (sensors : AmbientSensors) :
    cfg.sensorsOff sensors = sensors ↔
      (cfg.hasAutoSensor = true → cfg.isSensing sensors = false) := by
  constructor
  · intro hsame hhas
    rw [← hsame]
    exact isSensing_sensorsOff hhas sensors
  · intro hoff
    rw [sensorsOff, if_neg]
    intro hboth
    obtain ⟨hhas, hsensing⟩ := Bool.and_eq_true_iff.mp hboth
    rw [hoff hhas] at hsensing
    cases hsensing

theorem sensorsOn_eq_iff (cfg : BrightnessConfig) (sensors : AmbientSensors) :
    cfg.sensorsOn sensors = sensors ↔ (cfg.hasAutoSensor = true →
      cfg.isSensing sensors = true ∨ cfg.currentSensor = none) := by
  rw [sensorsOn, isSensing]
  cases cfg.hasAutoSensor with
  | false => simp
  | true =>
    rcases cfg.currentSensor with _ | sensor
    · simp
    · obtain ⟨first, second⟩ := sensors
      cases sensor <;> cases first <;> cases second <;>
        simp [AmbientSensors.isEnabled, AmbientSensors.enable]

theorem enterSensors_eq_iff (cfg : BrightnessConfig) (sensors : AmbientSensors)
    (state : DisplayState) :
    cfg.enterSensors sensors state = sensors ↔ cfg.SensorsStay sensors state := by
  rw [enterSensors, SensorsStay]
  by_cases hon : state.isScreenOn = true
  · simp only [hon, if_true]
    exact sensorsOn_eq_iff cfg sensors
  · simp only [hon, if_false, Bool.false_eq_true]
    exact sensorsOff_eq_iff cfg sensors

theorem forall_sensor {p : AmbientSensor → Prop} : (∀ sensor, p sensor) ↔ p .first ∧ p .second := by
  constructor
  · intro h
    exact ⟨h .first, h .second⟩
  · rintro ⟨hfirst, hsecond⟩ sensor
    cases sensor with
    | first => exact hfirst
    | second => exact hsecond

theorem sensorsOn_sensorsOff_iff {cfg : BrightnessConfig} (hhas : cfg.hasAutoSensor = true)
    (sensors : AmbientSensors) :
    cfg.sensorsOn (cfg.sensorsOff sensors) = sensors ↔
      cfg.currentSensor = none ∨ cfg.isSensing sensors = true ∧ (cfg.isFoldable = true →
        ∀ sensor, sensors.isEnabled sensor = true → cfg.currentSensor = some sensor) := by
  cases hcurrent : cfg.currentSensor with
  | none => simp [sensorsOn, sensorsOff, isSensing, hcurrent]
  | some sensor =>
    obtain ⟨first, second⟩ := sensors
    rw [sensorsOn, sensorsOff, isSensing, hhas, hcurrent]
    cases hfold : cfg.isFoldable with
    | false =>
      cases first_of_not_foldable hfold hcurrent
      cases first <;> simp [AmbientSensors.isEnabled, AmbientSensors.enable]
    | true =>
      rw [forall_sensor]
      cases sensor <;> cases first <;> cases second <;>
        simp [AmbientSensors.isEnabled, AmbientSensors.enable]

theorem returnSensors_eq_iff (cfg : BrightnessConfig) (sensors : AmbientSensors)
    {via : DisplayState} (hvia : via.isScreenOn = false) (back : DisplayState) :
    cfg.enterSensors (cfg.enterSensors sensors via) back = sensors ↔
      cfg.SensorsReturn sensors back := by
  have henter : cfg.enterSensors sensors via = cfg.sensorsOff sensors := by
    rw [enterSensors, if_neg (by simp [hvia])]
  rw [henter, enterSensors, SensorsReturn]
  cases hhas : cfg.hasAutoSensor with
  | false => simp [sensorsOn, sensorsOff, hhas]
  | true =>
    by_cases hon : back.isScreenOn = true
    · rw [if_pos hon, if_pos hon, sensorsOn_sensorsOff_iff hhas]
      simp
    · rw [if_neg hon, if_neg hon]
      have hidem : cfg.sensorsOff (cfg.sensorsOff sensors) = cfg.sensorsOff sensors := by
        rw [sensorsOff_eq_iff]
        intro _
        exact isSensing_sensorsOff hhas sensors
      rw [hidem, sensorsOff_eq_iff, hhas]

/-- Entering the state, which is not dim, changes nothing. -/
structure Stays (cfg : BrightnessConfig) (m : BrightnessMode) (state : DisplayState) : Prop where
  stored : m.state = state
  sensors : cfg.SensorsStay m.sensors state
  awake : state = .off ∨ state = .on → m.isSleepStatus = false
  target : state = .off → m.brightnessTarget = 0

/-- What off or doze, and then `back`, make of the override that dims the screen. -/
def SleepReturns (cfg : BrightnessConfig) (m : BrightnessMode) (via : DisplayState) :
    DisplayState → Prop
  | .on | .off => m.isSleepStatus = false
  | .dim =>
    if cfg.settingBrightness ≤ BrightnessService.MIN_DEFAULT_BRGIHTNESS_LEVEL then
      via = .off → m.isSleepStatus = false
    else
      m.isSleepStatus = true ∧
        if cfg.isBrightnessBoosted then via = .off → m.isBrightnessOverridden = false
        else m.isBrightnessOverridden = true ∧ m.overriddenBrightness = cfg.sleepBrightness
  | _ => via = .off → m.isSleepStatus = false

/-- Entering off or doze, and then `back`, changes nothing. -/
structure Returns (cfg : BrightnessConfig) (m : BrightnessMode) (via back : DisplayState) :
    Prop where
  stored : m.state = back
  sensors : cfg.SensorsReturn m.sensors back
  sleep : cfg.SleepReturns m via back
  target : via = .off ∨ back = .off → m.brightnessTarget = 0

theorem enter_eq_iff (cfg : BrightnessConfig) (m : BrightnessMode) {state : DisplayState}
    (hdim : state ≠ .dim) : cfg.enter m state = m ↔ cfg.Stays m state := by
  have hsensors := cfg.enterSensors_eq_iff m.sensors state
  obtain ⟨stored, overridden, value, sleep, target, sensors⟩ := m
  rw [enter]
  generalize cfg.enterSensors sensors state = sensors' at hsensors ⊢
  constructor
  · intro hsame
    cases state with
    | dim => exact absurd rfl hdim
    | off =>
      simp only [settle, BrightnessMode.mk.injEq] at hsame
      obtain ⟨rfl, _, _, rfl, rfl, hs⟩ := hsame
      exact ⟨rfl, hsensors.mp hs, fun _ => rfl, fun _ => rfl⟩
    | on =>
      simp only [settle, BrightnessMode.mk.injEq] at hsame
      obtain ⟨rfl, _, _, rfl, _, hs⟩ := hsame
      exact ⟨rfl, hsensors.mp hs, fun _ => rfl, by simp⟩
    | _ =>
      simp only [settle, BrightnessMode.mk.injEq] at hsame
      obtain ⟨rfl, _, _, _, _, hs⟩ := hsame
      exact ⟨rfl, hsensors.mp hs, by simp, by simp⟩
  · rintro ⟨rfl, hs, hawake, htarget⟩
    obtain rfl : sensors' = sensors := hsensors.mpr hs
    cases stored with
    | dim => exact absurd rfl hdim
    | off =>
      obtain rfl : sleep = false := hawake (Or.inl rfl)
      obtain rfl : target = 0 := htarget rfl
      rfl
    | on =>
      obtain rfl : sleep = false := hawake (Or.inr rfl)
      rfl
    | _ => rfl

theorem returns_iff (cfg : BrightnessConfig) (m : BrightnessMode) (via back : DisplayState) :
    cfg.Returns m via back ↔ m.state = back ∧ cfg.SensorsReturn m.sensors back ∧
      cfg.SleepReturns m via back ∧ (via = .off ∨ back = .off → m.brightnessTarget = 0) :=
  ⟨fun h => ⟨h.stored, h.sensors, h.sleep, h.target⟩,
    fun ⟨hstored, hsensors, hsleep, htarget⟩ => ⟨hstored, hsensors, hsleep, htarget⟩⟩

theorem enter_enter_eq_iff (cfg : BrightnessConfig) (m : BrightnessMode) {via back : DisplayState}
    (hvia : via = .off ∨ via = .doze) :
    cfg.enter (cfg.enter m via) back = m ↔ cfg.Returns m via back := by
  have hscreen : via.isScreenOn = false := by rcases hvia with rfl | rfl <;> rfl
  rw [returns_iff, ← cfg.returnSensors_eq_iff m.sensors hscreen back]
  obtain ⟨stored, overridden, value, sleep, target, sensors⟩ := m
  have hsensors : (cfg.enter ⟨stored, overridden, value, sleep, target, sensors⟩ via).sensors =
      cfg.enterSensors sensors via := by
    rcases hvia with rfl | rfl <;> rfl
  rw [enter, hsensors]
  generalize cfg.enterSensors (cfg.enterSensors sensors via) back = sensors'
  rcases hvia with rfl | rfl
  · cases back with
    | dim =>
      by_cases hmin : cfg.settingBrightness ≤ BrightnessService.MIN_DEFAULT_BRGIHTNESS_LEVEL
      · cases sleep <;> simp [enter, settle, SleepReturns, hmin, eq_comm, and_comm]
      · cases hboost : cfg.isBrightnessBoosted
        · cases sleep <;> simp [enter, settle, SleepReturns, hmin, hboost, eq_comm]
          tauto
        · cases sleep <;> simp [enter, settle, SleepReturns, hmin, hboost, eq_comm]
          tauto
    | _ => cases sleep <;> simp [enter, settle, SleepReturns, eq_comm, and_comm]
  · cases back with
    | dim =>
      by_cases hmin : cfg.settingBrightness ≤ BrightnessService.MIN_DEFAULT_BRGIHTNESS_LEVEL
      · simp [enter, settle, SleepReturns, hmin, eq_comm]
      · cases hboost : cfg.isBrightnessBoosted
        · simp [enter, settle, SleepReturns, hmin, hboost, eq_comm]
          tauto
        · simp [enter, settle, SleepReturns, hmin, hboost, eq_comm]
          tauto
    | _ => cases sleep <;> simp [enter, settle, SleepReturns, eq_comm, and_comm]

end BrightnessConfig

namespace RefusedPowerChange

open DisplayPowerMgrService

def cachedState (s : DisplayPowerMgrService) (id : ℕ) : Option DisplayState :=
  (s.controllerMap id).map (·.state)

/-- The cached state of the display and all that the brightness service keeps about a power
change are the same. -/
def SameTrace (id : ℕ) (s t : DisplayPowerMgrService) : Prop :=
  cachedState t id = cachedState s id ∧
    t.host.brightness.mode = s.host.brightness.mode

/-- The request is one for which the display manager is asked at once. -/
def AsksAtOnce (s : DisplayPowerMgrService) (c : ScreenController) (state : DisplayState)
    (reason : StateChangeReason) : Prop :=
  (s.isDisplayDelayOff = true → state ≠ .off ∧ state ≠ .doze ∧ state ≠ .on) ∧
    c.ignores state reason = false ∧ c.needsCommand state = true

/-- A refusal leaves no trace, whether it comes at once or when the delayed screen-off that the
request submits fires right after it. -/
def LeavesNoTrace (s : DisplayPowerMgrService) (id : ℕ) (state : DisplayState)
    (reason : StateChangeReason) : Prop :=
  ∀ id' c, s.findController id = some (id', c) →
    (AsksAtOnce s c state reason → ∀ hw : HwAnswer, hw.setDisplayState = false →
      SameTrace id' s (s.setDisplayStateInner true id state reason hw).1) ∧
    (s.isDisplayDelayOff = true → state = .off ∨ state = .doze →
      ∀ hw hw' u, hw'.setDisplayState = false →
        (s.setDisplayStateInner true id state reason hw).1.runScreenOffDelay
          s.screenOffDelayTasks.next hw' = some u → SameTrace id' s u)

/-- A delayed request finds the display waiting already and changes nothing. Off and doze are
undone by a return to the cached state that must change nothing on the whole; the other
requests are not undone and must not change anything themselves. -/
def Reversible (s : DisplayPowerMgrService) (c : ScreenController) (state : DisplayState) : Prop :=
  let cfg := s.host.brightness.config
  let m := s.host.brightness.mode
  match state with
  | .off | .doze =>
    if s.isDisplayDelayOff then c.state = .delayOff ∧ cfg.Stays m state
    else c.state = state ∨ cfg.Returns m state c.state
  | .on => s.isDisplayDelayOff = true ∨ c.state = .on ∨ c.state = .dim ∨ cfg.Stays m .on
  | .dozeSuspend => c.state = .dozeSuspend ∨ cfg.Stays m .dozeSuspend
  | _ => True

theorem cachedState_setController (s : DisplayPowerMgrService) (id : ℕ)
    (c : ScreenController) : cachedState (s.setController id c) id = some c.state := by
  rw [cachedState, setController_controllerMap, Function.update_self]
  rfl

theorem cachedState_of_some {s : DisplayPowerMgrService} {id : ℕ} {c : ScreenController}
    (hc : s.controllerMap id = some c) : cachedState s id = some c.state := by
  rw [cachedState, hc]
  rfl

theorem undoSetDisplayStateInner_mode (s : DisplayPowerMgrService) (curState : DisplayState) :
    (s.undoSetDisplayStateInner curState).host.brightness.mode =
      s.host.brightness.config.enter s.host.brightness.mode curState := by
  have hmode := (s.host.brightness.setDisplayState_mode curState).2
  rw [undoSetDisplayStateInner]
  by_cases hlit : curState = .on ∨ curState = .dim
  · simp only [hlit, if_true]
    exact (BrightnessService.setScreenOnBrightness_mode _).1.trans hmode
  · simp only [hlit, if_false]
    exact hmode

theorem updateState_refused {c : ScreenController} {host : DisplayHost} {state : DisplayState}
    {reason : StateChangeReason} (hplain : reason.isPreBright = false) {hw : HwAnswer}
    (hrefuse : hw.setDisplayState = false) (hignore : c.ignores state reason = false)
    (hneeds : c.needsCommand state = true) :
    c.updateState host state reason hw = (c, host, false) := by
  have hcommand : c.commandState host state reason hw = none := by
    rw [ScreenController.commandState, if_pos hneeds,
      if_neg (by simp [(ScreenController.noSkip_of_plain hplain).2.1]),
      DisplayHost.setDisplayState, hrefuse]
    rfl
  rw [ScreenController.updateState, if_neg (by simp [hignore]), hcommand]

/-- A refusal at once: the brightness service has entered the state, and has come back to the
cached one if the screen was to go off. -/
theorem refused_at_once {s : DisplayPowerMgrService} {id id' : ℕ} {c : ScreenController}
    (hfind : s.findController id = some (id', c)) {state : DisplayState}
    {reason : StateChangeReason} (hplain : reason.isPreBright = false)
    (hasks : AsksAtOnce s c state reason) {hw : HwAnswer} (hrefuse : hw.setDisplayState = false) :
    SameTrace id' s (s.setDisplayStateInner true id state reason hw).1 ↔
      let cfg := s.host.brightness.config
      let m := s.host.brightness.mode
      if state = .off ∨ state = .doze then cfg.enter (cfg.enter m state) c.state = m
      else cfg.enter m state = m := by
  have hc := (findController_some hfind).1
  obtain ⟨hconfig, hmode⟩ := s.host.brightness.setDisplayState_mode state
  have hupdate : (s.setBrightnessState state).updateState id' c state reason hw =
      ((s.setBrightnessState state).setController id' c, false) := by
    rw [DisplayPowerMgrService.updateState,
      updateState_refused hplain hrefuse hasks.2.1 hasks.2.2]
  have hchange := setDisplayStateInner_change hfind state reason hw
  generalize s.setDisplayStateInner true id state reason hw = r at hchange ⊢
  cases hchange with
  | submitted armed isOff =>
    rcases isOff with rfl | rfl
    · exact absurd rfl (hasks.1 armed).1
    · exact absurd rfl (hasks.1 armed).2.1
  | cancelled armed isOn => exact absurd isOn (hasks.1 armed).2.2
  | applied t _ same kept undone =>
    have hstate : cachedState t id' = cachedState s id' := by
      rw [same, hupdate, cachedState_of_some hc]
      exact cachedState_setController (s.setBrightnessState state) id' c
    rw [SameTrace, hstate]
    simp only [true_and]
    by_cases hoff : state = .off ∨ state = .doze
    · rw [if_pos hoff, undone hoff (by rw [hupdate]), hupdate, undoSetDisplayStateInner_mode,
        ← hmode, ← hconfig]
      rfl
    · rw [if_neg hoff, kept (fun h => absurd h hoff), hupdate, ← hmode]
      rfl

theorem screenOffDelay_refused {s : DisplayPowerMgrService} {id : ℕ} {c : ScreenController}
    (hc : s.controllerMap id = some c) {state : DisplayState} {reason : StateChangeReason}
    (hplain : reason.isPreBright = false) {hw : HwAnswer} (hrefuse : hw.setDisplayState = false)
    (hignore : c.ignores state reason = false) (hneeds : c.needsCommand state = true) :
    s.screenOffDelay id state reason hw =
      { s with isDisplayDelayOff := false }.setController id c := by
  rw [screenOffDelay]
  simp only [hc]
  rw [DisplayPowerMgrService.updateState, updateState_refused hplain hrefuse hignore hneeds]

theorem delayed_request {s : DisplayPowerMgrService} {id id' : ℕ} {c : ScreenController}
    (hfind : s.findController id = some (id', c)) {state : DisplayState}
    (harmed : s.isDisplayDelayOff = true) (hoff : state = .off ∨ state = .doze)
    (reason : StateChangeReason) (hw : HwAnswer) :
    (s.setDisplayStateInner true id state reason hw).1 =
      (s.setBrightnessState state).submitScreenOff id' c state reason := by
  have hchange := setDisplayStateInner_change hfind state reason hw
  generalize s.setDisplayStateInner true id state reason hw = r at hchange ⊢
  cases hchange with
  | submitted => rfl
  | cancelled _ isOn => simp [isOn] at hoff
  | applied t free =>
    rcases hoff with hoff | hoff
    · exact absurd hoff (free harmed).1
    · exact absurd hoff (free harmed).2.1

/-- A refusal of the screen-off that the request submitted: the display keeps waiting. -/
theorem refused_later {s u : DisplayPowerMgrService} {id id' : ℕ} {c : ScreenController}
    (hfind : s.findController id = some (id', c)) {state : DisplayState}
    {reason : StateChangeReason} (hplain : reason.isPreBright = false)
    (harmed : s.isDisplayDelayOff = true) (hoff : state = .off ∨ state = .doze)
    {hw hw' : HwAnswer} (hrefuse : hw'.setDisplayState = false)
    (hfire : (s.setDisplayStateInner true id state reason hw).1.runScreenOffDelay
      s.screenOffDelayTasks.next hw' = some u) :
    SameTrace id' s u ↔ c.state = .delayOff ∧
      s.host.brightness.config.enter s.host.brightness.mode state = s.host.brightness.mode := by
  have hc := (findController_some hfind).1
  have hmode := (s.host.brightness.setDisplayState_mode state).2
  rw [delayed_request hfind harmed hoff reason hw] at hfire
  obtain ⟨_, _, rfl⟩ := runScreenOffDelay_some hfire
  have hdelay : ((s.setBrightnessState state).submitScreenOff id' c state reason).controllerMap
      id' = some c.setDelayOffState := Function.update_self _ _ _
  have hignore : c.setDelayOffState.ignores state reason = false := by
    rcases hoff with rfl | rfl <;> simp [ScreenController.ignores,
      ScreenController.setDelayOffState]
  have hneeds : c.setDelayOffState.needsCommand state = true := by
    rcases hoff with rfl | rfl <;> rfl
  have hlast := screenOffDelay_refused
    (s := { (s.setBrightnessState state).submitScreenOff id' c state reason with
      screenOffDelayTasks := ((s.setBrightnessState state).submitScreenOff id' c state
        reason).screenOffDelayTasks.remove s.screenOffDelayTasks.next })
    hdelay hplain hrefuse hignore hneeds
  have hsame := congrArg (fun t => SameTrace id' s t) hlast
  refine (iff_of_eq hsame).trans ?_
  rw [SameTrace, cachedState_setController, cachedState_of_some hc, ← hmode]
  simp only [Option.some.injEq]
  exact and_congr_left' eq_comm

theorem at_once_iff {s : DisplayPowerMgrService} {id id' : ℕ} {c : ScreenController}
    (hfind : s.findController id = some (id', c)) (state : DisplayState)
    {reason : StateChangeReason} (hplain : reason.isPreBright = false) :
    (AsksAtOnce s c state reason → ∀ hw : HwAnswer, hw.setDisplayState = false →
      SameTrace id' s (s.setDisplayStateInner true id state reason hw).1) ↔
      (AsksAtOnce s c state reason →
        let cfg := s.host.brightness.config
        let m := s.host.brightness.mode
        if state = .off ∨ state = .doze then cfg.Returns m state c.state
        else cfg.Stays m state) := by
  apply imp_congr_right
  intro hasks
  have hback : (if state = .off ∨ state = .doze then
        s.host.brightness.config.enter (s.host.brightness.config.enter s.host.brightness.mode state)
          c.state = s.host.brightness.mode
      else s.host.brightness.config.enter s.host.brightness.mode state =
        s.host.brightness.mode) ↔
      if state = .off ∨ state = .doze then
        s.host.brightness.config.Returns s.host.brightness.mode state c.state
      else s.host.brightness.config.Stays s.host.brightness.mode state := by
    by_cases hoff : state = .off ∨ state = .doze
    · rw [if_pos hoff, if_pos hoff]
      exact BrightnessConfig.enter_enter_eq_iff _ _ hoff
    · rw [if_neg hoff, if_neg hoff]
      apply BrightnessConfig.enter_eq_iff
      rintro rfl
      cases hasks.2.2
  constructor
  · intro h
    exact hback.mp ((refused_at_once hfind hplain hasks rfl).mp
      (h { setDisplayState := false } rfl))
  · intro h hw hrefuse
    exact (refused_at_once hfind hplain hasks hrefuse).mpr (hback.mpr h)

theorem later_iff {s : DisplayPowerMgrService} {id id' : ℕ} {c : ScreenController}
    (hfind : s.findController id = some (id', c)) {state : DisplayState}
    {reason : StateChangeReason} (hplain : reason.isPreBright = false)
    (harmed : s.isDisplayDelayOff = true) (hoff : state = .off ∨ state = .doze) :
    (∀ hw hw' u, hw'.setDisplayState = false →
      (s.setDisplayStateInner true id state reason hw).1.runScreenOffDelay
        s.screenOffDelayTasks.next hw' = some u → SameTrace id' s u) ↔
      c.state = .delayOff ∧ s.host.brightness.config.Stays s.host.brightness.mode state := by
  have hdim : state ≠ .dim := by rcases hoff with rfl | rfl <;> simp
  rw [← BrightnessConfig.enter_eq_iff _ _ hdim]
  constructor
  · intro h
    have hmem : (s.screenOffDelayTasks.next, ⟨id', state, reason⟩) ∈
        (s.setDisplayStateInner true id state reason {}).1.screenOffDelayTasks.pending := by
      rw [delayed_request hfind harmed hoff reason {}]
      exact List.mem_append_right _ (List.mem_singleton.mpr rfl)
    have hfire := runScreenOffDelay_of_mem hmem { setDisplayState := false }
    exact (refused_later hfind hplain harmed hoff rfl hfire).mp
      (h {} { setDisplayState := false } _ rfl hfire)
  · intro h hw hw' u hrefuse hfire
    exact (refused_later hfind hplain harmed hoff hrefuse hfire).mpr h

theorem asksAtOnce_iff {s : DisplayPowerMgrService} {c : ScreenController}
    {state : DisplayState} {reason : StateChangeReason} (hplain : reason.isPreBright = false) :
    AsksAtOnce s c state reason ↔
      (s.isDisplayDelayOff = true → state ≠ .off ∧ state ≠ .doze ∧ state ≠ .on) ∧
        c.state ≠ state ∧ c.needsCommand state = true := by
  have hne : reason ≠ .preBrightAuthFailScreenOff := (ScreenController.noSkip_of_plain hplain).2.2
  rw [AsksAtOnce]
  apply and_congr_right'
  constructor
  · rintro ⟨hignore, hneeds⟩
    exact ⟨(ScreenController.ne_of_not_ignored hignore hne).1.symm, hneeds⟩
  · rintro ⟨hc, hneeds⟩
    refine ⟨Bool.eq_false_iff.mpr ?_, hneeds⟩
    intro hignore
    rcases ScreenController.ignores_iff.mp hignore with ⟨_, heq⟩ | ⟨rfl, _⟩
    · exact hc heq.symm
    · cases hneeds

theorem reversible_iff {s : DisplayPowerMgrService} {c : ScreenController} {state : DisplayState}
    {reason : StateChangeReason} (hplain : reason.isPreBright = false) :
    (AsksAtOnce s c state reason →
        let cfg := s.host.brightness.config
        let m := s.host.brightness.mode
        if state = .off ∨ state = .doze then cfg.Returns m state c.state
        else cfg.Stays m state) ∧
      (s.isDisplayDelayOff = true → state = .off ∨ state = .doze →
        c.state = .delayOff ∧ s.host.brightness.config.Stays s.host.brightness.mode state) ↔
      Reversible s c state := by
  rw [asksAtOnce_iff hplain]
  cases state with
  | off =>
    rw [Reversible]
    cases s.isDisplayDelayOff with
    | true => simp
    | false => by_cases hc : c.state = .off <;> simp [hc, ScreenController.needsCommand]
  | doze =>
    rw [Reversible]
    cases s.isDisplayDelayOff with
    | true => simp
    | false => by_cases hc : c.state = .doze <;> simp [hc, ScreenController.needsCommand]
  | on =>
    rw [Reversible]
    by_cases hc : c.state = .on
    · simp [hc]
    · by_cases hdim : c.state = .dim
      · simp [hdim, ScreenController.needsCommand]
      · cases s.isDisplayDelayOff <;> simp [hc, hdim, ScreenController.needsCommand]
  | dozeSuspend =>
    rw [Reversible]
    by_cases hc : c.state = .dozeSuspend <;> simp [hc, ScreenController.needsCommand]
  | _ => simp [Reversible, ScreenController.needsCommand]

/-- In every state of the service, and so in every state it reaches, a refusal of the request
leaves no trace if and only if the request is reversible there. -/
theorem no_trace_iff (s : DisplayPowerMgrService) (id : ℕ) (state : DisplayState)
    {reason : StateChangeReason} (hplain : reason.isPreBright = false) :
    LeavesNoTrace s id state reason ↔
      ∀ id' c, s.findController id = some (id', c) → Reversible s c state := by
  rw [LeavesNoTrace]
  apply forall_congr'
  intro id'
  apply forall_congr'
  intro c
  apply imp_congr_right
  intro hfind
  rw [← reversible_iff hplain, at_once_iff hfind state hplain]
  apply and_congr_right'
  apply imp_congr_right
  intro harmed
  apply imp_congr_right
  intro hoff
  exact later_iff hfind hplain harmed hoff

/-- Off refused right after boot. -/
theorem no_trace_at_boot : LeavesNoTrace (oneDisplayBoot .on).start 0 .off (.other 1) := by
  refine (no_trace_iff _ 0 .off rfl).mpr ?_
  rintro id' c hfind
  obtain ⟨rfl, rfl⟩ := Prod.mk.inj (Option.some.inj hfind)
  exact Or.inr ⟨rfl, fun h => absurd h (by decide), rfl, fun _ => rfl⟩

/-- A screen-on request that is refused leaves the brightness service in the on state. -/
theorem refused_on_leaves_trace :
    ¬∀ s, Reachable s → ∀ id state (reason : StateChangeReason), reason.isPreBright = false →
      LeavesNoTrace s id state reason := by
  intro h
  have hreachable : Reachable (oneDisplayBoot .off).start :=
    ⟨(oneDisplayBoot .off).start, [], ⟨oneDisplayBoot .off, rfl⟩, rfl⟩
  have htrace := (h _ hreachable 0 .on (.other 1) rfl 0 _ rfl).1
    ⟨(fun harmed => nomatch harmed), rfl, rfl⟩ { setDisplayState := false } rfl
  have hstate := congrArg BrightnessMode.state htrace.2
  exact absurd hstate (by decide)

end RefusedPowerChange

end DisplayPowerMgr
