import DisplayPowerMgr.AmbientSensorRuns

/-! The automatic-brightness switch of `DisplayPowerMgrService`. The flag of `BrightnessService`
and the persisted setting follow each other through two timers of one queue and an observer;
when nothing is left to do, do they agree? -/
namespace DisplayPowerMgr

/-- What the timer `ID_AUTO_SWITCH_CALLBACK` was set to. -/
inductive SwitchCallback where
  | bootCompleted
  | settingUpdate
  deriving DecidableEq, Repr

/-- What is left to do of the timer task that runs: the switch, then the offset, or only that. -/
inductive SwitchTask where
  | adjust (enable clears : Bool)
  | clearOffset
  deriving DecidableEq, Repr

/-- `updateTimer` is `ID_AUTO_SWITCH_UPDATE` with the value to write, `notices` counts the changes
of the setting that the observer was not yet called for. -/
structure AutoBrightnessSwitch where
  brightness : BrightnessService
  callbackTimer : Option SwitchCallback := none
  updateTimer : Option Bool := none
  running : Option SwitchTask := none
  notices : ℕ := 0

inductive SwitchEvent where
  | autoAdjustBrightness (isSystem enable : Bool)
  | writeSetting (enable : Bool)
  | settingObserved
  | callbackFires
  | updateFires
  | resumes
  deriving DecidableEq, Repr

namespace AutoBrightnessSwitch

def isEnabled (sw : AutoBrightnessSwitch) : Bool := sw.brightness.isAutoBrightnessEnabled

def setting (sw : AutoBrightnessSwitch) : Bool := sw.brightness.settings.autoBrightness

def hold (sw : AutoBrightnessSwitch) (brightness : BrightnessService) : AutoBrightnessSwitch :=
  { sw with
    brightness := brightness
    notices :=
      if brightness.settings.autoBrightness = sw.setting then sw.notices else sw.notices + 1 }

def writeSetting (sw : AutoBrightnessSwitch) (enable : Bool) : AutoBrightnessSwitch :=
  sw.hold (sw.brightness.setSettingAutoBrightness enable)

/-- `AutoAdjustBrightnessInner`, which holds a mutex throughout. -/
def autoAdjustBrightnessInner (sw : AutoBrightnessSwitch) (isSystem enable updateSetting : Bool) :
    AutoBrightnessSwitch :=
  if !isSystem then sw
  else
    let (brightness, ret) := sw.brightness.autoAdjustBrightness enable
    let sw := sw.hold brightness
    if !ret || !updateSetting then sw
    else { sw with callbackTimer := none, updateTimer := some enable }

/-- The tasks of the callback timer up to the call of `AutoAdjustBrightnessInner`: the one of
`HandleBootBrightness`, and `AutoBrightnessSettingUpdateFunc`. -/
def callback (sw : AutoBrightnessSwitch) : SwitchCallback → AutoBrightnessSwitch
  | .bootCompleted => { sw with running := some (.adjust sw.setting false) }
  | .settingUpdate =>
    if sw.setting = sw.isEnabled then sw
    else { sw with running := some (.adjust sw.setting (!sw.setting)) }

def update (sw : AutoBrightnessSwitch) (enable : Bool) : AutoBrightnessSwitch :=
  if sw.setting ≠ enable then sw.writeSetting enable else sw

def resume (sw : AutoBrightnessSwitch) : SwitchTask → AutoBrightnessSwitch
  | .adjust enable clears =>
    { sw.autoAdjustBrightnessInner true enable false with
      running := if clears then some .clearOffset else none }
  | .clearOffset => { sw with brightness := sw.brightness.clearOffset, running := none }

/-- The tasks of the queue run one at a time. -/
def step (sw : AutoBrightnessSwitch) : SwitchEvent → Option AutoBrightnessSwitch
  | .autoAdjustBrightness isSystem enable =>
    some (sw.autoAdjustBrightnessInner isSystem enable true)
  | .writeSetting enable => some (sw.writeSetting enable)
  | .settingObserved =>
    if sw.notices = 0 then none
    else some { sw with notices := sw.notices - 1, callbackTimer := some .settingUpdate }
  | .callbackFires =>
    if sw.running.isSome then none
    else sw.callbackTimer.map ({ sw with callbackTimer := none } : AutoBrightnessSwitch).callback
  | .updateFires =>
    if sw.running.isSome then none
    else sw.updateTimer.map ({ sw with updateTimer := none } : AutoBrightnessSwitch).update
  | .resumes => sw.running.map sw.resume

structure Quiet (sw : AutoBrightnessSwitch) : Prop where
  callbackTimer : sw.callbackTimer = none
  updateTimer : sw.updateTimer = none
  running : sw.running = none
  notices : sw.notices = 0

def Converged (sw : AutoBrightnessSwitch) : Prop := Quiet sw → sw.isEnabled = sw.setting

/-- The state that `HandleBootBrightness` leaves on a device with a light sensor. -/
structure Booted (sw : AutoBrightnessSwitch) : Prop where
  supported : sw.brightness.isSupportLightSensor = true
  callbackTimer : sw.callbackTimer = some .bootCompleted
  updateTimer : sw.updateTimer = none
  running : sw.running = none
  notices : sw.notices = 0

/-- Whenever nothing is left to do, the flag is the setting. -/
def AlwaysConverges : Prop :=
  ∀ sw, Booted sw → ∀ es t, Runs.run step sw es = some t → Converged t

/-- The value that the flag will have once the task that runs has finished. -/
def comes (sw : AutoBrightnessSwitch) : Bool :=
  match sw.running with
  | some (.adjust enable _) => enable
  | _ => sw.isEnabled

/-- The call leaves no work behind although a task that runs is about to undo it. -/
def Undone (sw : AutoBrightnessSwitch) : SwitchEvent → Prop
  | .autoAdjustBrightness isSystem enable =>
    isSystem = true ∧ sw.notices = 0 ∧ sw.setting = enable ∧
      ∃ clears, sw.running = some (.adjust (!enable) clears)
  | _ => False

/-- While nothing tells the queue to look at the setting, the flag comes to what the setting is,
or the setting is about to be changed. -/
structure Follows (sw : AutoBrightnessSwitch) : Prop where
  supported : sw.brightness.isSupportLightSensor = true
  follows : sw.callbackTimer = none → sw.notices = 0 →
    sw.comes = sw.setting ∨ ∃ enable, sw.updateTimer = some enable ∧ sw.setting ≠ enable

theorem autoAdjustBrightness_supported {bs : BrightnessService}
    (h : bs.isSupportLightSensor = true) (enable : Bool) :
    (bs.autoAdjustBrightness enable).1.isAutoBrightnessEnabled = enable ∧
      (bs.autoAdjustBrightness enable).1.isSupportLightSensor = true ∧
        (bs.autoAdjustBrightness enable).2 = true := by
  have hmode := BrightnessService.autoAdjustBrightness_autoMode bs enable
  refine ⟨?_, ?_, ?_⟩
  · exact (congrArg BrightnessService.AutoMode.isAutoBrightnessEnabled hmode).trans (if_pos h)
  · exact (congrArg BrightnessService.AutoMode.isSupportLightSensor hmode).trans h
  · rw [BrightnessService.autoAdjustBrightness]
    rw [if_neg (by simp [h])]
    repeat' split
    all_goals rfl

theorem autoAdjustBrightness_settings {bs : BrightnessService}
    (h : bs.isSupportLightSensor = true) (enable : Bool) :
    (bs.autoAdjustBrightness enable).1.settings = bs.settings := by
  rw [BrightnessService.autoAdjustBrightness]
  rw [if_neg (by simp [h])]
  simp only [BrightnessService.activateValidAmbientSensor, BrightnessService.activateAmbientSensor,
    BrightnessService.activateAmbientSensor1, BrightnessService.deactivateAllAmbientSensor,
    BrightnessService.deactivateAmbientSensor, BrightnessService.deactivateAmbientSensor1]
  repeat' split
  all_goals rfl

theorem autoAdjustBrightnessInner_eq {sw : AutoBrightnessSwitch}
    (h : sw.brightness.isSupportLightSensor = true) (enable updateSetting : Bool) :
    sw.autoAdjustBrightnessInner true enable updateSetting =
      if updateSetting then
        { sw with
          brightness := (sw.brightness.autoAdjustBrightness enable).1
          callbackTimer := none
          updateTimer := some enable }
      else { sw with brightness := (sw.brightness.autoAdjustBrightness enable).1 } := by
  have hret := (autoAdjustBrightness_supported h enable).2.2
  have hsetting := autoAdjustBrightness_settings h enable
  have hheld : sw.hold (sw.brightness.autoAdjustBrightness enable).1 =
      { sw with brightness := (sw.brightness.autoAdjustBrightness enable).1 } := by
    rw [hold, hsetting, if_pos (by rfl)]
  rw [autoAdjustBrightnessInner, if_neg (by simp)]
  dsimp only
  rw [hret, hheld]
  cases updateSetting with
  | true => rfl
  | false => rfl

theorem resume_adjust {sw : AutoBrightnessSwitch} (h : sw.brightness.isSupportLightSensor = true)
    (enable clears : Bool) :
    sw.resume (.adjust enable clears) =
      { sw with
        brightness := (sw.brightness.autoAdjustBrightness enable).1
        running := if clears then some .clearOffset else none } := by
  rw [resume, autoAdjustBrightnessInner_eq h, if_neg (by simp)]

theorem step_resumes {sw : AutoBrightnessSwitch} {task : SwitchTask}
    (h : sw.running = some task) : sw.step .resumes = some (sw.resume task) := by
  rw [step, h]
  rfl

theorem writeSetting_cases (sw : AutoBrightnessSwitch) (enable : Bool) :
    (sw.setting = enable ∧ sw.writeSetting enable = sw) ∨
      (sw.setting ≠ enable ∧ sw.writeSetting enable =
        { sw with
          brightness := sw.brightness.setSettingAutoBrightness enable
          notices := sw.notices + 1 }) := by
  have hnew : (sw.brightness.setSettingAutoBrightness enable).settings.autoBrightness = enable :=
    rfl
  rw [writeSetting, hold, hnew]
  by_cases hsame : sw.setting = enable
  · refine Or.inl ⟨hsame, ?_⟩
    rw [if_pos hsame.symm]
    subst hsame
    rfl
  · refine Or.inr ⟨hsame, ?_⟩
    rw [if_neg (Ne.symm hsame)]

theorem update_skips {sw : AutoBrightnessSwitch} {enable : Bool} (h : sw.setting = enable) :
    sw.update enable = sw := by
  rw [update, if_neg (by simp [h])]

theorem update_writes {sw : AutoBrightnessSwitch} {enable : Bool} (h : sw.setting ≠ enable) :
    sw.update enable =
      { sw with
        brightness := sw.brightness.setSettingAutoBrightness enable
        notices := sw.notices + 1 } := by
  rw [update, if_pos h]
  rcases sw.writeSetting_cases enable with ⟨hsame, _⟩ | ⟨_, hchanged⟩
  · exact absurd hsame h
  · exact hchanged

theorem clearOffset_switch (bs : BrightnessService) :
    bs.clearOffset.isAutoBrightnessEnabled = bs.isAutoBrightnessEnabled ∧
      bs.clearOffset.settings = bs.settings ∧
        bs.clearOffset.isSupportLightSensor = bs.isSupportLightSensor := by
  have hsame := BrightnessService.stopIfDimming_sameControl bs
  rw [BrightnessService.clearOffset, hsame]
  exact ⟨rfl, rfl, rfl⟩

theorem Follows.booted {sw : AutoBrightnessSwitch} (h : Booted sw) : Follows sw := by
  refine ⟨h.supported, ?_⟩
  intro hcallback
  exact absurd (h.callbackTimer.symm.trans hcallback) (by simp)

theorem Follows.of_work {sw : AutoBrightnessSwitch}
    (supported : sw.brightness.isSupportLightSensor = true)
    (work : sw.callbackTimer ≠ none ∨ sw.notices ≠ 0) : Follows sw := by
  refine ⟨supported, ?_⟩
  intro hcallback hnotices
  rcases work with hwork | hwork
  · exact absurd hcallback hwork
  · exact absurd hnotices hwork

theorem Follows.call {sw : AutoBrightnessSwitch} (h : Follows sw) {isSystem enable : Bool}
    (hdone : ¬ Undone sw (.autoAdjustBrightness isSystem enable)) :
    Follows (sw.autoAdjustBrightnessInner isSystem enable true) := by
  cases isSystem with
  | false =>
    rw [autoAdjustBrightnessInner, if_pos (by simp)]
    exact h
  | true =>
    obtain ⟨henabled, hsupported, _⟩ := autoAdjustBrightness_supported h.supported enable
    rw [autoAdjustBrightnessInner_eq h.supported, if_pos rfl]
    refine ⟨hsupported, ?_⟩
    intro _ hnotices
    have hsettings := autoAdjustBrightness_settings h.supported enable
    by_cases hsetting : sw.setting = enable
    · refine Or.inl ?_
      have hsame : (sw.brightness.autoAdjustBrightness enable).1.settings.autoBrightness = enable :=
        (congrArg SettingStore.autoBrightness hsettings).trans hsetting
      rw [comes, setting, hsame]
      dsimp only
      split
      · rename_i value clears hrunning
        by_contra hother
        have hvalue : value = !enable := by
          cases value <;> cases enable <;> simp_all
        exact hdone ⟨rfl, hnotices, hsetting, clears, hvalue ▸ hrunning⟩
      · exact henabled
    · refine Or.inr ⟨enable, rfl, ?_⟩
      rw [setting, hsettings]
      exact hsetting

theorem Follows.write {sw : AutoBrightnessSwitch} (h : Follows sw) (enable : Bool) :
    Follows (sw.writeSetting enable) := by
  rcases sw.writeSetting_cases enable with ⟨_, hsame⟩ | ⟨_, hchanged⟩
  · rw [hsame]
    exact h
  · rw [hchanged]
    exact .of_work h.supported (Or.inr (by simp))

theorem Follows.callback {sw : AutoBrightnessSwitch}
    (hsupported : sw.brightness.isSupportLightSensor = true) (hrunning : sw.running = none)
    (task : SwitchCallback) : Follows (sw.callback task) := by
  cases task with
  | bootCompleted => exact ⟨hsupported, fun _ _ => Or.inl rfl⟩
  | settingUpdate =>
    rw [AutoBrightnessSwitch.callback]
    split
    · rename_i hsame
      refine ⟨hsupported, fun _ _ => Or.inl ?_⟩
      rw [comes, hrunning]
      exact hsame.symm
    · exact ⟨hsupported, fun _ _ => Or.inl rfl⟩

theorem Follows.update {sw : AutoBrightnessSwitch} (h : Follows sw) {enable : Bool}
    (htimer : sw.updateTimer = some enable) :
    Follows ({ sw with updateTimer := none }.update enable) := by
  by_cases hsame : sw.setting = enable
  · rw [update_skips (by exact hsame)]
    refine ⟨h.supported, ?_⟩
    intro hcallback hnotices
    refine Or.inl ?_
    rcases h.follows hcallback hnotices with hcomes | ⟨other, hother, hdiffers⟩
    · exact hcomes
    · obtain rfl := Option.some.inj (htimer.symm.trans hother)
      exact absurd hsame hdiffers
  · rw [update_writes (by exact hsame)]
    exact .of_work h.supported (Or.inr (by simp))

theorem Follows.resume {sw : AutoBrightnessSwitch} (h : Follows sw) {task : SwitchTask}
    (hrunning : sw.running = some task) : Follows (sw.resume task) := by
  have hcomes : sw.callbackTimer = none → sw.notices = 0 → _ := h.follows
  rw [comes, hrunning] at hcomes
  cases task with
  | clearOffset =>
    obtain ⟨henabled, hsettings, hsupported⟩ := clearOffset_switch sw.brightness
    refine ⟨hsupported.trans h.supported, ?_⟩
    intro hcallback hnotices
    rw [setting, comes, isEnabled]
    simp only [AutoBrightnessSwitch.resume]
    rw [henabled, hsettings]
    exact hcomes hcallback hnotices
  | adjust enable clears =>
    obtain ⟨henabled, hsupported, _⟩ := autoAdjustBrightness_supported h.supported enable
    have hsettings := autoAdjustBrightness_settings h.supported enable
    rw [resume_adjust h.supported]
    refine ⟨hsupported, ?_⟩
    intro hcallback hnotices
    rw [setting, comes, isEnabled]
    dsimp only
    rw [henabled, hsettings]
    cases clears with
    | _ => exact hcomes hcallback hnotices

theorem Follows.step {sw t : AutoBrightnessSwitch} {e : SwitchEvent} (h : Follows sw)
    (hdone : ¬ Undone sw e) (ht : sw.step e = some t) : Follows t := by
  cases e with
  | autoAdjustBrightness isSystem enable => exact Option.some.inj ht ▸ h.call hdone
  | writeSetting enable => exact Option.some.inj ht ▸ h.write enable
  | settingObserved =>
    obtain ⟨_, ht⟩ := Option.ite_none_left_eq_some.mp ht
    obtain rfl := Option.some.inj ht
    exact .of_work h.supported (Or.inl (by simp))
  | callbackFires =>
    obtain ⟨hidle, ht⟩ := Option.ite_none_left_eq_some.mp ht
    obtain ⟨task, _, rfl⟩ := Option.map_eq_some_iff.mp ht
    refine Follows.callback ?_ ?_ task
    · exact h.supported
    · simpa using hidle
  | updateFires =>
    obtain ⟨_, ht⟩ := Option.ite_none_left_eq_some.mp ht
    obtain ⟨enable, htimer, rfl⟩ := Option.map_eq_some_iff.mp ht
    exact h.update htimer
  | resumes =>
    obtain ⟨task, hrunning, rfl⟩ := Option.map_eq_some_iff.mp ht
    exact h.resume hrunning

theorem Follows.converged {sw : AutoBrightnessSwitch} (h : Follows sw) : Converged sw := by
  intro hquiet
  rcases h.follows hquiet.callbackTimer hquiet.notices with hcomes | ⟨enable, htimer, _⟩
  · rw [comes, hquiet.running] at hcomes
    exact hcomes
  · exact absurd (hquiet.updateTimer.symm.trans htimer) (by simp)

/-- The flag is off the setting, and the write that is left changes nothing. -/
structure Apart (sw : AutoBrightnessSwitch) : Prop where
  callbackTimer : sw.callbackTimer = none
  notices : sw.notices = 0
  update : ∃ enable, sw.updateTimer = some enable ∧ sw.setting = enable ∧ sw.isEnabled = !enable

theorem Apart.rests {sw : AutoBrightnessSwitch} (h : Apart sw) (hrunning : sw.running = none) :
    ∃ es t, Runs.run step sw es = some t ∧ ¬ Converged t := by
  obtain ⟨enable, htimer, hsetting, henabled⟩ := h.update
  have hskip : sw.step .updateFires = some { sw with updateTimer := none } := by
    rw [step, if_neg (by simp [hrunning]), htimer, Option.map_some]
    exact congrArg some (update_skips hsetting)
  refine ⟨[.updateFires], _, Runs.run_cons_some.mpr ⟨_, hskip, rfl⟩, ?_⟩
  intro hconverged
  have hsame := hconverged ⟨h.callbackTimer, rfl, hrunning, h.notices⟩
  have hagree : sw.isEnabled = sw.setting := hsame
  rw [henabled, hsetting] at hagree
  cases enable <;> cases hagree

theorem Apart.ends {sw : AutoBrightnessSwitch} (h : Apart sw)
    (hrunning : sw.running = none ∨ sw.running = some .clearOffset) :
    ∃ es t, Runs.run step sw es = some t ∧ ¬ Converged t := by
  rcases hrunning with hidle | hclears
  · exact h.rests hidle
  · obtain ⟨henabled, hsettings, _⟩ := clearOffset_switch sw.brightness
    obtain ⟨enable, htimer, hsetting, hflag⟩ := h.update
    have hcleared : Apart
        { sw with brightness := sw.brightness.clearOffset, running := none } := by
      refine ⟨h.callbackTimer, h.notices, enable, htimer, ?_, ?_⟩
      · rw [setting, hsettings]
        exact hsetting
      · exact henabled.trans hflag
    obtain ⟨es, t, hrun, ht⟩ := hcleared.rests rfl
    exact ⟨.resumes :: es, t, Runs.run_cons_some.mpr ⟨_, step_resumes hclears, hrun⟩, ht⟩

/-- After a call that is undone, the queue comes to rest with the flag off the setting. -/
theorem undone_diverges {sw t : AutoBrightnessSwitch} {e : SwitchEvent}
    (h : sw.brightness.isSupportLightSensor = true) (hundone : Undone sw e)
    (ht : sw.step e = some t) : ∃ es u, Runs.run step t es = some u ∧ ¬ Converged u := by
  cases e with
  | autoAdjustBrightness isSystem enable =>
    obtain ⟨rfl, hnotices, hsetting, clears, hrunning⟩ := hundone
    have hcall := autoAdjustBrightness_supported h enable
    have hundo := autoAdjustBrightness_supported hcall.2.1 (!enable)
    have hsettings := (autoAdjustBrightness_settings hcall.2.1 (!enable)).trans
      (autoAdjustBrightness_settings h enable)
    rw [step, autoAdjustBrightnessInner_eq h, if_pos rfl] at ht
    obtain rfl := Option.some.inj ht
    -- the task that runs switches the flag back
    have happart : Apart (({ sw with
        brightness := (sw.brightness.autoAdjustBrightness enable).1
        callbackTimer := none
        updateTimer := some enable } : AutoBrightnessSwitch).resume
          (.adjust (!enable) clears)) := by
      rw [resume_adjust hcall.2.1]
      refine ⟨rfl, hnotices, enable, rfl, ?_, hundo.1⟩
      rw [setting, hsettings]
      exact hsetting
    have hrest : (({ sw with
        brightness := (sw.brightness.autoAdjustBrightness enable).1
        callbackTimer := none
        updateTimer := some enable } : AutoBrightnessSwitch).resume
          (.adjust (!enable) clears)).running = if clears then some .clearOffset else none := by
      rw [resume_adjust hcall.2.1]
    obtain ⟨es, u, hrun, hu⟩ := happart.ends (by rw [hrest]; cases clears <;> simp)
    refine ⟨.resumes :: es, u, Runs.run_cons_some.mpr ⟨_, step_resumes ?_, hrun⟩, hu⟩
    exact hrunning
  | _ => exact hundone.elim

theorem autoAdjustBrightnessInner_supported {sw : AutoBrightnessSwitch}
    (h : sw.brightness.isSupportLightSensor = true) (isSystem enable updateSetting : Bool) :
    (sw.autoAdjustBrightnessInner isSystem enable
      updateSetting).brightness.isSupportLightSensor = true := by
  cases isSystem with
  | false => exact h
  | true =>
    rw [autoAdjustBrightnessInner_eq h]
    cases updateSetting with
    | _ => exact (autoAdjustBrightness_supported h enable).2.1

theorem step_supported {sw t : AutoBrightnessSwitch} {e : SwitchEvent}
    (h : sw.brightness.isSupportLightSensor = true) (ht : sw.step e = some t) :
    t.brightness.isSupportLightSensor = true := by
  cases e with
  | autoAdjustBrightness isSystem enable =>
    exact Option.some.inj ht ▸ autoAdjustBrightnessInner_supported h isSystem enable true
  | writeSetting enable =>
    obtain rfl := Option.some.inj ht
    exact h
  | settingObserved =>
    obtain ⟨_, ht⟩ := Option.ite_none_left_eq_some.mp ht
    obtain rfl := Option.some.inj ht
    exact h
  | callbackFires =>
    obtain ⟨_, ht⟩ := Option.ite_none_left_eq_some.mp ht
    obtain ⟨task, _, rfl⟩ := Option.map_eq_some_iff.mp ht
    cases task with
    | bootCompleted => exact h
    | settingUpdate =>
      rw [callback]
      split
      · exact h
      · exact h
  | updateFires =>
    obtain ⟨_, ht⟩ := Option.ite_none_left_eq_some.mp ht
    obtain ⟨enable, _, rfl⟩ := Option.map_eq_some_iff.mp ht
    rw [update]
    split
    · exact h
    · exact h
  | resumes =>
    obtain ⟨task, _, rfl⟩ := Option.map_eq_some_iff.mp ht
    cases task with
    | adjust enable clears => exact autoAdjustBrightnessInner_supported h true enable false
    | clearOffset => exact (clearOffset_switch sw.brightness).2.2.trans h

/-- The flag and the setting agree whenever nothing is left to do, as long as no call comes while
a task that runs is about to switch the other way, with the setting already what the call asks
for. After any such call they may come to rest apart. -/
theorem converges_unless_undone {sw : AutoBrightnessSwitch} (h : Booted sw) :
    (∀ es, Runs.Always step (fun s e => ¬ Undone s e) sw es →
      Runs.Always step (fun s e => ∀ t, s.step e = some t → Converged t) sw es) ∧
      ∀ es s e t, Runs.run step sw es = some s → Undone s e → s.step e = some t →
        ∃ fs u, Runs.run step t fs = some u ∧ ¬ Converged u := by
  constructor
  · intro es hes
    refine Runs.always_of_invariant (J := Follows) ?_ ?_ (.booted h) hes
    · intro s e t hs hdone ht
      exact hs.step hdone ht
    · intro s e hs hdone t ht
      exact (hs.step hdone ht).converged
  · intro es s e t hrun hundone ht
    have hsupported : s.brightness.isSupportLightSensor = true := by
      refine Runs.run_invariant_of (J := fun s => s.brightness.isSupportLightSensor = true)
        (P := fun _ => True) ?_ h.supported (fun _ _ => trivial) hrun
      intro s e t hs _ ht
      exact step_supported hs ht
    exact undone_diverges hsupported hundone ht

def bootedAutomatic : AutoBrightnessSwitch where
  brightness :=
    { isSupportLightSensor := true, settings := { autoBrightness := true } : BrightnessBoot }.start
  callbackTimer := some .bootCompleted

theorem bootedAutomatic_booted : Booted bootedAutomatic := by
  constructor
  · rfl
  · rfl
  · rfl
  · rfl
  · rfl

/-- The mode is written off and on again, and the call comes between the comparison with the first
value and the switch. -/
theorem call_undone : ¬ AlwaysConverges := by
  intro h
  have hconverged := h bootedAutomatic bootedAutomatic_booted
    [.callbackFires, .resumes, .writeSetting false, .settingObserved, .callbackFires,
      .writeSetting true, .settingObserved, .autoAdjustBrightness true true, .resumes, .resumes,
      .updateFires] _ rfl
  have hsame := hconverged ⟨by decide +kernel, by decide +kernel, by decide +kernel,
    by decide +kernel⟩
  exact absurd hsame (by decide +kernel)

/-- Switched off by the setting alone. -/
theorem switched_off_converges :
    Runs.Always step (fun s e => ∀ t, s.step e = some t → Converged t) bootedAutomatic
      [.callbackFires, .resumes, .writeSetting false, .settingObserved, .callbackFires, .resumes,
        .resumes] := by
  refine (converges_unless_undone bootedAutomatic_booted).1 _ ?_
  refine Runs.always_of_forall (C := fun s e => ¬ Undone s e) ?_ _
  intro s e he hundone
  cases e with
  | autoAdjustBrightness isSystem enable => simp at he
  | _ => exact hundone

end AutoBrightnessSwitch

end DisplayPowerMgr
