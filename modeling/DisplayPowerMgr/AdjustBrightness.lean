import DisplayPowerMgr.BrightnessEffects
import DisplayPowerMgr.DisplayPowerMgrService

/-! `AdjustBrightness` and the brightness of a `ScreenController`, which it falls back to when the
brightness service refuses. -/
namespace DisplayPowerMgr

structure GradualAnimator where
  animating : Bool := false
  fromBrightness : ℕ := 0
  toBrightness : ℕ := 0
  currentBrightness : ℕ := 0
  duration : ℕ := 0
  totalSteps : ℕ := 0
  stride : ℤ := 0
  currentStep : ℕ := 0
  deriving DecidableEq, Repr

namespace GradualAnimator

def DEFAULT_UPDATE_TIME : ℕ := 30

/-- The boolean tells whether a `NextStep` task was submitted. -/
def startAnimation (a : GradualAnimator) (fromBrightness toBrightness duration : ℕ) :
    GradualAnimator × Bool :=
  if a.animating then (a, false)
  else
    let totalSteps :=
      if duration / DEFAULT_UPDATE_TIME < 1 then 1 else duration / DEFAULT_UPDATE_TIME
    let changeBrightness := toInt32 toBrightness - toInt32 fromBrightness
    let a :=
      { a with
        fromBrightness := fromBrightness
        toBrightness := toBrightness
        currentBrightness := fromBrightness
        duration := duration
        totalSteps := totalSteps }
    if changeBrightness = 0 then (a, false)
    else
      ({ a with
          stride := BrightnessDimming.strideOf changeBrightness totalSteps
          currentStep := 0
          animating := true }, true)

/-- The callback of every step only logs the level; the boolean tells whether the next step was
submitted. -/
def nextStep (a : GradualAnimator) : GradualAnimator × Bool :=
  if !a.animating then (a, false)
  else
    let a := { a with currentStep := a.currentStep + 1 }
    if a.currentStep < a.totalSteps then
      let nextBrightness := wrap32 (a.currentBrightness + a.stride)
      let isOutRange :=
        if a.stride > 0 then nextBrightness ≥ a.toBrightness else nextBrightness ≤ a.toBrightness
      if isOutRange then ({ a with currentBrightness := a.toBrightness, animating := false }, false)
      else ({ a with currentBrightness := nextBrightness }, true)
    else ({ a with currentBrightness := a.toBrightness, animating := false }, false)

end GradualAnimator

structure ScreenBrightness where
  discount : ℚ := 1
  isBrightnessOverridden : Bool := false
  isBrightnessBoosted : Bool := false
  cachedSettingBrightness : ℕ := 102
  animator : GradualAnimator := {}

/-- The service with the brightness of its controllers. The animators share one queue, whose tasks
carry the display they animate, and one handle. -/
structure DisplayBrightness where
  service : DisplayPowerMgrService
  screens : ℕ → ScreenBrightness := fun _ => {}
  animatorTasks : Tasks ℕ := .empty
  animatorTaskHandle : Option ℕ := none
  settingTasks : Tasks (ℕ × ℕ) := .empty

namespace DisplayBrightness

def brightness (s : DisplayBrightness) : BrightnessService := s.service.host.brightness

def withBrightness (s : DisplayBrightness) (bs : BrightnessService) : DisplayBrightness :=
  { s with service := { s.service with host := { s.service.host with brightness := bs } } }

def setScreen (s : DisplayBrightness) (id : ℕ) (screen : ScreenBrightness) : DisplayBrightness :=
  { s with screens := Function.update s.screens id screen }

def getSafeBrightness (s : DisplayBrightness) (value : ℕ) : ℕ :=
  let param := s.brightness.param
  let brightnessValue := if value > param.maxBrightness then param.maxBrightness else value
  if brightnessValue < param.minBrightness then param.minBrightness else brightnessValue

def getSettingBrightness (s : DisplayBrightness) (id : ℕ) : ℕ :=
  s.brightness.settings.brightness.getD (s.screens id).cachedSettingBrightness

def setSettingBrightness (s : DisplayBrightness) (id value : ℕ) : DisplayBrightness :=
  (s.withBrightness
    { s.brightness with settings := s.brightness.settings.setSettingBrightness value }).setScreen
    id { s.screens id with cachedSettingBrightness := value }

def canSetBrightness (s : DisplayBrightness) (id : ℕ) (c : ScreenController) : Bool :=
  c.isScreenOn && !(s.screens id).isBrightnessOverridden && !(s.screens id).isBrightnessBoosted

/-- The handle is the one of the last step that any animator submitted. -/
def stopAnimation (s : DisplayBrightness) (id : ℕ) : DisplayBrightness :=
  let screen := s.screens id
  { s with
    animatorTasks :=
      match s.animatorTaskHandle with
      | none => s.animatorTasks
      | some handle => s.animatorTasks.remove handle }.setScreen id
    { screen with animator := { screen.animator with animating := false } }

def submitNextStep (s : DisplayBrightness) (id : ℕ) : DisplayBrightness :=
  { s with
    animatorTasks := s.animatorTasks.submit id
    animatorTaskHandle := some s.animatorTasks.next }

def startAnimation (s : DisplayBrightness) (id fromBrightness toBrightness duration : ℕ) :
    DisplayBrightness :=
  let screen := s.screens id
  let (animator, submitted) :=
    screen.animator.startAnimation fromBrightness toBrightness duration
  let s := s.setScreen id { screen with animator := animator }
  if submitted then s.submitNextStep id else s

/-- The level that the older path commands for a value. -/
def screenLevel (s : DisplayBrightness) (id value : ℕ) : ℕ :=
  s.getSafeBrightness (toUint32 (double (value * (s.screens id).discount)))

def updateBrightness (s : DisplayBrightness) (id : ℕ) (c : ScreenController)
    (value gradualDuration : ℕ) (updateSetting : Bool) : DisplayBrightness × Bool :=
  let s := if (s.screens id).animator.animating then s.stopAnimation id else s
  if gradualDuration > 0 then
    (s.startAnimation id (s.getSettingBrightness id) value gradualDuration, true)
  else
    let (device, isSucc) :=
      s.brightness.device.setBrightness c.displayId (s.screenLevel id value)
    let s := s.withBrightness { s.brightness with device := device }
    (if isSucc && updateSetting then { s with settingTasks := s.settingTasks.submit (id, value) }
      else s, isSucc)

/-- `ScreenController::SetBrightness`, with its guard as it stands there. -/
def setBrightness (s : DisplayBrightness) (id : ℕ) (c : ScreenController)
    (value gradualDuration : ℕ) (continuous : Bool) : DisplayBrightness × Bool :=
  if s.canSetBrightness id c then
    (s.setScreen id { s.screens id with cachedSettingBrightness := value }, false)
  else s.updateBrightness id c value gradualDuration (!continuous)

def adjustBrightnessInner (s : DisplayBrightness) (isSystem : Bool) (id : ℕ) (value : ℤ)
    (duration : ℕ) : DisplayBrightness × Bool :=
  if !isSystem then (s, false)
  else if duration > 60 * 1000 then (s, false)
  else
    match s.service.controllerMap id with
    | none => (s, false)
    | some c =>
      let (brightness, ret) := s.brightness.setBrightness (wrap32 value) duration false
      let s := s.withBrightness brightness
      if ret then (s, true) else s.setBrightness id c (wrap32 value) duration false

def runSettingTask (s : DisplayBrightness) (task : ℕ) : Option DisplayBrightness :=
  (s.settingTasks.find? task).map fun (id, value) =>
    { s with settingTasks := s.settingTasks.remove task }.setSettingBrightness id value

def runAnimatorTask (s : DisplayBrightness) (task : ℕ) : Option DisplayBrightness :=
  (s.animatorTasks.find? task).map fun id =>
    let screen := s.screens id
    let (animator, submitted) := screen.animator.nextStep
    let s :=
      { s with animatorTasks := s.animatorTasks.remove task }.setScreen id
        { screen with animator := animator }
    if submitted then s.submitNextStep id else s

theorem runAnimatorTask_service {s t : DisplayBrightness} {task : ℕ}
    (ht : s.runAnimatorTask task = some t) : t.service = s.service := by
  obtain ⟨id, _, rfl⟩ := Option.map_eq_some_iff.mp ht
  dsimp only
  split
  · rfl
  · rfl

theorem animation_shows_nothing {s t : DisplayBrightness} {tasks : List ℕ}
    (hr : Runs.run runAnimatorTask s tasks = some t) : t.service = s.service := by
  refine Runs.run_invariant_of (J := fun u => u.service = s.service) (P := fun _ => True) ?_ rfl
    (fun _ _ => trivial) hr
  intro u task v hu _ hv
  exact (runAnimatorTask_service hv).trans hu

def halted (s : DisplayBrightness) (id : ℕ) : DisplayBrightness :=
  if (s.screens id).animator.animating then s.stopAnimation id else s

theorem halted_service (s : DisplayBrightness) (id : ℕ) : (s.halted id).service = s.service := by
  rw [halted]
  split
  · rfl
  · rfl

theorem halted_settingTasks (s : DisplayBrightness) (id : ℕ) :
    (s.halted id).settingTasks = s.settingTasks := by
  rw [halted]
  split
  · rfl
  · rfl

theorem halted_screen (s : DisplayBrightness) (id : ℕ) :
    (s.halted id).screens id =
      { s.screens id with animator := { (s.screens id).animator with animating := false } } := by
  rw [halted]
  split
  · exact Function.update_self _ _ _
  · rename_i hidle
    rw [Bool.not_eq_true] at hidle
    rw [← hidle]

theorem halted_next (s : DisplayBrightness) (id : ℕ) :
    (s.halted id).animatorTasks.next = s.animatorTasks.next := by
  rw [halted]
  split
  · rw [stopAnimation]
    cases s.animatorTaskHandle with
    | none => rfl
    | some handle => rfl
  · rfl

theorem mem_halted {s : DisplayBrightness} {id : ℕ} {p : ℕ × ℕ}
    (h : p ∈ (s.halted id).animatorTasks.pending) : p ∈ s.animatorTasks.pending := by
  rw [halted] at h
  split at h
  · rw [stopAnimation] at h
    cases hhandle : s.animatorTaskHandle with
    | none =>
      rw [hhandle] at h
      exact h
    | some handle =>
      rw [hhandle] at h
      exact (Tasks.mem_remove.mp h).1
  · exact h

theorem halted_setting (s : DisplayBrightness) (id : ℕ) :
    (s.halted id).getSettingBrightness id = s.getSettingBrightness id := by
  rw [getSettingBrightness, getSettingBrightness, halted_screen, brightness, halted_service]
  rfl

theorem halted_level (s : DisplayBrightness) (id value : ℕ) :
    (s.halted id).screenLevel id value = s.screenLevel id value := by
  rw [screenLevel, screenLevel, halted_screen, getSafeBrightness, getSafeBrightness, brightness,
    halted_service]
  rfl

theorem updateBrightness_gradual (s : DisplayBrightness) (id : ℕ) (c : ScreenController)
    (value : ℕ) {duration : ℕ} (hd : 0 < duration) (updateSetting : Bool) :
    s.updateBrightness id c value duration updateSetting =
      ((s.halted id).startAnimation id (s.getSettingBrightness id) value duration, true) := by
  rw [updateBrightness]
  dsimp only
  rw [if_pos hd, ← halted, halted_setting]

theorem updateBrightness_now (s : DisplayBrightness) (id : ℕ) (c : ScreenController) (value : ℕ)
    (updateSetting : Bool) :
    s.updateBrightness id c value 0 updateSetting =
      let (device, isSucc) :=
        s.brightness.device.setBrightness c.displayId (s.screenLevel id value)
      let t := (s.halted id).withBrightness { s.brightness with device := device }
      (if isSucc && updateSetting then { t with settingTasks := t.settingTasks.submit (id, value) }
        else t, isSucc) := by
  have hbrightness : (s.halted id).brightness = s.brightness := by
    rw [brightness, halted_service]
    rfl
  rw [updateBrightness]
  dsimp only
  rw [if_neg (lt_irrefl 0), ← halted, halted_level, hbrightness]

/-- Neither the brightness service nor the controller of the display is on or dimmed, and no
override is active. -/
structure Dark (s : DisplayBrightness) (id : ℕ) : Prop where
  service_off : s.brightness.isScreenOn = false
  service_override : s.brightness.isBrightnessOverridden = false
  screen_off : ∀ c, s.service.controllerMap id = some c → c.isScreenOn = false
  screen_override : (s.screens id).isBrightnessOverridden = false

/-- `t` shows what `s` shows and has the settings of `s`, has started no fade and no animation
since, and the writes of the setting submitted since change nothing. -/
structure Inert (s t : DisplayBrightness) : Prop where
  level : t.brightness.device.level = s.brightness.device.level
  settings : t.brightness.settings = s.brightness.settings
  tasks : ∀ p ∈ t.brightness.tasks.pending, p ∈ s.brightness.tasks.pending
  animatorTasks : ∀ p ∈ t.animatorTasks.pending, p ∈ s.animatorTasks.pending
  settingTasks : ∀ p ∈ t.settingTasks.pending, p ∉ s.settingTasks.pending →
    ∀ u, t.runSettingTask p.1 = some u → u.brightness.settings = s.brightness.settings

def AlwaysInert : Prop :=
  ∀ s id, Dark s id → ∀ isSystem value duration,
    Inert s (s.adjustBrightnessInner isSystem id value duration).1

/-- An update of the controller has nothing to do: a gradual one finds the setting there already,
an immediate one is refused by the panel or finds its level and the setting there already. -/
def NothingToDo (s : DisplayBrightness) (id : ℕ) (c : ScreenController) (value duration : ℕ) :
    Prop :=
  if duration = 0 then
    s.brightness.device.answers.headD true = false ∨
      s.brightness.device.level c.displayId = s.screenLevel id value ∧
        ∀ setting ∈ s.brightness.settings.brightness, setting = value
  else toInt32 value - toInt32 (s.getSettingBrightness id) = 0

/-- The brightness service refuses, so it is the controller that is asked, and its guard lets the
call pass because the screen is off. -/
theorem adjustBrightness_dark {s : DisplayBrightness} {id : ℕ} (h : Dark s id)
    {c : ScreenController} (hc : s.service.controllerMap id = some c) {duration : ℕ}
    (hd : duration ≤ 60 * 1000) (value : ℤ) :
    s.adjustBrightnessInner true id value duration =
      (s.withBrightness
        { s.brightness with cachedSettingBrightness := wrap32 value }).updateBrightness id c
        (wrap32 value) duration true := by
  have hrefused : s.brightness.setBrightness (wrap32 value) duration false =
      ({ s.brightness with cachedSettingBrightness := wrap32 value }, false) := by
    rw [BrightnessService.setBrightness, if_pos]
    simp [h.service_override, BrightnessService.canSetBrightness, h.service_off]
  have hguard : (s.withBrightness { s.brightness with
      cachedSettingBrightness := wrap32 value }).canSetBrightness id c = false := by
    rw [canSetBrightness, h.screen_off c hc]
    rfl
  rw [adjustBrightnessInner, if_neg (by simp), if_neg (by omega), hc]
  dsimp only
  rw [hrefused]
  dsimp only
  rw [if_neg (by simp), setBrightness, hguard]
  rfl

theorem Inert.refl (s : DisplayBrightness) : Inert s s where
  level := rfl
  settings := rfl
  tasks _ hp := hp
  animatorTasks _ hp := hp
  settingTasks _ hp hnew := absurd hp hnew

theorem startAnimation_submits {a : GradualAnimator} (h : a.animating = false)
    (f t duration : ℕ) :
    (a.startAnimation f t duration).2 = decide (toInt32 t - toInt32 f ≠ 0) := by
  rw [GradualAnimator.startAnimation, if_neg (by simp [h])]
  dsimp only
  split
  · rename_i hzero
    simp [hzero]
  · rename_i hne
    simp [hne]

theorem not_new_setting_halted {s : DisplayBrightness} {id : ℕ} {p : ℕ × ℕ × ℕ}
    (hp : p ∈ (s.halted id).settingTasks.pending) : p ∈ s.settingTasks.pending := by
  rw [halted_settingTasks] at hp
  exact hp

theorem gradual_inert_iff (s : DisplayBrightness) (id : ℕ) (c : ScreenController) (value : ℕ)
    {duration : ℕ} (hd : 0 < duration) (updateSetting : Bool) :
    Inert s (s.updateBrightness id c value duration updateSetting).1 ↔
      toInt32 value - toInt32 (s.getSettingBrightness id) = 0 := by
  have hidle : ((s.halted id).screens id).animator.animating = false := by
    rw [halted_screen]
  have hsubmits := startAnimation_submits hidle (s.getSettingBrightness id) value duration
  rw [updateBrightness_gradual s id c value hd, startAnimation]
  dsimp only
  rw [hsubmits]
  by_cases hzero : toInt32 value - toInt32 (s.getSettingBrightness id) = 0
  · refine iff_of_true ?_ hzero
    rw [if_neg (by simp [hzero])]
    constructor
    · exact congrArg (fun d => d.host.brightness.device.level) (halted_service s id)
    · exact congrArg (fun d => d.host.brightness.settings) (halted_service s id)
    · intro p hp
      change p ∈ (s.halted id).brightness.tasks.pending at hp
      rw [brightness, halted_service] at hp
      exact hp
    · exact fun p hp => mem_halted hp
    · exact fun p hp hnew => absurd (not_new_setting_halted hp) hnew
  · refine iff_of_false ?_ hzero
    rw [if_pos (by simp [hzero])]
    intro hinert
    have hold := hinert.animatorTasks ((s.halted id).animatorTasks.next, id)
      (List.mem_append_right _ (List.mem_singleton.mpr rfl))
    have hlt := s.animatorTasks.fresh _ hold
    rw [halted_next] at hlt
    exact lt_irrefl _ hlt

/-- The write that an accepted level submits leaves the settings alone exactly if it finds its
value there. -/
theorem setSettingBrightness_same_iff (settings : SettingStore) (value : ℕ) :
    settings.setSettingBrightness value = settings ↔
      ∀ setting ∈ settings.brightness, setting = value := by
  rw [SettingStore.setSettingBrightness]
  constructor
  · intro hsame setting hmem
    have hmap := congrArg SettingStore.brightness hsame
    rw [Option.mem_def.mp hmem] at hmap
    exact (Option.some.inj hmap).symm
  · intro hall
    obtain ⟨brightness, autoBrightness⟩ := settings
    cases brightness with
    | none => rfl
    | some setting =>
      rw [← hall setting rfl]
      rfl

theorem runSettingTask_eq {s : DisplayBrightness} {task id value : ℕ}
    (h : (task, id, value) ∈ s.settingTasks.pending) :
    s.runSettingTask task =
      some (({ s with settingTasks := s.settingTasks.remove task } : DisplayBrightness)
        |>.setSettingBrightness id value) := by
  rw [runSettingTask, Tasks.find?_eq_some.mpr h]
  rfl

theorem refused_inert {s : DisplayBrightness} (id : ℕ) (c : ScreenController) (value : ℕ)
    (hanswer : s.brightness.device.answers.headD true = false) :
    Inert s (s.updateBrightness id c value 0 true).1 := by
  have hrefused : (s.brightness.device.setBrightness c.displayId
      (s.screenLevel id value)).2 = false := hanswer
  rw [updateBrightness_now]
  dsimp only
  rw [hrefused, if_neg (by simp)]
  constructor
  · show (if _ then _ else _) = _
    rw [hanswer]
    rfl
  · rfl
  · exact fun p hp => hp
  · exact fun p hp => mem_halted hp
  · exact fun p hp hnew => absurd (not_new_setting_halted hp) hnew

theorem accepted_inert_iff {s : DisplayBrightness} (id : ℕ) (c : ScreenController) (value : ℕ)
    (hanswer : s.brightness.device.answers.headD true = true) :
    Inert s (s.updateBrightness id c value 0 true).1 ↔
      s.brightness.device.level c.displayId = s.screenLevel id value ∧
        ∀ setting ∈ s.brightness.settings.brightness, setting = value := by
  have haccepted : (s.brightness.device.setBrightness c.displayId
      (s.screenLevel id value)).2 = true := hanswer
  have hnew : ((s.halted id).settingTasks.next, id, value) ∉ s.settingTasks.pending := by
    intro hold
    have hlt := s.settingTasks.fresh _ hold
    rw [halted_settingTasks] at hlt
    exact lt_irrefl _ hlt
  rw [updateBrightness_now]
  dsimp only
  rw [haccepted, if_pos (by simp)]
  constructor
  · intro hinert
    constructor
    · have hlevel := congrFun hinert.level c.displayId
      rw [← hlevel]
      refine (BrightnessService.setBrightness_level _ _ _).trans ?_
      rw [hanswer]
      rfl
    · have hmem : ((s.halted id).settingTasks.next, id, value) ∈
          ((s.halted id).settingTasks.submit (id, value)).pending :=
        List.mem_append_right _ (List.mem_singleton.mpr rfl)
      exact (setSettingBrightness_same_iff _ _).mp
        (hinert.settingTasks _ hmem hnew _ (runSettingTask_eq hmem))
  · rintro ⟨hlevel, hsetting⟩
    constructor
    · show (if _ then _ else _) = _
      rw [if_pos hanswer]
      exact Function.update_eq_self_iff.mpr hlevel.symm
    · rfl
    · exact fun p hp => hp
    · exact fun p hp => mem_halted hp
    · intro p hp hfresh u hu
      rcases List.mem_append.mp hp with hold | hsubmitted
      · exact absurd (not_new_setting_halted hold) hfresh
      · obtain rfl := List.mem_singleton.mp hsubmitted
        obtain rfl := Option.some.inj ((runSettingTask_eq hp).symm.trans hu)
        exact (setSettingBrightness_same_iff _ _).mpr hsetting

theorem now_inert_iff (s : DisplayBrightness) (id : ℕ) (c : ScreenController) (value : ℕ) :
    Inert s (s.updateBrightness id c value 0 true).1 ↔
      s.brightness.device.answers.headD true = false ∨
        s.brightness.device.level c.displayId = s.screenLevel id value ∧
          ∀ setting ∈ s.brightness.settings.brightness, setting = value := by
  cases hanswer : s.brightness.device.answers.headD true with
  | false => exact iff_of_true (refused_inert id c value hanswer) (Or.inl rfl)
  | true => exact (accepted_inert_iff id c value hanswer).trans (or_iff_right (by simp)).symm

theorem nothingToDo_iff (s : DisplayBrightness) (id : ℕ) (c : ScreenController)
    (value duration : ℕ) :
    Inert s (s.updateBrightness id c value duration true).1 ↔
      NothingToDo s id c value duration := by
  rw [NothingToDo]
  rcases Nat.eq_zero_or_pos duration with rfl | hd
  · rw [if_pos rfl]
    exact now_inert_iff s id c value
  · rw [if_neg (by omega)]
    exact gradual_inert_iff s id c value hd true

/-- With the display off, a call is inert exactly if it is refused or leaves the controller nothing
to do. -/
theorem adjustBrightness_inert_iff {s : DisplayBrightness} {id : ℕ} (h : Dark s id)
    (isSystem : Bool) (value : ℤ) (duration : ℕ) :
    Inert s (s.adjustBrightnessInner isSystem id value duration).1 ↔
      (isSystem = true → duration ≤ 60 * 1000 →
        ∀ c, s.service.controllerMap id = some c → NothingToDo s id c (wrap32 value) duration) := by
  by_cases hadmitted : isSystem = true ∧ duration ≤ 60 * 1000
  · obtain ⟨rfl, hd⟩ := hadmitted
    cases hc : s.service.controllerMap id with
    | none =>
      refine iff_of_true ?_ (fun _ _ c hc => nomatch hc)
      rw [adjustBrightnessInner, if_neg (by simp), if_neg (by omega), hc]
      exact .refl s
    | some c =>
      -- the brightness service keeps the refused value, nothing that the controller reads
      have hiff := nothingToDo_iff (s.withBrightness
        { s.brightness with cachedSettingBrightness := wrap32 value }) id c (wrap32 value) duration
      rw [adjustBrightness_dark h hc hd]
      constructor
      · rintro ⟨hlevel, hsettings, htasks, hanimator, hsetting⟩ _ _ c' hc'
        obtain rfl := Option.some.inj hc'
        exact hiff.mp ⟨hlevel, hsettings, htasks, hanimator, hsetting⟩
      · intro hdone
        obtain ⟨hlevel, hsettings, htasks, hanimator, hsetting⟩ :=
          hiff.mpr (hdone rfl hd c rfl)
        exact ⟨hlevel, hsettings, htasks, hanimator, hsetting⟩
  · refine iff_of_true ?_ (fun hs hd => absurd ⟨hs, hd⟩ hadmitted)
    rw [adjustBrightnessInner]
    split
    · exact .refl s
    · split
      · exact .refl s
      · rename_i hsystem hduration
        exact absurd ⟨by simpa using hsystem, by omega⟩ hadmitted

def switchedOff : DisplayBrightness where
  service :=
    { controllerMap := Function.update (fun _ => none) 0 (some { displayId := 0, state := .off })
      mainDisplayId := 0
      host := { brightness := ({ state := .off : BrightnessBoot }).start } }

theorem switchedOff_dark : Dark switchedOff 0 where
  service_off := rfl
  service_override := rfl
  screen_off c hc := by
    obtain rfl := Option.some.inj hc
    rfl
  screen_override := rfl

/-- The level is commanded to the dark panel. -/
theorem adjusts_while_off : ¬ AlwaysInert := by
  intro h
  have hlevel := congrFun (h switchedOff 0 switchedOff_dark true 200 0).level 0
  exact absurd hlevel (by decide +kernel)

/-- The value that the setting has already starts no animation. -/
theorem same_setting_inert :
    Inert switchedOff (switchedOff.adjustBrightnessInner true 0 102 500).1 := by
  refine (adjustBrightness_inert_iff switchedOff_dark true 102 500).mpr ?_
  intro _ _ c _
  rfl

end DisplayBrightness

end DisplayPowerMgr
