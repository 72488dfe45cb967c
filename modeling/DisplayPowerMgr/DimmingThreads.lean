import DisplayPowerMgr.BrightnessEffects

/-! A fade and brightness updates on different threads: `NextStep` is cut where another thread may
come in between. Which fade a step belongs to, and how many steps are in flight, is kept beside
what the code keeps. -/
namespace DisplayPowerMgr

/-- `NextStep` between its check and the call of `OnChanged`: the level to show, and whether it is
the last one. -/
def BrightnessDimming.advance (d : BrightnessDimming) : BrightnessDimming × ℕ × Bool :=
  let d := { d with currentStep := d.currentStep + 1 }
  if d.currentStep ≤ d.totalSteps then
    let nextBrightness := wrap32 (d.currentBrightness + d.stride)
    let isOutRange :=
      if d.stride > 0 then nextBrightness ≥ d.toBrightness else nextBrightness ≤ d.toBrightness
    if isOutRange then ({ d with currentBrightness := d.toBrightness }, d.toBrightness, true)
    else ({ d with currentBrightness := nextBrightness }, nextBrightness, false)
  else ({ d with currentBrightness := d.toBrightness }, d.toBrightness, true)

/-- Where a `NextStep` that runs stands: past its check, about to call `OnChanged`, past the check
there, past the write, back from `OnChanged`. -/
inductive NextStepPhase where
  | checked
  | advanced (value : ℕ) (isLast : Bool)
  | writing (value : ℕ) (isLast : Bool)
  | wrote (value : ℕ) (isSuccess isLast : Bool)
  | finishing (isLast : Bool)
  deriving DecidableEq, Repr

/-- A `NextStep` that runs, and the update that started its fade. -/
structure RunningStep where
  fade : ℕ
  phase : NextStepPhase
  deriving DecidableEq, Repr

/-- Updates are numbered from 1: `updates` is the last one, `lastNow` the last one that wrote its
level itself and `fadeOf` the one that started the fade of a task. -/
structure DimmingThreads where
  brightness : BrightnessService
  running : Option RunningStep := none
  updates : ℕ := 0
  lastNow : ℕ := 0
  isGradual : Bool := false
  fadeOf : ℕ → ℕ := fun _ => 0

inductive ThreadEvent where
  | updateBrightness (value gradualDuration : ℕ) (updateSetting : Bool)
  | fires (id : ℕ)
  | proceeds
  | settingFires (id : ℕ)
  deriving DecidableEq, Repr

namespace DimmingThreads

open BrightnessService

def updateBrightness (s : DimmingThreads) (value gradualDuration : ℕ) (updateSetting : Bool) :
    DimmingThreads :=
  let (brightness, isSuccess) :=
    s.brightness.updateBrightness value gradualDuration updateSetting
  { s with
    brightness := brightness
    updates := s.updates + 1
    lastNow := if gradualDuration = 0 && isSuccess then s.updates + 1 else s.lastNow
    isGradual := s.isGradual || gradualDuration > 0
    fadeOf := Function.update s.fadeOf s.brightness.tasks.next (s.updates + 1) }

/-- The task of a fade runs up to its check. -/
def fire (s : DimmingThreads) (id : ℕ) : DimmingThreads :=
  { s with
    brightness := { s.brightness with tasks := s.brightness.tasks.remove id }
    running :=
      if s.brightness.dimming.isDimming && s.brightness.dimming.hasQueue then
        some ⟨s.fadeOf id, .checked⟩
      else none }

/-- The next thing that a running `NextStep` does. -/
def proceed (s : DimmingThreads) (fade : ℕ) : NextStepPhase → DimmingThreads
  | .checked =>
    let (dimming, value, isLast) := s.brightness.dimming.advance
    { s with
      brightness := { s.brightness with dimming := dimming }
      running := some ⟨fade, .advanced value isLast⟩ }
  | .advanced value isLast =>
    { s with
      running :=
        some ⟨fade,
          if s.brightness.dimming.isDimming then .writing value isLast else .finishing isLast⟩ }
  | .writing value isLast =>
    let (device, isSuccess) := s.brightness.device.setBrightness s.brightness.displayId value
    { s with
      brightness := { s.brightness with device := device }
      running := some ⟨fade, .wrote value isSuccess isLast⟩ }
  | .wrote value isSuccess isLast =>
    { s with
      brightness :=
        if isSuccess && !s.brightness.isSleepStatus && s.brightness.dimming.isDimming then
          s.brightness.submitTask (.dimmingSettingBrightness value)
        else s.brightness
      running := some ⟨fade, .finishing isLast⟩ }
  | .finishing isLast =>
    if isLast then
      { s with
        brightness :=
          { s.brightness with dimming := { s.brightness.dimming with isDimming := false } }
        running := none }
    else
      { s with
        brightness := s.brightness.submitNextStep
        running := none
        fadeOf := Function.update s.fadeOf s.brightness.tasks.next fade }

/-- The tasks of the queue of the fade run one at a time. -/
def step (s : DimmingThreads) : ThreadEvent → Option DimmingThreads
  | .updateBrightness value gradualDuration updateSetting =>
    some (s.updateBrightness value gradualDuration updateSetting)
  | .fires id =>
    if s.running.isSome ∨ s.brightness.tasks.find? id ≠ some .nextStep then none
    else some (s.fire id)
  | .proceeds => s.running.map fun r => s.proceed r.fade r.phase
  | .settingFires id =>
    if (s.brightness.tasks.find? id).any BrightnessTask.writesSetting then
      (s.brightness.runTask id).map fun brightness => { s with brightness := brightness }
    else none

theorem advance_isDimming (d : BrightnessDimming) : d.advance.1.isDimming = d.isDimming := by
  rw [BrightnessDimming.advance]
  dsimp only
  repeat' split
  all_goals rfl

theorem advance_hasQueue (d : BrightnessDimming) : d.advance.1.hasQueue = d.hasQueue := by
  rw [BrightnessDimming.advance]
  dsimp only
  repeat' split
  all_goals rfl

theorem nextStep_eq_advance {d : BrightnessDimming} (hd : d.isDimming = true)
    (hq : d.hasQueue = true) :
    d.nextStep =
      ⟨if d.advance.2.2 then { d.advance.1 with isDimming := false } else d.advance.1,
        some d.advance.2.1, !d.advance.2.2⟩ := by
  rw [BrightnessDimming.nextStep, BrightnessDimming.advance, if_neg (by simp [hd]),
    if_neg (by simp [hq])]
  dsimp only
  by_cases hleft : d.currentStep + 1 ≤ d.totalSteps
  · rw [if_pos hleft, if_pos hleft]
    by_cases hout : (if d.stride > 0 then wrap32 (d.currentBrightness + d.stride) ≥ d.toBrightness
      else wrap32 (d.currentBrightness + d.stride) ≤ d.toBrightness)
    · rw [if_pos hout, if_pos hout]
      rfl
    · rw [if_neg hout, if_neg hout]
      rfl
  · rw [if_neg hleft, if_neg hleft]
    rfl

theorem step_proceeds {s : DimmingThreads} {fade : ℕ} {phase : NextStepPhase}
    (h : s.running = some ⟨fade, phase⟩) : step s .proceeds = some (s.proceed fade phase) := by
  rw [step, h]
  rfl

theorem run_onChanged {s : DimmingThreads} {fade value : ℕ} {isLast : Bool}
    (h : s.running = some ⟨fade, .advanced value isLast⟩)
    (hd : s.brightness.dimming.isDimming = true) :
    Runs.run step s [.proceeds, .proceeds, .proceeds] =
      some { s with
        brightness := s.brightness.onChanged value
        running := some ⟨fade, .finishing isLast⟩ } := by
  have hcheck : s.proceed fade (.advanced value isLast) =
      { s with running := some ⟨fade, .writing value isLast⟩ } := by
    rw [proceed, if_pos hd]
  rw [Runs.run_cons, step_proceeds h, hcheck, onChanged, if_neg (by simp [hd])]
  simp only [Option.bind_some, Runs.run_cons, step, Option.map_some, proceed, hd, Bool.and_true,
    Runs.run_nil]

theorem onChanged_advanced (bs : BrightnessService) {d : BrightnessDimming}
    (hd : d.isDimming = bs.dimming.isDimming) (value : ℕ) :
    ({ bs with dimming := d } : BrightnessService).onChanged value =
      { bs.onChanged value with dimming := d } := by
  rw [onChanged, onChanged]
  dsimp only
  rw [hd]
  split
  · rfl
  · split
    · rfl
    · rfl

/-- A step of an active fade that nobody interrupts is the task as a whole. -/
theorem uninterrupted {s : DimmingThreads} {id : ℕ} (hrun : s.running = none)
    (hid : s.brightness.tasks.find? id = some .nextStep)
    (hd : s.brightness.dimming.isDimming = true) (hq : s.brightness.dimming.hasQueue = true) :
    ∃ t, Runs.run step s [.fires id, .proceeds, .proceeds, .proceeds, .proceeds, .proceeds] =
        some t ∧
      t.running = none ∧ s.brightness.runTask id = some t.brightness := by
  rcases hadvance : s.brightness.dimming.advance with ⟨d, value, isLast⟩
  have hstep := nextStep_eq_advance hd hq
  have had := advance_isDimming s.brightness.dimming
  rw [hadvance] at hstep had
  let u : DimmingThreads :=
    { s with
      brightness :=
        { s.brightness with tasks := s.brightness.tasks.remove id, dimming := d }
      running := some ⟨s.fadeOf id, .advanced value isLast⟩ }
  have hfire : Runs.run step s [.fires id, .proceeds] = some u := by
    simp [Runs.run_cons, step, fire, hrun, hid, hd, hq, proceed, hadvance, u]
  have hchanged := run_onChanged (s := u) rfl (had.trans hd)
  have hbefore := Runs.run_append_some.mpr ⟨u, hfire, hchanged⟩
  have honChanged :=
    onChanged_advanced { s.brightness with tasks := s.brightness.tasks.remove id } had value
  rw [runTask_eq hid, perform, BrightnessService.nextStep]
  dsimp only
  rw [hstep]
  refine ⟨_, Runs.run_append_some.mpr
    ⟨_, hbefore, Runs.run_cons_some.mpr ⟨_, step_proceeds rfl, Runs.run_nil _⟩⟩, ?_⟩
  cases isLast with
  | true =>
    refine ⟨rfl, ?_⟩
    simp [proceed, u, honChanged, notifyChanged]
  | false =>
    refine ⟨rfl, ?_⟩
    simp [proceed, u, honChanged, notifyChanged]

theorem fires_idle {s : DimmingThreads} {id : ℕ} (hrun : s.running = none)
    (hid : s.brightness.tasks.find? id = some .nextStep)
    (h : s.brightness.dimming.isDimming = false ∨ s.brightness.dimming.hasQueue = false) :
    ∃ t, step s (.fires id) = some t ∧
      t.running = none ∧ s.brightness.runTask id = some t.brightness := by
  have hidle : (s.brightness.dimming.isDimming && s.brightness.dimming.hasQueue) = false :=
    Bool.and_eq_false_iff.mpr h
  have hno : ({ s.brightness with
      tasks := s.brightness.tasks.remove id } : BrightnessService).nextStep =
        { s.brightness with tasks := s.brightness.tasks.remove id } :=
    nextStep_idle h
  refine ⟨s.fire id, ?_, ?_, ?_⟩
  · simp [step, hrun, hid]
  · simp [fire, hidle]
  · rw [runTask_eq hid, perform, hno]
    rfl

end DimmingThreads

end DisplayPowerMgr
