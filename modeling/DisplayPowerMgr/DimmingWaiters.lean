import DisplayPowerMgr.SupersededFades

/-! `WaitDimmingDone` beside a fade: callers look whether the fade runs, and wait, while the steps
of the fade go on on another thread. -/
namespace DisplayPowerMgr

/-- A caller holds the lock and is about to look, waits on the condition, or is back. -/
inductive WaitPhase where
  | looking | waiting | returned
  deriving DecidableEq, Repr

structure DimmingWaiters where
  threads : DimmingThreads
  call : ℕ → Option WaitPhase := fun _ => none

/-- A wait ends when the condition is notified, after 600 ms, or for no reason at all. -/
inductive WaitEvent where
  | thread (e : ThreadEvent)
  | waitDimmingDone (call : ℕ)
  | looks (call : ℕ)
  | wakes (call : ℕ)
  deriving DecidableEq, Repr

namespace DimmingWaiters

open BrightnessService Runs

def isDimming (s : DimmingWaiters) : Bool := s.threads.brightness.dimming.isDimming

def setCall (s : DimmingWaiters) (k : ℕ) (phase : WaitPhase) : DimmingWaiters :=
  { s with call := Function.update s.call k (some phase) }

def step (s : DimmingWaiters) : WaitEvent → Option DimmingWaiters
  | .thread e => (s.threads.step e).map fun threads => { s with threads := threads }
  | .waitDimmingDone k => if s.call k = none then some (s.setCall k .looking) else none
  | .looks k =>
    if s.call k = some .looking then
      some (s.setCall k (if s.isDimming then .waiting else .returned))
    else none
  | .wakes k => if s.call k = some .waiting then some (s.setCall k .looking) else none

def isQuiet : WaitEvent → Bool
  | .thread (.updateBrightness _ _ _) => false
  | _ => true

end DimmingWaiters

namespace DimmingThreads

open BrightnessService

variable {s t : DimmingThreads} {target : ℕ}

def Shows (bs : BrightnessService) (target : ℕ) : Prop :=
  bs.device.written.getLast? = some (bs.displayId, target)

/-- The last step of a fade carries the target from its check to the panel. -/
def Carries (target : ℕ) (bs : BrightnessService) : NextStepPhase → Prop
  | .checked => True
  | .advanced value isLast => isLast = true → value = target
  | .writing value isLast => isLast = true → value = target
  | .wrote _ _ isLast => isLast = true → Shows bs target
  | .finishing isLast => isLast = true → Shows bs target

/-- While the fade is active it heads for the target, and when it is over the panel has been sent
there and no step runs. -/
structure HeadsFor (target : ℕ) (s : DimmingThreads) : Prop where
  heads : s.brightness.dimming.isDimming = true → s.brightness.dimming.toBrightness = target
  ended : s.brightness.dimming.isDimming = false → s.running = none ∧ Shows s.brightness target
  carries : ∀ r, s.running = some r → Carries target s.brightness r.phase

theorem HeadsFor.active (h : HeadsFor target s) {r : RunningStep} (hr : s.running = some r) :
    s.brightness.dimming.isDimming = true := by
  by_contra hover
  have hnone := (h.ended (Bool.eq_false_of_not_eq_true hover)).1
  rw [hr] at hnone
  cases hnone

theorem advance_toBrightness (d : BrightnessDimming) :
    d.advance.1.toBrightness = d.toBrightness := by
  rw [BrightnessDimming.advance]
  dsimp only
  repeat' split
  all_goals rfl

theorem advance_last {d : BrightnessDimming} (h : d.advance.2.2 = true) :
    d.advance.2.1 = d.toBrightness := by
  rw [BrightnessDimming.advance] at h ⊢
  dsimp only at h ⊢
  by_cases hleft : d.currentStep + 1 ≤ d.totalSteps
  · rw [if_pos hleft] at h ⊢
    by_cases hout : (if d.stride > 0 then wrap32 (d.currentBrightness + d.stride) ≥ d.toBrightness
      else wrap32 (d.currentBrightness + d.stride) ≤ d.toBrightness)
    · rw [if_pos hout]
    · rw [if_neg hout] at h
      cases h
  · rw [if_neg hleft]

theorem settingFires_keeps {id : ℕ} (ht : step s (.settingFires id) = some t) :
    t.running = s.running ∧ t.brightness.dimming = s.brightness.dimming ∧
      t.brightness.device = s.brightness.device ∧
      t.brightness.displayId = s.brightness.displayId := by
  obtain ⟨hwrites, ht⟩ := Option.ite_none_right_eq_some.mp ht
  obtain ⟨bs, hbs, rfl⟩ := Option.map_eq_some_iff.mp ht
  obtain ⟨task, htask, rfl⟩ := Option.map_eq_some_iff.mp hbs
  rw [htask] at hwrites
  cases task with
  | settingBrightness safeBrightness => exact ⟨rfl, rfl, rfl, rfl⟩
  | dimmingSettingBrightness currentValue => exact ⟨rfl, rfl, rfl, rfl⟩
  | nextStep => cases hwrites
  | cancelBoostBrightness gradualDuration => cases hwrites
  | waitForFirstLux screenOnBrightness => cases hwrites

theorem HeadsFor.between
    (heads : s.brightness.dimming.isDimming = true → s.brightness.dimming.toBrightness = target)
    (ended : s.brightness.dimming.isDimming = false → Shows s.brightness target)
    (hrun : s.running = none) : HeadsFor target s where
  heads := heads
  ended hover := ⟨hrun, ended hover⟩
  carries r hr := by cases hrun.symm.trans hr

theorem HeadsFor.during {fade : ℕ} {phase : NextStepPhase}
    (hdim : s.brightness.dimming.isDimming = true)
    (hto : s.brightness.dimming.toBrightness = target)
    (hr : s.running = some ⟨fade, phase⟩) (hcarries : Carries target s.brightness phase) :
    HeadsFor target s where
  heads _ := hto
  ended hover := by cases hdim.symm.trans hover
  carries r hr' := by
    obtain rfl := Option.some.inj (hr.symm.trans hr')
    exact hcarries

theorem Carries.same {bs bs' : BrightnessService} (hdevice : bs'.device = bs.device)
    (hdisplay : bs'.displayId = bs.displayId) {phase : NextStepPhase}
    (h : Carries target bs phase) : Carries target bs' phase := by
  have hshows : Shows bs' target ↔ Shows bs target := by
    rw [Shows, Shows, hdevice, hdisplay]
  cases phase with
  | checked => exact h
  | advanced value isLast => exact h
  | writing value isLast => exact h
  | wrote value isSuccess isLast => exact fun hlast => hshows.mpr (h hlast)
  | finishing isLast => exact fun hlast => hshows.mpr (h hlast)

theorem HeadsFor.same (h : HeadsFor target s) (hrunning : t.running = s.running)
    (hdimming : t.brightness.dimming = s.brightness.dimming)
    (hdevice : t.brightness.device = s.brightness.device)
    (hdisplay : t.brightness.displayId = s.brightness.displayId) : HeadsFor target t := by
  constructor
  · rw [hdimming]
    exact h.heads
  · rw [hdimming, hrunning, Shows, hdevice, hdisplay]
    exact h.ended
  · intro r hr
    rw [hrunning] at hr
    exact (h.carries r hr).same hdevice hdisplay

theorem HeadsFor.fire (h : HeadsFor target s) (id : ℕ) : HeadsFor target (s.fire id) := by
  rw [DimmingThreads.fire]
  split
  · rename_i hactive
    have hdim := (Bool.and_eq_true_iff.mp hactive).1
    exact .during hdim (h.heads hdim) rfl trivial
  · exact .between h.heads (fun hover => (h.ended hover).2) rfl

theorem HeadsFor.proceed (h : HeadsFor target s) {fade : ℕ} {phase : NextStepPhase}
    (hr : s.running = some ⟨fade, phase⟩) : HeadsFor target (s.proceed fade phase) := by
  have hdim := h.active hr
  have hto := h.heads hdim
  have hcarries := h.carries _ hr
  cases phase with
  | checked =>
    have hto' := (advance_toBrightness s.brightness.dimming).trans hto
    refine .during ((advance_isDimming _).trans hdim) hto' rfl ?_
    exact fun hlast => (advance_last hlast).trans hto
  | advanced value isLast =>
    rw [DimmingThreads.proceed, if_pos hdim]
    exact .during hdim hto rfl hcarries
  | writing value isLast =>
    refine .during hdim hto rfl fun hlast => ?_
    rw [← hcarries hlast]
    exact List.getLast?_concat
  | wrote value isSuccess isLast =>
    rw [DimmingThreads.proceed]
    split
    · exact .during hdim hto rfl hcarries
    · exact .during hdim hto rfl hcarries
  | finishing isLast =>
    cases isLast with
    | true => exact .between (fun hno => by cases hno) (fun _ => hcarries rfl) rfl
    | false => exact .between h.heads (fun hover => by cases hdim.symm.trans hover) rfl

theorem HeadsFor.step (h : HeadsFor target s) {e : ThreadEvent}
    (hquiet : ∀ value duration updateSetting, e ≠ .updateBrightness value duration updateSetting)
    (ht : s.step e = some t) : HeadsFor target t := by
  cases e with
  | updateBrightness value duration updateSetting => exact absurd rfl (hquiet _ _ _)
  | fires id =>
    obtain ⟨_, ht⟩ := Option.ite_none_left_eq_some.mp ht
    obtain rfl := Option.some.inj ht
    exact h.fire id
  | proceeds =>
    obtain ⟨r, hr, rfl⟩ := Option.map_eq_some_iff.mp ht
    exact h.proceed hr
  | settingFires id =>
    obtain ⟨hrunning, hdimming, hdevice, hdisplay⟩ := settingFires_keeps ht
    exact h.same hrunning hdimming hdevice hdisplay

/-- Without a new brightness a fade that is over stays over. -/
theorem HeadsFor.stays_over (h : HeadsFor target s) {e : ThreadEvent}
    (hquiet : ∀ value duration updateSetting, e ≠ .updateBrightness value duration updateSetting)
    (ht : s.step e = some t) (hover : s.brightness.dimming.isDimming = false) :
    t.brightness.dimming.isDimming = false := by
  cases e with
  | updateBrightness value duration updateSetting => exact absurd rfl (hquiet _ _ _)
  | fires id =>
    obtain ⟨_, ht⟩ := Option.ite_none_left_eq_some.mp ht
    obtain rfl := Option.some.inj ht
    exact hover
  | proceeds =>
    obtain ⟨r, hr, rfl⟩ := Option.map_eq_some_iff.mp ht
    cases (h.active hr).symm.trans hover
  | settingFires id =>
    rw [(settingFires_keeps ht).2.1]
    exact hover

theorem startDimming_heads {d : BrightnessDimming} {start : ℕ} (hidle : d.isDimming = false)
    (hqueue : d.hasQueue = true) (hne : toInt32 target - toInt32 start ≠ 0) (duration : ℕ) :
    (d.startDimming start target duration).1.isDimming = true ∧
      (d.startDimming start target duration).1.toBrightness = target := by
  rw [BrightnessDimming.startDimming, hidle, hqueue]
  simp [hne]

theorem HeadsFor.of_update {s : DimmingThreads} (hrun : s.running = none) {value duration : ℕ}
    (hfades : Fades s.brightness value) (hd : 0 < duration) (updateSetting : Bool) :
    HeadsFor (s.brightness.deviceLevel value)
      (s.updateBrightness value duration updateSetting) := by
  obtain ⟨hactive, hto⟩ := startDimming_heads (halted_isDimming s.brightness)
    ((halted_hasQueue s.brightness).trans hfades.1) hfades.2 duration
  have hdimming : (s.updateBrightness value duration updateSetting).brightness.dimming =
      (s.brightness.halted.dimming.startDimming s.brightness.getSettingBrightness
        (s.brightness.deviceLevel value) duration).1 := by
    change (s.brightness.updateBrightness value duration updateSetting).1.dimming = _
    rw [updateBrightness_gradual s.brightness hd, startDimming]
    dsimp only
    split
    · rfl
    · rfl
  rw [← hdimming] at hactive hto
  exact .between (fun _ => hto) (fun hover => by cases hactive.symm.trans hover) hrun

end DimmingThreads

namespace DimmingWaiters

open DimmingThreads Runs

variable {s t : DimmingWaiters} {target k : ℕ}

theorem not_update {e : ThreadEvent} (h : isQuiet (.thread e) = true) (value duration : ℕ)
    (updateSetting : Bool) : e ≠ .updateBrightness value duration updateSetting := by
  rintro rfl
  cases h

/-- Those who are back have seen the fade over. -/
structure Beside (target : ℕ) (s : DimmingWaiters) : Prop where
  fade : HeadsFor target s.threads
  back : ∀ k, s.call k = some .returned → s.isDimming = false

theorem Beside.setCall (h : Beside target s) {k : ℕ} {phase : WaitPhase}
    (hphase : phase = .returned → s.isDimming = false) : Beside target (s.setCall k phase) where
  fade := h.fade
  back j hj := by
    change Function.update s.call k (some phase) j = some .returned at hj
    by_cases hjk : j = k
    · subst hjk
      rw [Function.update_self] at hj
      exact hphase (Option.some.inj hj)
    · rw [Function.update_of_ne hjk] at hj
      exact h.back j hj

theorem Beside.step (h : Beside target s) {e : WaitEvent} (hquiet : isQuiet e = true)
    (ht : s.step e = some t) : Beside target t := by
  cases e with
  | thread e =>
    obtain ⟨threads, hthreads, rfl⟩ := Option.map_eq_some_iff.mp ht
    have hno := not_update hquiet
    exact ⟨h.fade.step hno hthreads, fun j hj => h.fade.stays_over hno hthreads (h.back j hj)⟩
  | waitDimmingDone k =>
    obtain ⟨_, ht⟩ := Option.ite_none_right_eq_some.mp ht
    obtain rfl := Option.some.inj ht
    exact h.setCall fun hreturned => by cases hreturned
  | looks k =>
    obtain ⟨_, ht⟩ := Option.ite_none_right_eq_some.mp ht
    obtain rfl := Option.some.inj ht
    refine h.setCall fun hreturned => ?_
    by_contra hdim
    rw [if_pos (Bool.eq_true_of_not_eq_false hdim)] at hreturned
    cases hreturned
  | wakes k =>
    obtain ⟨_, ht⟩ := Option.ite_none_right_eq_some.mp ht
    obtain rfl := Option.some.inj ht
    exact h.setCall fun hreturned => by cases hreturned

/-- How many steps of its own a caller still has to take once the fade is over. -/
def stepsLeft : WaitPhase → ℕ
  | .looking => 1
  | .waiting => 2
  | .returned => 0

def isStepOf (k : ℕ) : WaitEvent → Bool
  | .looks j => j = k
  | .wakes j => j = k
  | _ => false

theorem setCall_other {j : ℕ} (h : k ≠ j) (phase : WaitPhase) :
    (s.setCall j phase).call k = s.call k :=
  Function.update_of_ne h _ _

theorem setCall_self (phase : WaitPhase) : (s.setCall k phase).call k = some phase :=
  Function.update_self _ _ _

/-- Once the fade is over each step of a caller brings it nearer, and nothing else sets it back. -/
theorem nearer_step (h : Beside target s) (hover : s.isDimming = false) {e : WaitEvent}
    (hquiet : isQuiet e = true) (ht : s.step e = some t) {phase : WaitPhase}
    (hk : s.call k = some phase) :
    t.isDimming = false ∧ ∃ phase', t.call k = some phase' ∧
      stepsLeft phase' + (if isStepOf k e then 1 else 0) = stepsLeft phase := by
  cases e with
  | thread e =>
    obtain ⟨threads, hthreads, rfl⟩ := Option.map_eq_some_iff.mp ht
    exact ⟨h.fade.stays_over (not_update hquiet) hthreads hover, phase, hk, rfl⟩
  | waitDimmingDone j =>
    obtain ⟨hfree, ht⟩ := Option.ite_none_right_eq_some.mp ht
    obtain rfl := Option.some.inj ht
    have hkj : k ≠ j := by
      rintro rfl
      cases hfree.symm.trans hk
    exact ⟨hover, phase, (setCall_other hkj _).trans hk, rfl⟩
  | looks j =>
    obtain ⟨hlooking, ht⟩ := Option.ite_none_right_eq_some.mp ht
    obtain rfl := Option.some.inj ht
    refine ⟨hover, ?_⟩
    by_cases hkj : k = j
    · subst hkj
      obtain rfl := Option.some.inj (hlooking.symm.trans hk)
      refine ⟨.returned, ?_, by simp [isStepOf, stepsLeft]⟩
      rw [setCall_self, hover]
      rfl
    · refine ⟨phase, (setCall_other hkj _).trans hk, ?_⟩
      simp [isStepOf, Ne.symm hkj]
  | wakes j =>
    obtain ⟨hwaiting, ht⟩ := Option.ite_none_right_eq_some.mp ht
    obtain rfl := Option.some.inj ht
    refine ⟨hover, ?_⟩
    by_cases hkj : k = j
    · subst hkj
      obtain rfl := Option.some.inj (hwaiting.symm.trans hk)
      exact ⟨.looking, setCall_self _, by simp [isStepOf, stepsLeft]⟩
    · refine ⟨phase, (setCall_other hkj _).trans hk, ?_⟩
      simp [isStepOf, Ne.symm hkj]

theorem nearer_run (h : Beside target s) (hover : s.isDimming = false) {es : List WaitEvent}
    (hquiet : ∀ e ∈ es, isQuiet e = true) (ht : run DimmingWaiters.step s es = some t)
    {phase : WaitPhase} (hk : s.call k = some phase) :
    ∃ phase', t.call k = some phase' ∧
      stepsLeft phase' + es.countP (isStepOf k) = stepsLeft phase := by
  induction es generalizing s phase with
  | nil =>
    obtain rfl := Option.some.inj ht
    exact ⟨phase, hk, rfl⟩
  | cons e es ih =>
    obtain ⟨u, hu, hut⟩ := run_cons_some.mp ht
    have hnow : isQuiet e = true := hquiet e List.mem_cons_self
    obtain ⟨hover', phase', hk', hleft⟩ := nearer_step h hover hnow hu hk
    obtain ⟨last, hlast, hcount⟩ := ih (h.step hnow hu) hover'
      (fun e he => hquiet e (List.mem_cons_of_mem _ he)) hut hk'
    refine ⟨last, hlast, ?_⟩
    rw [List.countP_cons]
    omega

/-- While an update fades undisturbed, no caller comes back before the panel has been sent the level
of its value, whenever it asks and wakes; and once the fade is over each caller is back after the
one or two steps it has left. -/
theorem wait_ends_with_target {r : DimmingThreads} (hrun : r.running = none) {value duration : ℕ}
    (hfades : Fades r.brightness value) (hd : 0 < duration) {updateSetting : Bool}
    (hs : s.threads = r.updateBrightness value duration updateSetting)
    (hcalls : ∀ k, s.call k ≠ some .returned) {es : List WaitEvent}
    (hquiet : ∀ e ∈ es, isQuiet e = true) (ht : run DimmingWaiters.step s es = some t) :
    (∀ k, t.call k = some .returned →
      Shows t.threads.brightness (r.brightness.deviceLevel value)) ∧
    (t.isDimming = false → ∀ fs u, (∀ e ∈ fs, isQuiet e = true) →
      run DimmingWaiters.step t fs = some u → ∀ k phase, t.call k = some phase →
        ∃ phase', u.call k = some phase' ∧
          stepsLeft phase' + fs.countP (isStepOf k) = stepsLeft phase) := by
  have hstart : Beside (r.brightness.deviceLevel value) s :=
    ⟨hs ▸ HeadsFor.of_update hrun hfades hd updateSetting, fun k hk => absurd hk (hcalls k)⟩
  have hend := run_invariant_of (J := Beside (r.brightness.deviceLevel value))
    (P := fun e => isQuiet e = true) (fun _ _ _ h he hstep => h.step he hstep) hstart hquiet ht
  constructor
  · intro k hk
    exact (hend.fade.ended (hend.back k hk)).2
  · intro hover fs u hfs hu k phase hk
    exact nearer_run hend hover hfs hu hk

def shortFade : DimmingWaiters := { threads := DimmingThreads.booted.updateBrightness 200 30 false }

def waitEvents : List WaitEvent :=
  [.waitDimmingDone 0, .looks 0, .thread (.fires 0), .thread .proceeds, .thread .proceeds,
    .wakes 0, .looks 0, .thread .proceeds, .thread .proceeds, .thread .proceeds, .wakes 0, .looks 0]

theorem short_wait_ends : ∃ t, run DimmingWaiters.step shortFade waitEvents = some t ∧
    t.call 0 = some .returned ∧ Shows t.threads.brightness 175 := by
  have hback : (run DimmingWaiters.step shortFade waitEvents).any
      (fun t => t.call 0 = some .returned) = true := by
    decide +kernel
  obtain ⟨t, ht, hreturned⟩ := (Option.any_eq_true _ _).mp hback
  have hreturned := of_decide_eq_true hreturned
  have hlevel : DimmingThreads.booted.brightness.deviceLevel 200 = 175 := by decide +kernel
  rw [← hlevel]
  refine ⟨t, ht, hreturned, ?_⟩
  have hthreads : shortFade.threads = DimmingThreads.booted.updateBrightness 200 30 false := rfl
  have hcalls : ∀ k, shortFade.call k ≠ some .returned := fun k hk => by cases hk
  exact (wait_ends_with_target (r := DimmingThreads.booted) rfl (by decide +kernel) (by decide)
    hthreads hcalls (by decide) ht).1 0 hreturned

end DimmingWaiters

end DisplayPowerMgr
