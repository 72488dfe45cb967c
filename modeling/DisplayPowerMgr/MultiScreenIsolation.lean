import DisplayPowerMgr.SecondaryDisplays
import DisplayPowerMgr.MultiScreen

/-! Whether a change of one screen stays away from all others. The id of the screen gets lost on
three ways below the controllers: by its upper half, in the undo, and in the one service. -/
namespace DisplayPowerMgr

namespace BrightnessService

/-- From `a` to `b` levels were commanded of the one display of the service, and some if `p`. -/
structure Writes (p : Prop) (a b : BrightnessService) : Prop where
  displayId : b.displayId = a.displayId
  written : ∃ levels : List ℕ,
    b.device.written = a.device.written ++ levels.map (Prod.mk a.displayId) ∧ (levels = [] ↔ ¬ p)
  others : ∀ id, id ≠ a.displayId → b.device.level id = a.device.level id
  quiet : ¬ p → b.device = a.device

def LightsNow (bs : BrightnessService) : Prop :=
  bs.waitForFirstLux = false ∧ bs.KnowsBrightness

/-- Switching on ends the sleep override, which commands the level from before it. -/
def RestoresLevel (bs : BrightnessService) (state : DisplayState) : Prop :=
  state = .on ∧ bs.isSleepStatus = true ∧ bs.isBrightnessOverridden = true

/-- Switching off drops the target, and the override with the sleep that it is of. -/
def switched (bs : BrightnessService) (state : DisplayState) : BrightnessService :=
  if state = .off then
    { bs with
      isBrightnessOverridden := !bs.isSleepStatus && bs.isBrightnessOverridden
      brightnessTarget := 0 }
  else bs

/-- A change to `state` that ends in `kept`, which is the old state if it fails, commands a level:
as it ends the sleep override, lights the screen, or dims it again. -/
def CommandsLevel (bs : BrightnessService) (state kept : DisplayState) : Prop :=
  bs.RestoresLevel state ∨
    (kept = .on ∨ kept = .dim) ∧ (bs.switched state).LightsNow ∨ bs.Dims kept

variable {bs a b c : BrightnessService} {p q : Prop}

theorem Writes.congr (h : Writes p a b) (hpq : p ↔ q) : Writes q a b := by
  obtain rfl : p = q := propext hpq
  exact h

theorem Writes.of_same (hid : b.displayId = a.displayId) (hdevice : b.device = a.device)
    (hp : ¬ p) : Writes p a b where
  displayId := hid
  written := ⟨[], by simp [hdevice], by simp [hp]⟩
  others id _ := by rw [hdevice]
  quiet _ := hdevice

theorem Writes.trans (hab : Writes p a b) (hbc : Writes q b c) : Writes (p ∨ q) a c where
  displayId := hbc.displayId.trans hab.displayId
  written := by
    obtain ⟨levels, hlevels, hnone⟩ := hab.written
    obtain ⟨levels', hlevels', hnone'⟩ := hbc.written
    refine ⟨levels ++ levels', ?_, ?_⟩
    · rw [hlevels', hlevels, hab.displayId, List.map_append, List.append_assoc]
    · rw [List.append_eq_nil_iff, hnone, hnone', not_or]
  others id hid := by
    rw [hbc.others id (fun h => hid (h.trans hab.displayId)), hab.others id hid]
  quiet hpq := (hbc.quiet (not_or.mp hpq).2).trans (hab.quiet (not_or.mp hpq).1)

theorem SameLight.writes (h : SameLight a b) (hp : ¬ p) : Writes p a b := by
  refine .of_same ?_ ?_ hp
  · rw [h]
  · rw [h]

theorem updateBrightness_writes (bs : BrightnessService) (value : ℕ) (updateSetting : Bool)
    (hp : p) : Writes p bs (bs.updateBrightness value 0 updateSetting).1 := by
  have hdevice : (bs.updateBrightness value 0 updateSetting).1.device =
      (bs.device.setBrightness bs.displayId (bs.deviceLevel value)).1 := by
    rw [updateBrightness_now]
    dsimp only
    split
    · rfl
    · rfl
  have hid : (bs.updateBrightness value 0 updateSetting).1.displayId = bs.displayId := by
    rw [updateBrightness_sameControl]
  refine ⟨hid, ⟨[bs.deviceLevel value], ?_, by simp [hp]⟩, ?_, fun hnot => absurd hp hnot⟩
  · rw [hdevice]
    rfl
  · intro id hne
    rw [hdevice, Device.setBrightness]
    dsimp only
    split
    · exact Function.update_of_ne hne _ _
    · rfl

theorem updateBrightness_fade_writes (bs : BrightnessService) (value : ℕ) {duration : ℕ}
    (updateSetting : Bool) (hduration : 0 < duration) (hp : ¬ p) :
    Writes p bs (bs.updateBrightness value duration updateSetting).1 := by
  refine .of_same ?_ ?_ hp
  · rw [updateBrightness_sameControl]
  · rw [updateBrightness_gradual bs hduration, startDimming]
    dsimp only
    split
    · exact halted_device bs
    · exact halted_device bs

theorem setScreenOnBrightness_writes (bs : BrightnessService) :
    Writes bs.LightsNow bs bs.setScreenOnBrightness := by
  by_cases hwaits : (bs.getScreenOnBrightness true).1.waitForFirstLux = true
  · have hnot : ¬ bs.LightsNow := by
      rcases (waits_iff bs).mp hwaits with hflag | hunknown
      · exact fun h => absurd (h.1.symm.trans hflag) (by simp)
      · exact fun h => hunknown h.2
    refine .of_same ?_ (setScreenOnBrightness_waits hwaits) hnot
    rw [setScreenOnBrightness]
    dsimp only
    rw [if_pos hwaits, getScreenOnBrightness_fst]
    split
    · rfl
    · rfl
  · obtain ⟨hflag, hknown⟩ := not_or.mp ((not_congr (waits_iff bs)).mp hwaits)
    rw [setScreenOnBrightness_lights (not_not.mp hknown) (by simpa using hflag)]
    exact updateBrightness_writes _ _ _ ⟨by simpa using hflag, not_not.mp hknown⟩

theorem SameLight.lightsNow_iff (h : SameLight a b) : b.LightsNow ↔ a.LightsNow := by
  rw [h]
  exact Iff.rfl

theorem SameLight.dims_iff (h : SameLight a b) (kept : DisplayState) :
    b.Dims kept ↔ a.Dims kept := by
  rw [h]
  exact Iff.rfl

/-- Entering on or off commands a level only as it ends the sleep override; otherwise it does no
more to the light than to drop the target and the override. -/
theorem setDisplayState_writes (bs : BrightnessService) {state : DisplayState}
    (hstate : state = .on ∨ state = .off) :
    Writes (bs.RestoresLevel state) bs (bs.setDisplayState state) ∧
      (¬ bs.RestoresLevel state → SameLight (bs.switched state) (bs.setDisplayState state)) := by
  rcases hstate with rfl | rfl
  · cases hsleep : bs.isSleepStatus with
    | false =>
      have hlight := (setDisplayState_on_light hsleep).1
      refine ⟨hlight.writes fun h => ?_, fun _ => hlight⟩
      exact absurd (hsleep.symm.trans h.2.1) (by simp)
    | true =>
      obtain ⟨henter, -⟩ := enterState_light bs .on
      have hsleep' : (bs.enterState .on).isSleepStatus = true := by
        rw [enterState_same bs .on]
        exact hsleep
      have hover : (bs.enterState .on).isBrightnessOverridden = bs.isBrightnessOverridden := by
        rw [enterState_same bs .on]
      rw [setDisplayState]
      dsimp only
      rw [if_pos hsleep', restoreBrightness]
      by_cases h : bs.isBrightnessOverridden = true
      · have hrestores : bs.RestoresLevel .on := ⟨rfl, hsleep, h⟩
        rw [if_neg (by simp [hover, h])]
        refine ⟨?_, fun hnot => absurd hrestores hnot⟩
        have hentered : Writes False bs (bs.enterState .on) := henter.writes id
        generalize bs.enterState .on = b at hentered
        have hupdate := updateBrightness_writes
          { b with isDisplayOnWhenFirstLuxReport := true, isBrightnessOverridden := false }
          b.beforeOverriddenBrightness true trivial
        have hboth := hentered.trans (Writes.trans (b := { b with
          isDisplayOnWhenFirstLuxReport := true, isBrightnessOverridden := false })
          (.of_same rfl rfl id) hupdate)
        exact Writes.congr ⟨hboth.displayId, hboth.written, hboth.others, hboth.quiet⟩
          (by simp [hrestores])
      · rw [if_pos (by simp [hover, h])]
        have hlight : SameLight bs { bs.enterState .on with
            isDisplayOnWhenFirstLuxReport := true, isSleepStatus := false } := henter.trans rfl
        refine ⟨hlight.writes fun hrestores => h hrestores.2.2, fun _ => hlight⟩
  · have hlight := setDisplayState_off_light bs
    have hflag : (bs.setDisplayState .off).isBrightnessOverridden =
        (!bs.isSleepStatus && bs.isBrightnessOverridden) :=
      congrArg BrightnessMode.isBrightnessOverridden (setDisplayState_mode bs .off).2
    rw [hflag] at hlight
    have hnot : ¬ bs.RestoresLevel .off := fun h => absurd h.1 (by simp)
    refine ⟨.of_same ?_ ?_ hnot, fun _ => hlight⟩
    · rw [hlight]
    · rw [hlight]

theorem changed_writes (bs : BrightnessService) {state : DisplayState}
    (hstate : state = .on ∨ state = .off) :
    Writes (bs.CommandsLevel state state) bs (if state = .on then
      (bs.setDisplayState state).setScreenOnBrightness else bs.setDisplayState state) := by
  obtain ⟨htold, hlight⟩ := bs.setDisplayState_writes hstate
  rcases hstate with rfl | rfl
  · rw [if_pos rfl]
    refine (htold.trans (setScreenOnBrightness_writes _)).congr ?_
    rw [CommandsLevel]
    by_cases hrestores : bs.RestoresLevel .on
    · simp [hrestores]
    · rw [(hlight hrestores).lightsNow_iff]
      simp [Dims]
  · rw [if_neg (by simp)]
    exact htold.congr (by simp [CommandsLevel, Dims])

theorem setDisplayState_dim_writes (bs : BrightnessService) :
    (bs.Dims .dim → ∃ p, Writes p bs (bs.setDisplayState .dim) ∧
      (bs.setDisplayState .dim).LightsNow) ∧
    (¬ bs.Dims .dim → SameLight bs (bs.setDisplayState .dim)) := by
  constructor
  · rintro ⟨-, hlow, hboosted⟩
    rw [setDisplayState_dim_update bs hlow hboosted]
    have hentered : Writes False bs (bs.enterState .dim) := (enterState_light bs .dim).1.writes id
    have hasleep : Writes False bs (bs.enterState .dim).asleep :=
      ⟨hentered.displayId, hentered.written, hentered.others, hentered.quiet⟩
    have hover : (bs.enterState .dim).asleep.isBrightnessOverridden = true := rfl
    generalize (bs.enterState .dim).asleep = b at hasleep hover
    generalize bs.sleepLevel = level
    have hlights : (b.updateBrightness level bs.param.sleepDarkenTime false).1.LightsNow := by
      have hmode : (b.updateBrightness level bs.param.sleepDarkenTime
          false).1.isBrightnessOverridden = b.isBrightnessOverridden := by
        rw [updateBrightness_sameControl]
      refine ⟨Timers.updateBrightness_waitOver _ _ _ _, Or.inr (Or.inl (hmode.trans hover))⟩
    rcases Nat.eq_zero_or_pos bs.param.sleepDarkenTime with hnow | hlater
    · rw [hnow] at hlights ⊢
      exact ⟨_, hasleep.trans (updateBrightness_writes b level false trivial), hlights⟩
    · exact ⟨_, hasleep.trans (updateBrightness_fade_writes b level false hlater id), hlights⟩
  · intro hdims
    refine (setDisplayState_dim_light ?_).1
    by_contra h
    obtain ⟨hlow, hboosted⟩ := not_or.mp h
    exact hdims ⟨rfl, hlow, by simpa using hboosted⟩

theorem switched_dims_iff (bs : BrightnessService) (state kept : DisplayState) :
    (bs.switched state).Dims kept ↔ bs.Dims kept := by
  rw [switched]
  split
  · exact Iff.rfl
  · exact Iff.rfl

theorem told_iff {state : DisplayState} (hstate : state = .on ∨ state = .off)
    (h : ¬ bs.RestoresLevel state) (hsame : SameLight (bs.setDisplayState state) a) :
    a.LightsNow ↔ (bs.switched state).LightsNow :=
  hsame.lightsNow_iff.trans ((bs.setDisplayState_writes hstate).2 h).lightsNow_iff

theorem undone_writes (bs : BrightnessService) {state cached : DisplayState}
    (hstate : state = .on ∨ state = .off) (hnew : cached ≠ state) :
    Writes (bs.CommandsLevel state cached) bs (bs.undone state cached) := by
  obtain ⟨htold, hlight⟩ := bs.setDisplayState_writes hstate
  rw [undone, CommandsLevel]
  cases cached with
  | on =>
    obtain rfl : state = .off := hstate.resolve_left fun h => hnew h.symm
    have hawake : (bs.setDisplayState .off).isSleepStatus = false :=
      congrArg BrightnessMode.isSleepStatus (setDisplayState_mode bs .off).2
    have hsame := (setDisplayState_on_light hawake).1
    have hback := (hsame.writes id).trans (setScreenOnBrightness_writes _)
    rw [if_pos (Or.inl rfl)]
    refine (htold.trans hback).congr ?_
    have hnot : ¬ bs.RestoresLevel .off := fun h => absurd h.1 (by simp)
    rw [told_iff (Or.inr rfl) hnot hsame]
    simp [Dims]
  | dim =>
    obtain ⟨hdims, hlit⟩ := (bs.setDisplayState state).setDisplayState_dim_writes
    rw [if_pos (Or.inr rfl)]
    by_cases hwanted : (bs.setDisplayState state).Dims .dim
    · obtain ⟨p, hwrites, hnow⟩ := hdims hwanted
      refine (htold.trans (hwrites.trans (setScreenOnBrightness_writes _))).congr ?_
      have hgoal : bs.RestoresLevel state ∨ bs.Dims .dim := by
        by_cases hrestores : bs.RestoresLevel state
        · exact Or.inl hrestores
        · exact Or.inr ((switched_dims_iff bs state .dim).mp
            (((hlight hrestores).dims_iff .dim).mp hwanted))
      refine iff_of_true (Or.inr (Or.inr hnow)) ?_
      rcases hgoal with hrestores | hdim
      · exact Or.inl hrestores
      · exact Or.inr (Or.inr hdim)
    · have hsame := hlit hwanted
      refine (htold.trans ((hsame.writes id).trans (setScreenOnBrightness_writes _))).congr ?_
      by_cases hrestores : bs.RestoresLevel state
      · simp [hrestores]
      · have hundimmed : ¬ bs.Dims .dim := fun h => hwanted (((hlight hrestores).dims_iff
          .dim).mpr ((switched_dims_iff bs state .dim).mpr h))
        rw [told_iff hstate hrestores hsame]
        simp [hundimmed]
  | off =>
    have hoff := (setDisplayState_writes (bs.setDisplayState state) (Or.inr rfl)).1
    rw [if_neg (by simp)]
    refine (htold.trans hoff).congr ?_
    simp [RestoresLevel, Dims]
  | _ =>
    rw [if_neg (by simp)]
    refine (htold.trans ((enterState_light _ _).1.writes id)).congr ?_
    simp [Dims]

end BrightnessService

namespace BrightnessManager

/-- Every level commanded is one of display `a`, and only the extension of `a` is called. -/
def OnlyFor (a : ℕ) : BrightnessManager → BrightnessManager → Prop
  | .service bs, .service bs' =>
    (∃ added, bs'.device.written = bs.device.written ++ added ∧ ∀ w ∈ added, w.1 = a) ∧
      ∀ b, b ≠ a → bs'.device.level b = bs.device.level b
  | .wrapper exts, .wrapper exts' => ∀ b, b ≠ a → exts' b = exts b
  | _, _ => False

/-- The one service drives the screen, or commands no level; of the extensions no other one is
asked to light a screen in the undo of a failed change. -/
def KeepsToScreen (m : BrightnessManager) (a : ℕ) (state kept : DisplayState) : Prop :=
  match m with
  | .service bs => bs.displayId = a ∨ ¬ bs.CommandsLevel state kept
  | .wrapper exts =>
    kept = state ∨ ¬ (kept = .on ∨ kept = .dim) ∨ a = 0 ∨
      ∀ ext, exts 0 = some ext → ext.mBrightnessManagerExtEnable = false

theorem onlyFor_refl (a : ℕ) (m : BrightnessManager) : OnlyFor a m m := by
  cases m with
  | service bs => exact ⟨⟨[], by simp, by simp⟩, fun _ _ => rfl⟩
  | wrapper exts => exact fun _ _ => rfl

theorem onlyFor_iff {a : ℕ} {p : Prop} {bs bs' : BrightnessService}
    (h : BrightnessService.Writes p bs bs') :
    OnlyFor a (.service bs) (.service bs') ↔ bs.displayId = a ∨ ¬ p := by
  obtain ⟨levels, hlevels, hnone⟩ := h.written
  constructor
  · rintro ⟨⟨added, hadded, hall⟩, -⟩
    obtain rfl : levels.map (Prod.mk bs.displayId) = added :=
      List.append_cancel_left (hlevels.symm.trans hadded)
    cases levels with
    | nil => exact Or.inr (hnone.mp rfl)
    | cons level levels => exact Or.inl (hall (bs.displayId, level) (by simp))
  · rintro (rfl | hp)
    · refine ⟨⟨_, hlevels, ?_⟩, h.others⟩
      intro w hw
      obtain ⟨level, -, rfl⟩ := List.mem_map.mp hw
      rfl
    · rw [OnlyFor, h.quiet hp]
      exact ⟨⟨[], by simp, by simp⟩, fun _ _ => rfl⟩

theorem forward_eq_iff (exts : ℕ → Option BrightnessManagerExt) (id : ℕ) (call : ExtCall) :
    forward exts id call id = exts id ↔
      ∀ ext, exts id = some ext → ext.mBrightnessManagerExtEnable = false := by
  rw [forward, Function.update_self]
  cases exts id with
  | none => simp
  | some ext =>
    obtain ⟨enable, calls⟩ := ext
    cases enable with
    | false => simp [BrightnessManagerExt.forward]
    | true => simp [BrightnessManagerExt.forward]

theorem forward_other {exts : ℕ → Option BrightnessManagerExt} {id b : ℕ} {call : ExtCall}
    (h : b ≠ id) : forward exts id call b = exts b := Function.update_of_ne h _ _

variable (m : BrightnessManager) (a : ℕ) (reason : StateChangeReason) {state : DisplayState}

theorem changed_onlyFor_iff (hstate : state = .on ∨ state = .off) :
    OnlyFor a m (if state = .on then
      (m.setDisplayState a state reason).setScreenOnBrightness a
      else m.setDisplayState a state reason) ↔ m.KeepsToScreen a state state := by
  cases m with
  | service bs =>
    rw [KeepsToScreen, ← onlyFor_iff (bs.changed_writes hstate)]
    split
    · exact Iff.rfl
    · exact Iff.rfl
  | wrapper exts =>
    refine iff_of_true ?_ (Or.inl rfl)
    split
    · exact fun b hb => (forward_other hb).trans (forward_other hb)
    · exact fun b hb => forward_other hb

/-- The undo lights the default screen. -/
theorem undone_onlyFor_iff (hstate : state = .on ∨ state = .off) {cached : DisplayState}
    (hnew : cached ≠ state) :
    OnlyFor a m (if cached = .on ∨ cached = .dim then
      ((m.setDisplayState a state reason).setDisplayState a cached reason).setScreenOnBrightness 0
      else (m.setDisplayState a state reason).setDisplayState a cached reason) ↔
      m.KeepsToScreen a state cached := by
  cases m with
  | service bs =>
    rw [KeepsToScreen, ← onlyFor_iff (bs.undone_writes hstate hnew), BrightnessService.undone]
    split
    · exact Iff.rfl
    · exact Iff.rfl
  | wrapper exts =>
    rw [KeepsToScreen]
    by_cases hlit : cached = .on ∨ cached = .dim
    · rw [if_pos hlit]
      change (∀ b, b ≠ a → forward (forward (forward exts a (.setDisplayState a state reason)) a
        (.setDisplayState a cached reason)) 0 .setScreenOnBrightness b = exts b) ↔ _
      by_cases hzero : a = 0
      · subst hzero
        refine iff_of_true (fun b hb => ?_) (Or.inr (Or.inr (Or.inl rfl)))
        rw [forward_other hb, forward_other hb, forward_other hb]
      · have hkept (b : ℕ) (hb : b ≠ a) : forward (forward exts a
            (.setDisplayState a state reason)) a (.setDisplayState a cached reason) b = exts b :=
          (forward_other hb).trans (forward_other hb)
        have hdefault := hkept 0 fun h => hzero h.symm
        generalize forward (forward exts a (.setDisplayState a state reason)) a
          (.setDisplayState a cached reason) = exts' at hkept hdefault
        have hcalled := forward_eq_iff exts' 0 .setScreenOnBrightness
        rw [hdefault] at hcalled
        rw [← hcalled]
        constructor
        · exact fun h => Or.inr (Or.inr (Or.inr (h 0 fun heq => hzero heq.symm)))
        · intro h b hb
          have hsilent := ((h.resolve_left hnew).resolve_left (not_not.mpr hlit)).resolve_left hzero
          by_cases hb0 : b = 0
          · rw [hb0, hsilent]
          · rw [forward_other hb0, hkept b hb]
    · rw [if_neg hlit]
      refine iff_of_true ?_ (Or.inr (Or.inl hlit))
      exact fun b hb => (forward_other hb).trans (forward_other hb)

end BrightnessManager

namespace MultiScreenService

/-- Every command from `s` to `t` was for display `a`, and nothing of another screen changed. -/
structure Isolated (a : ℕ) (s t : MultiScreenService) : Prop where
  commands : ∃ added, t.screens.commands = s.screens.commands ++ added ∧ ∀ c ∈ added, c.1 = a
  brightness : BrightnessManager.OnlyFor a s.brightness t.brightness
  cached : ∀ b, b ≠ a → t.getState b = s.getState b
  displayState : ∀ b, b ≠ a → t.screens.displayState b = s.screens.displayState b
  screenPower : ∀ b, b ≠ a → t.screens.screenPower b = s.screens.screenPower b

def stateAfter (s : MultiScreenService) (r : MultiScreenRequest) (hw : MultiScreenAnswer) :
    DisplayState :=
  if hw.Succeeds then r.state else s.getState r.displayId

variable {s t : MultiScreenService} {r : MultiScreenRequest} {hw : MultiScreenAnswer}

theorem isolated_of_screens (a : ℕ) (hscreens : t.screens = s.screens)
    (hbrightness : t.brightness = s.brightness) (hcached : ∀ b, t.getState b = s.getState b) :
    Isolated a s t where
  commands := ⟨[], by simp [hscreens], by simp⟩
  brightness := hbrightness ▸ BrightnessManager.onlyFor_refl a _
  cached b _ := hcached b
  displayState b _ := by rw [hscreens]
  screenPower b _ := by rw [hscreens]

theorem undoSetDisplayStateInner_brightness (s : MultiScreenService) (displayId : ℕ)
    (curState : DisplayState) (reason : StateChangeReason) :
    (s.undoSetDisplayStateInner displayId curState reason).brightness =
      if curState = .on ∨ curState = .dim then
        (s.brightness.setDisplayState displayId curState reason).setScreenOnBrightness 0
      else s.brightness.setDisplayState displayId curState reason := by
  rw [undoSetDisplayStateInner]
  split
  · rfl
  · rfl

theorem lightScreen_brightness (s : MultiScreenService) (displayId : ℕ) (state : DisplayState) :
    (s.lightScreen displayId state).brightness =
      if state = .on then s.brightness.setScreenOnBrightness displayId else s.brightness := by
  rw [lightScreen]
  split
  · rfl
  · rfl

theorem commanded_brightness (hid : r.displayId % 2 ^ 32 = r.displayId) :
    (s.commanded r hw).brightness =
      s.brightness.setDisplayState r.displayId r.state r.reason :=
  congrArg (fun id => s.brightness.setDisplayState id r.state r.reason) hid

theorem commanded_isolated_iff {p : Prop}
    (hscreens : t.screens = s.screens.command (r.displayId % 2 ^ 32) r.state r.reason hw)
    (hcached : ∀ b, b ≠ r.displayId → t.getState b = s.getState b)
    (hbrightness : r.displayId % 2 ^ 32 = r.displayId →
      (BrightnessManager.OnlyFor r.displayId s.brightness t.brightness ↔ p)) :
    Isolated r.displayId s t ↔ r.displayId < 2 ^ 32 ∧ p := by
  obtain ⟨first, last, hcommands⟩ := s.screens.command_commands (r.displayId % 2 ^ 32) r.state
    r.reason hw
  rw [← hscreens] at hcommands
  constructor
  · rintro ⟨⟨added, hadded', hall⟩, hbright, -, -, -⟩
    obtain rfl := List.append_cancel_left (hcommands.symm.trans hadded')
    have hid : r.displayId % 2 ^ 32 = r.displayId := hall (r.displayId % 2 ^ 32, first) (by simp)
    exact ⟨by omega, (hbrightness hid).mp hbright⟩
  · rintro ⟨hlt, hp⟩
    have hid : r.displayId % 2 ^ 32 = r.displayId := Nat.mod_eq_of_lt hlt
    refine ⟨⟨_, hcommands, ?_⟩, (hbrightness hid).mpr hp, hcached, ?_, ?_⟩
    · intro c hc
      simp only [List.mem_cons, List.not_mem_nil, or_false] at hc
      rcases hc with rfl | rfl | rfl | rfl
      all_goals exact hid
    · intro b hb
      have hstate := s.screens.command_displayState (r.displayId % 2 ^ 32) r.state r.reason hw
      rw [hscreens, hstate, hid]
      split
      · exact Function.update_of_ne hb _ _
      · rfl
    · intro b hb
      have hpower := s.screens.command_screenPower (r.displayId % 2 ^ 32) r.state r.reason hw
      rw [hscreens, hpower, hid]
      split
      · exact Function.update_of_ne hb _ _
      · rfl

/-- Exactly when a request for one screen leaves all others alone: when it is refused or asks for
nothing new, or its id fits in 32 bits and the brightness layer keeps to the screen. -/
theorem isolated_iff (s : MultiScreenService) (r : MultiScreenRequest) (hw : MultiScreenAnswer) :
    Isolated r.displayId s (s.setMultiScreenDisplayStateInner r hw).1 ↔
      checkRequest r ≠ .ok ∨ s.getState r.displayId = r.state ∨
        r.displayId < 2 ^ 32 ∧
          s.brightness.KeepsToScreen r.displayId r.state (s.stateAfter r hw) := by
  have hend := s.outcome r hw
  generalize s.setMultiScreenDisplayStateInner r hw = result at hend
  cases hend with
  | refused hcheck => exact iff_of_true (isolated_of_screens _ rfl rfl fun _ => rfl) (Or.inl hcheck)
  | same admitted hsame =>
    exact iff_of_true (isolated_of_screens _ rfl rfl (getState_findController s r.displayId))
      (Or.inr (Or.inl hsame))
  | failed admitted hnew fails =>
    rw [or_iff_right (not_not.mpr admitted), or_iff_right hnew, stateAfter, if_neg fails]
    apply commanded_isolated_iff (undoSetDisplayStateInner_screens _ _ _ _)
    · intro b _
      rw [getState, controllerOf, undoSetDisplayStateInner_controllerMap]
      exact getState_commanded s r hw b
    · intro hid
      rw [undoSetDisplayStateInner_brightness, commanded_brightness hid, hid]
      exact s.brightness.undone_onlyFor_iff _ _ (checkRequest_state admitted) hnew
  | changed admitted hnew succeeds =>
    rw [or_iff_right (not_not.mpr admitted), or_iff_right hnew, stateAfter, if_pos succeeds]
    apply commanded_isolated_iff
    · exact lightScreen_screens (s.commanded r hw) _ _
    · intro b hb
      refine (getState_cacheState_other hb).trans ?_
      rw [getState, controllerOf, lightScreen_controllerMap]
      exact getState_commanded s r hw b
    · intro hid
      change BrightnessManager.OnlyFor _ _ ((s.commanded r hw).lightScreen _ _).brightness ↔ _
      rw [lightScreen_brightness, commanded_brightness hid, hid]
      exact s.brightness.changed_onlyFor_iff _ _ (checkRequest_state admitted)

/-- Screen 4294967297 has a controller of its own, whose commands switch screen 1 on. -/
theorem upper_half_lost :
    ¬ ∀ (s : MultiScreenService) (r : MultiScreenRequest) (hw : MultiScreenAnswer),
      Isolated r.displayId s (s.setMultiScreenDisplayStateInner r hw).1 := by
  intro h
  have hother := (h { brightness := .wrapper fun _ => none }
    { displayId := 2 ^ 32 + 1, state := .on } {}).displayState 1 (by decide)
  exact absurd hother (by decide +kernel)

end MultiScreenService

end DisplayPowerMgr
