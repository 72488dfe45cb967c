import DisplayPowerMgr.BoostAndOverride
import DisplayPowerMgr.BrightnessModes

/-! Dimming under an override: the way to `DIM` and back to `ON`, directly or through `OFF`. The
sleep brightness is an override of its own, and its end ends the one it replaced. -/
namespace DisplayPowerMgr.DimTransparency

open BrightnessService Timers

/-- An override of the value is in force, and it is not the one of a screen that dimmed. -/
structure InForce (bs : BrightnessService) (value : ℕ) : Prop where
  overridden : bs.isBrightnessOverridden = true
  awake : bs.isSleepStatus = false
  value : bs.overriddenBrightness = value

/-- The override is in force and the panel shows the level. -/
def Unchanged (value level : ℕ) (bs : BrightnessService) : Prop :=
  InForce bs value ∧ bs.shown = level

/-- A way to `DIM` and back to `ON`, with the tasks that fire in between. -/
inductive WayBack where
  | on (dimmed : List ℕ)
  | offOn (dimmed dark lit : List ℕ)

def fires (ids : List ℕ) : List BrightnessEvent := ids.map .runTask

def WayBack.events : WayBack → List BrightnessEvent
  | .on dimmed => .setDisplayState .dim :: fires dimmed ++ [.setDisplayState .on]
  | .offOn dimmed dark lit =>
    .setDisplayState .dim :: fires dimmed ++ .setDisplayState .off :: fires dark ++
      .setDisplayState .on :: fires lit ++ [.setScreenOnBrightness]

def goes (bs : BrightnessService) (way : WayBack) : Option BrightnessService :=
  Runs.run step bs way.events

/-- After any number of ways to `DIM` and back an override of the screen is what it was, and so
is the panel. -/
def AlwaysTransparent : Prop :=
  ∀ bs value, Reachable bs → bs.state = .on → InForce bs value → ∀ ways t,
    Runs.run goes bs ways = some t → Unchanged value bs.shown t

/-- The tasks on the way leave the panel at its level by themselves; on the way through `OFF`,
which stops a fade, the level shown last is the one that the override stands for if the panel
takes it. -/
def KeepsLevel (bs : BrightnessService) (value : ℕ) : WayBack → Prop
  | .on dimmed => ∀ u, Runs.run step bs (fires dimmed) = some u → u.shown = bs.shown
  | .offOn dimmed dark lit =>
    ∀ u w, Runs.run step bs (fires dimmed) = some u →
      Runs.run step u.stopIfDimming (fires (dark ++ lit)) = some w →
        (if w.device.answers.headD true then bs.deviceLevel value else w.shown) = bs.shown

def SameButTasks (a b : BrightnessService) : Prop :=
  b = { a with
        waitForFirstLux := b.waitForFirstLux
        dimming := b.dimming
        animatorTaskHandle := b.animatorTaskHandle
        tasks := b.tasks
        device := b.device
        brightnessLevel := b.brightnessLevel
        cachedSettingBrightness := b.cachedSettingBrightness
        settings := { a.settings with brightness := b.settings.brightness } }

theorem SameButTasks.trans {a b c : BrightnessService} (hab : SameButTasks a b)
    (hbc : SameButTasks b c) : SameButTasks a c := by
  rw [SameButTasks] at *
  rw [hbc, hab]

theorem butTasks_of_sameControl {a b : BrightnessService} (h : SameControl a b) :
    SameButTasks a b := by
  rw [SameButTasks]
  rw [SameControl] at h
  rw [h]

theorem runTask_butTasks {bs t : BrightnessService} (h : bs.isBrightnessBoosted = false) {id : ℕ}
    (ht : bs.runTask id = some t) : SameButTasks bs t := by
  obtain ⟨task, _, rfl⟩ := Option.map_eq_some_iff.mp ht
  have htaken : SameButTasks bs { bs with tasks := bs.tasks.remove id } := rfl
  refine htaken.trans ?_
  cases task with
  | nextStep => exact butTasks_of_sameControl (nextStep_sameControl _)
  | settingBrightness value => rfl
  | dimmingSettingBrightness value => rfl
  | cancelBoostBrightness duration =>
    rw [perform, cancelBoostBrightness, if_pos (by simp [h])]
    rfl
  | waitForFirstLux value => exact butTasks_of_sameControl (updateBrightness_sameControl _ _ _ _)

theorem fires_butTasks {bs t : BrightnessService} (h : bs.isBrightnessBoosted = false)
    {ids : List ℕ} (ht : Runs.run step bs (fires ids) = some t) : SameButTasks bs t := by
  induction ids generalizing bs with
  | nil =>
    cases ht
    rfl
  | cons id ids ih =>
    obtain ⟨u, hu, hut⟩ := Runs.run_cons_some.mp ht
    have hfirst := runTask_butTasks h hu
    have hstill : u.isBrightnessBoosted = false := by
      rw [hfirst]
      exact h
    exact hfirst.trans (ih hstill hut)

/-- `b` is `a` in surroundings of its own, and neither is boosted. -/
structure Beside (a b : BrightnessService) : Prop where
  unboosted : a.isBrightnessBoosted = false
  alike : b = a.within b.surroundings
  still : b.isBrightnessBoosted = false

theorem onChanged_within (bs : BrightnessService) (m : Surroundings) (currentValue : ℕ) :
    (bs.within m).onChanged currentValue = (bs.onChanged currentValue).within m := by
  cases hdim : bs.dimming.isDimming with
  | false => simp [onChanged, within, hdim]
  | true =>
    by_cases hwrite : (bs.device.setBrightness bs.displayId currentValue).2 = true ∧
        bs.isSleepStatus = false
    · simp [onChanged, within, hdim, hwrite, submitTask]
    · simp [onChanged, within, hdim, hwrite]

theorem nextStep_within (bs : BrightnessService) (m : Surroundings) :
    (bs.within m).nextStep = bs.nextStep.within m := by
  have hchanged : (bs.within m).notifyChanged bs.dimming.nextStep.changed =
      (bs.notifyChanged bs.dimming.nextStep.changed).within m := by
    cases bs.dimming.nextStep.changed with
    | none => rfl
    | some value => exact onChanged_within bs m value
  have hstep : (bs.within m).dimming.nextStep = bs.dimming.nextStep := rfl
  rw [BrightnessService.nextStep, BrightnessService.nextStep]
  dsimp only
  rw [hstep, hchanged]
  split
  · rfl
  · rfl

theorem runTask_within {bs : BrightnessService} {m : Surroundings}
    (h : bs.isBrightnessBoosted = false) (hm : m.isBrightnessBoosted = false) (id : ℕ) :
    (bs.within m).runTask id = (bs.runTask id).map (·.within m) := by
  have hfind : (bs.within m).tasks.find? id = bs.tasks.find? id := rfl
  rw [runTask, runTask, hfind]
  cases bs.tasks.find? id with
  | none => rfl
  | some task =>
    refine congrArg some ?_
    have htaken :
        ({ bs.within m with tasks := (bs.within m).tasks.remove id } : BrightnessService) =
        { bs with tasks := bs.tasks.remove id }.within m := rfl
    rw [htaken]
    cases task with
    | nextStep => exact nextStep_within _ m
    | settingBrightness value => rfl
    | dimmingSettingBrightness value => rfl
    | cancelBoostBrightness duration =>
      simp [perform, cancelBoostBrightness, h, hm, within]
    | waitForFirstLux value => exact congrArg Prod.fst (updateBrightness_within _ m value 0 true)

theorem Beside.refl {bs : BrightnessService} (h : bs.isBrightnessBoosted = false) : Beside bs bs :=
  ⟨h, rfl, h⟩

theorem Beside.runTask {a b t : BrightnessService} (h : Beside a b) {id : ℕ}
    (ht : b.runTask id = some t) : ∃ u, a.runTask id = some u ∧ Beside u t := by
  have hwithin := runTask_within (m := b.surroundings) h.unboosted h.still id
  rw [← h.alike, ht] at hwithin
  obtain ⟨u, hu, rfl⟩ := Option.map_eq_some_iff.mp hwithin.symm
  refine ⟨u, hu, ?_, rfl, ?_⟩
  · rw [runTask_butTasks h.unboosted hu]
    exact h.unboosted
  · exact h.still

theorem Beside.fires {a b t : BrightnessService} (h : Beside a b) {ids : List ℕ}
    (ht : Runs.run step b (fires ids) = some t) :
    ∃ u, Runs.run step a (DimTransparency.fires ids) = some u ∧ Beside u t := by
  induction ids generalizing a b with
  | nil =>
    cases ht
    exact ⟨a, rfl, h⟩
  | cons id ids ih =>
    obtain ⟨v, hv, hvt⟩ := Runs.run_cons_some.mp ht
    obtain ⟨u, hu, huv⟩ := h.runTask hv
    obtain ⟨w, hw, hwt⟩ := ih huv hvt
    exact ⟨w, Runs.run_cons_some.mpr ⟨u, hu, hw⟩, hwt⟩

theorem Beside.enterState {a b : BrightnessService} (h : Beside a b) (state : DisplayState) :
    Beside a (b.enterState state) := by
  have hsame := enterState_same b state
  rw [SameButSensors] at hsame
  refine ⟨h.unboosted, ?_, ?_⟩
  · rw [hsame, h.alike]
    rfl
  · rw [hsame]
    exact h.still

theorem Beside.dim {a b : BrightnessService} (h : Beside a b)
    (hlow : a.getSettingBrightness ≤ MIN_DEFAULT_BRGIHTNESS_LEVEL) :
    Beside a (b.setDisplayState .dim) := by
  have henter := h.enterState .dim
  have hsetting : (b.enterState .dim).getSettingBrightness = a.getSettingBrightness := by
    rw [henter.alike]
    rfl
  rw [setDisplayState, setSleepBrightness]
  rw [hsetting, if_pos hlow]
  exact henter

theorem Beside.on {a b : BrightnessService} (h : Beside a b) (hawake : a.isSleepStatus = false) :
    Beside a (b.setDisplayState .on) := by
  have henter := h.enterState .on
  have hsleep : (b.enterState .on).isSleepStatus = false := by
    rw [henter.alike]
    exact hawake
  rw [setDisplayState]
  dsimp only
  rw [if_neg (by simp [hsleep])]
  refine ⟨h.unboosted, ?_, henter.still⟩
  rw [henter.alike]
  rfl

theorem Beside.off {a b : BrightnessService} (h : Beside a b) (hawake : a.isSleepStatus = false) :
    Beside a.stopIfDimming (b.setDisplayState .off) := by
  have henter := h.enterState .off
  have hsleep : (b.enterState .off).isSleepStatus = false := by
    rw [henter.alike]
    exact hawake
  have hdark : setDisplayState b .off = a.stopIfDimming.within
      { (b.enterState .off).surroundings with brightnessTarget := 0 } := by
    rw [setDisplayState]
    dsimp only
    rw [if_neg (by simp [hsleep]), ← stopIfDimming_within, henter.alike]
    rfl
  refine ⟨?_, ?_, ?_⟩
  · rw [stopIfDimming_sameControl a]
    exact h.unboosted
  · rw [hdark]
    rfl
  · rw [hdark]
    exact henter.still

theorem setScreenOnBrightness_overridden {bs : BrightnessService} {value : ℕ}
    (h : OneEnd bs.timers) (hover : InForce bs value) :
    bs.setScreenOnBrightness = (bs.updateBrightness value 0 false).1 := by
  obtain ⟨hflag, _, hvalue⟩ := hover
  have hboosted : bs.isBrightnessBoosted = false := h.exclusive hflag
  have hlit : bs.waitForFirstLux = false := by
    by_contra hwaits
    have hfree := (h.waits (Bool.eq_true_of_not_eq_false hwaits)).1
    exact absurd (hfree.symm.trans hflag) (by simp)
  rw [setScreenOnBrightness, getScreenOnBrightness]
  simp [hboosted, hflag, hlit, hvalue]

theorem updateBrightness_shown (bs : BrightnessService) (value : ℕ) :
    (bs.updateBrightness value 0 false).1.shown =
      if bs.device.answers.headD true then bs.deviceLevel value else bs.shown := by
  have hsame := updateBrightness_sameControl bs value 0 false
  have hid : (bs.updateBrightness value 0 false).1.displayId = bs.displayId := by rw [hsame]
  have hdevice : (bs.updateBrightness value 0 false).1.device =
      (bs.device.setBrightness bs.displayId (bs.deviceLevel value)).1 := by
    rw [updateBrightness_now]
    simp
  rw [shown, hid, hdevice, setBrightness_level]
  rfl

theorem goes_on {bs t : BrightnessService} {dimmed : List ℕ} :
    goes bs (.on dimmed) = some t ↔
      ∃ u, Runs.run step (bs.setDisplayState .dim) (fires dimmed) = some u ∧
        u.setDisplayState .on = t := by
  rw [goes, WayBack.events, List.cons_append, Runs.run_cons_some]
  simp [Runs.run_append_some, step]

theorem goes_offOn {bs t : BrightnessService} {dimmed dark lit : List ℕ} :
    goes bs (.offOn dimmed dark lit) = some t ↔
      ∃ u v w, Runs.run step (bs.setDisplayState .dim) (fires dimmed) = some u ∧
        Runs.run step (u.setDisplayState .off) (fires dark) = some v ∧
          Runs.run step (v.setDisplayState .on) (fires lit) = some w ∧
            w.setScreenOnBrightness = t := by
  rw [goes, WayBack.events]
  simp [Runs.run_append_some, step, -Runs.run_cons, Runs.run_cons_some]

theorem inForce_of_butTasks {bs t : BrightnessService} (h : SameButTasks bs t) {value : ℕ} :
    InForce bs value → InForce t value := by
  intro hover
  rw [h]
  exact ⟨hover.overridden, hover.awake, hover.value⟩

theorem Beside.inForce {a b : BrightnessService} (h : Beside a b) {value : ℕ}
    (hover : InForce a value) : InForce b value := by
  rw [h.alike]
  exact ⟨hover.overridden, hover.awake, hover.value⟩

theorem Beside.shown {a b : BrightnessService} (h : Beside a b) : b.shown = a.shown := by
  rw [h.alike]
  rfl

theorem unchanged_on_iff {bs t : BrightnessService} {value : ℕ} {dimmed : List ℕ}
    (hboosted : bs.isBrightnessBoosted = false) (hover : InForce bs value)
    (hlow : bs.getSettingBrightness ≤ MIN_DEFAULT_BRGIHTNESS_LEVEL)
    (ht : goes bs (.on dimmed) = some t) :
    Unchanged value bs.shown t ↔ KeepsLevel bs value (.on dimmed) := by
  obtain ⟨d, hd, rfl⟩ := goes_on.mp ht
  obtain ⟨u, hu, hud⟩ := ((Beside.refl hboosted).dim hlow).fires hd
  have hforce := inForce_of_butTasks (fires_butTasks hboosted hu) hover
  have hback := hud.on hforce.awake
  have hshown := hback.shown
  constructor
  · rintro ⟨_, hlevel⟩ v hv
    obtain rfl := Option.some.inj (hu.symm.trans hv)
    exact hshown.symm.trans hlevel
  · intro hkeeps
    exact ⟨hback.inForce hforce, hshown.trans (hkeeps u hu)⟩

theorem unboosted_of_butTasks {bs t : BrightnessService} (h : SameButTasks bs t)
    (hboosted : bs.isBrightnessBoosted = false) : t.isBrightnessBoosted = false := by
  rw [h]
  exact hboosted

theorem deviceLevel_of_butTasks {bs t : BrightnessService} (h : SameButTasks bs t) (value : ℕ) :
    t.deviceLevel value = bs.deviceLevel value := by
  rw [h]
  rfl

theorem unchanged_offOn_iff {bs t : BrightnessService} {value : ℕ} {dimmed dark lit : List ℕ}
    (hreach : Reachable bs) (hboosted : bs.isBrightnessBoosted = false)
    (hover : InForce bs value) (hlow : bs.getSettingBrightness ≤ MIN_DEFAULT_BRGIHTNESS_LEVEL)
    (ht : goes bs (.offOn dimmed dark lit) = some t) :
    Unchanged value bs.shown t ↔ KeepsLevel bs value (.offOn dimmed dark lit) := by
  obtain ⟨d, o, w, hd, ho, hw, rfl⟩ := goes_offOn.mp ht
  have hdim : Reachable d := (Runs.Reachable.next (e := .setDisplayState .dim) hreach rfl).run hd
  have hoff : Reachable o := (Runs.Reachable.next (e := .setDisplayState .off) hdim rfl).run ho
  have hon : Reachable w := (Runs.Reachable.next (e := .setDisplayState .on) hoff rfl).run hw
  -- the tasks alone, from `bs`
  obtain ⟨u, hu, hud⟩ := ((Beside.refl hboosted).dim hlow).fires hd
  have hsame := fires_butTasks hboosted hu
  have hforce := inForce_of_butTasks hsame hover
  have hdark := hud.off hforce.awake
  obtain ⟨v, hv, hvo⟩ := hdark.fires ho
  have hstop := butTasks_of_sameControl (stopIfDimming_sameControl u)
  have hsame' := (hsame.trans hstop).trans (fires_butTasks hdark.unboosted hv)
  have hforce' := inForce_of_butTasks hsame' hover
  obtain ⟨x, hx, hxw⟩ := (hvo.on hforce'.awake).fires hw
  have hend := hsame'.trans (fires_butTasks hvo.unboosted hx)
  have halone : Runs.run step u.stopIfDimming (fires (dark ++ lit)) = some x := by
    rw [fires, List.map_append]
    exact Runs.run_append_some.mpr ⟨v, hv, hx⟩
  -- the level of the override is commanded at the end
  have hlit := hxw.inForce (inForce_of_butTasks hend hover)
  have hshown : w.setScreenOnBrightness.shown =
      if x.device.answers.headD true then bs.deviceLevel value else x.shown := by
    have hlevel : w.deviceLevel value = bs.deviceLevel value := by
      rw [← deviceLevel_of_butTasks hend, hxw.alike]
      rfl
    have hdevice : w.device = x.device := by
      rw [hxw.alike]
      rfl
    rw [setScreenOnBrightness_overridden (BoostAndOverride.Reachable.oneEnd hon) hlit,
      updateBrightness_shown, hlevel, hdevice, hxw.shown]
  constructor
  · rintro ⟨_, hlevel⟩ u' x' hu' hx'
    obtain rfl := Option.some.inj (hu.symm.trans hu')
    obtain rfl := Option.some.inj (halone.symm.trans hx')
    exact hshown.symm.trans hlevel
  · intro hkeeps
    refine ⟨?_, hshown.trans (hkeeps u x hu halone)⟩
    have hmode := (setScreenOnBrightness_mode w).1
    exact ⟨(congrArg BrightnessMode.isBrightnessOverridden hmode).trans hlit.overridden,
      (congrArg BrightnessMode.isSleepStatus hmode).trans hlit.awake,
      (congrArg BrightnessMode.overriddenBrightness hmode).trans hlit.value⟩

theorem mode_of_butTasks {bs t : BrightnessService} (h : SameButTasks bs t) : t.mode = bs.mode := by
  rw [h]
  rfl

theorem setDisplayState_unboosted {bs : BrightnessService} (h : bs.isBrightnessBoosted = false)
    (state : DisplayState) : (bs.setDisplayState state).isBrightnessBoosted = false :=
  (congrArg BrightnessConfig.isBrightnessBoosted (setDisplayState_mode bs state).1).trans h

theorem setDisplayState_dim_asleep {bs : BrightnessService}
    (h : ¬ bs.getSettingBrightness ≤ MIN_DEFAULT_BRGIHTNESS_LEVEL) :
    (bs.setDisplayState .dim).isSleepStatus = true := by
  have hsleep := congrArg BrightnessMode.isSleepStatus (setDisplayState_mode bs .dim).2
  refine hsleep.trans ?_
  rw [BrightnessConfig.enter, BrightnessConfig.settle]
  rw [if_neg (by exact h)]
  split
  · rfl
  · rfl

theorem setDisplayState_overridden (bs : BrightnessService) {state : DisplayState}
    (h : state = .on ∨ state = .off) :
    (bs.setDisplayState state).isBrightnessOverridden =
      (!bs.isSleepStatus && bs.isBrightnessOverridden) := by
  have hover := congrArg BrightnessMode.isBrightnessOverridden (setDisplayState_mode bs state).2
  refine hover.trans ?_
  rcases h with rfl | rfl
  · rfl
  · rfl

theorem lost_of_asleep {bs t : BrightnessService} (hboosted : bs.isBrightnessBoosted = false)
    (hlow : ¬ bs.getSettingBrightness ≤ MIN_DEFAULT_BRGIHTNESS_LEVEL) {way : WayBack}
    (ht : goes bs way = some t) : t.isBrightnessOverridden = false := by
  have hasleep := setDisplayState_dim_asleep hlow
  have hdim := setDisplayState_unboosted hboosted .dim
  cases way with
  | on dimmed =>
    obtain ⟨d, hd, rfl⟩ := goes_on.mp ht
    have hmode := mode_of_butTasks (fires_butTasks hdim hd)
    have hsleep := (congrArg BrightnessMode.isSleepStatus hmode).trans hasleep
    rw [setDisplayState_overridden d (Or.inl rfl)]
    rw [show d.isSleepStatus = true from hsleep]
    rfl
  | offOn dimmed dark lit =>
    obtain ⟨d, o, w, hd, ho, hw, rfl⟩ := goes_offOn.mp ht
    have hsame := fires_butTasks hdim hd
    have hsleep := (congrArg BrightnessMode.isSleepStatus (mode_of_butTasks hsame)).trans hasleep
    have hdark := setDisplayState_unboosted (unboosted_of_butTasks hsame hdim) .off
    have hsame' := fires_butTasks hdark ho
    have hoff : o.isBrightnessOverridden = false := by
      rw [hsame']
      refine (setDisplayState_overridden d (Or.inr rfl)).trans ?_
      rw [show d.isSleepStatus = true from hsleep]
      rfl
    have hon : (o.setDisplayState .on).isBrightnessOverridden = false := by
      rw [setDisplayState_overridden o (Or.inl rfl), hoff, Bool.and_false]
    have hlit := setDisplayState_unboosted (unboosted_of_butTasks hsame' hdark) .on
    have hw' := mode_of_butTasks (fires_butTasks hlit hw)
    have hmode := (setScreenOnBrightness_mode w).1.trans hw'
    exact (congrArg BrightnessMode.isBrightnessOverridden hmode).trans hon

theorem unchanged_iff {bs t : BrightnessService} {value : ℕ} (hreach : Reachable bs)
    (hover : InForce bs value) {way : WayBack} (ht : goes bs way = some t) :
    Unchanged value bs.shown t ↔
      bs.getSettingBrightness ≤ MIN_DEFAULT_BRGIHTNESS_LEVEL ∧ KeepsLevel bs value way := by
  have hboosted : bs.isBrightnessBoosted = false :=
    (BoostAndOverride.Reachable.oneEnd hreach).exclusive hover.overridden
  by_cases hlow : bs.getSettingBrightness ≤ MIN_DEFAULT_BRGIHTNESS_LEVEL
  · rw [and_iff_right hlow]
    cases way with
    | on dimmed => exact unchanged_on_iff hboosted hover hlow ht
    | offOn dimmed dark lit => exact unchanged_offOn_iff hreach hboosted hover hlow ht
  · refine iff_of_false ?_ fun h => hlow h.1
    intro hsame
    exact absurd ((lost_of_asleep hboosted hlow ht).symm.trans hsame.1.overridden) (by simp)

theorem goes_reachable {bs t : BrightnessService} (h : Reachable bs) {way : WayBack}
    (ht : goes bs way = some t) : Reachable t :=
  Runs.Reachable.run h ht

theorem ways_iff {bs t : BrightnessService} {value level : ℕ} (hreach : Reachable bs)
    (hover : InForce bs value) (hlevel : bs.shown = level) {ways : List WayBack}
    (hrun : Runs.run goes bs ways = some t) :
    Runs.Always goes (fun s way => ∀ u, goes s way = some u → Unchanged value level u) bs ways ↔
      Runs.Always goes (fun s way => s.getSettingBrightness ≤ MIN_DEFAULT_BRGIHTNESS_LEVEL ∧
        KeepsLevel s value way) bs ways := by
  induction ways generalizing bs with
  | nil => exact Iff.rfl
  | cons way ways ih =>
    obtain ⟨u, hu, hut⟩ := Runs.run_cons_some.mp hrun
    have hone := unchanged_iff hreach hover hu
    rw [hlevel] at hone
    have hmore (h : Unchanged value level u) := ih (goes_reachable hreach hu) h.1 h.2 hut
    constructor
    · rintro ⟨hfirst, hrest⟩
      have hsame := hfirst u hu
      refine ⟨hone.mp hsame, ?_⟩
      intro v hv
      obtain rfl := Option.some.inj (hu.symm.trans hv)
      exact (hmore hsame).mp (hrest u hu)
    · rintro ⟨hfirst, hrest⟩
      have hsame := hone.mpr hfirst
      constructor
      · intro v hv
        obtain rfl := Option.some.inj (hu.symm.trans hv)
        exact hsame
      · intro v hv
        obtain rfl := Option.some.inj (hu.symm.trans hv)
        exact (hmore hsame).mpr (hrest u hu)

theorem off_transparent {bs : BrightnessService} {value : ℕ}
    (hboosted : bs.isBrightnessBoosted = false) (hover : InForce bs value) :
    Unchanged value bs.shown ((bs.setDisplayState .off).setDisplayState .on) := by
  have hstop := butTasks_of_sameControl (stopIfDimming_sameControl bs)
  have hforce := inForce_of_butTasks hstop hover
  have hback := ((Beside.refl hboosted).off hover.awake).on hforce.awake
  refine ⟨hback.inForce hforce, hback.shown.trans ?_⟩
  rw [shown, shown, stopIfDimming]
  split
  · rfl
  · rfl

/-- `OFF` and back is transparent to an override; `DIM` and back is exactly when the screen dims
at the lowest setting and the tasks of the service leave the panel alone. -/
theorem dim_transparent_iff {bs t : BrightnessService} {value : ℕ} (hreach : Reachable bs)
    (hover : InForce bs value) {ways : List WayBack} (hrun : Runs.run goes bs ways = some t) :
    Unchanged value bs.shown ((bs.setDisplayState .off).setDisplayState .on) ∧
      (Runs.Always goes (fun s way => ∀ u, goes s way = some u → Unchanged value bs.shown u)
          bs ways ↔
        Runs.Always goes (fun s way => s.getSettingBrightness ≤ MIN_DEFAULT_BRGIHTNESS_LEVEL ∧
          KeepsLevel s value way) bs ways) :=
  ⟨off_transparent ((BoostAndOverride.Reachable.oneEnd hreach).exclusive hover.overridden) hover,
    ways_iff hreach hover rfl hrun⟩

def heldAt100 (setting : ℕ) (h : setting < 2 ^ 31) : BrightnessService :=
  ({ state := .on
     settings := { brightness := some setting }
     settings_lt := by simpa using h : BrightnessBoot }.start.overrideBrightness 100 0).1

theorem heldAt100_reachable {setting : ℕ} (h : setting < 2 ^ 31) :
    Reachable (heldAt100 setting h) :=
  ⟨_, [.overrideBrightness 100 0], ⟨_, rfl⟩, rfl⟩

theorem heldAt100_inForce {setting : ℕ} (h : setting < 2 ^ 31) :
    InForce (heldAt100 setting h) 100 := by
  constructor
  · rfl
  · rfl
  · rfl

/-- At the setting of 102 the screen dims and the override is lost. -/
theorem dim_ends_override : ¬ AlwaysTransparent := by
  intro h
  have hset : 102 < 2 ^ 31 := by decide
  have hgoes : goes (heldAt100 102 hset) (.on []) =
      some (((heldAt100 102 hset).setDisplayState .dim).setDisplayState .on) := rfl
  have hlow : ¬ (heldAt100 102 hset).getSettingBrightness ≤ MIN_DEFAULT_BRGIHTNESS_LEVEL := by
    change ¬ 102 ≤ MIN_DEFAULT_BRGIHTNESS_LEVEL
    decide
  have hlost := lost_of_asleep rfl hlow hgoes
  have hkept := (h _ 100 (heldAt100_reachable hset) rfl (heldAt100_inForce hset) [.on []] _
    rfl).1.overridden
  exact absurd (hlost.symm.trans hkept) (by simp)

/-- At the lowest setting the override is still there after the way through `OFF`. -/
theorem heldAt100_transparent : Runs.Always goes
    (fun s way => ∀ u, goes s way = some u → Unchanged 100 (heldAt100 1 (by decide)).shown u)
    (heldAt100 1 (by decide)) [.offOn [] [] []] := by
  refine (dim_transparent_iff (heldAt100_reachable (by decide)) (heldAt100_inForce (by decide))
    (t := ((((heldAt100 1 (by decide)).setDisplayState .dim).setDisplayState .off).setDisplayState
      .on).setScreenOnBrightness) rfl).2.mpr ⟨⟨by decide, ?_⟩, fun _ _ => trivial⟩
  intro u w hu hw
  cases hu
  cases hw
  decide +kernel

end DisplayPowerMgr.DimTransparency
