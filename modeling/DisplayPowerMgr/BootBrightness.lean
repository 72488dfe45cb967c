import DisplayPowerMgr.DisplayPowerInfo
import DisplayPowerMgr.Library.Runs

/-! `DisplaySystemAbility` and `DisplayCommonEventManager` at boot: three notifications and one
event may each be the last thing that the boot brightness waits for. -/
namespace DisplayPowerMgr

/-- `isSubscribed` is what the common-event service knows of the manager. -/
structure DisplayCommonEventManager where
  isSubscribed : Bool := false
  isDataShareReady : Bool := false
  isKvDataReady : Bool := false
  deriving DecidableEq, Repr

/-- The last three fields are facts of the system: which service is published, whether the data
share is there, and which abilities were announced. -/
structure DisplaySystemAbility where
  isReady : Bool := false
  commonEventManager : Option DisplayCommonEventManager := none
  bootBrightness : ℕ := 0
  isPublished : Bool := false
  dataShareReady : Bool := false
  kvAnnounced : Bool := false
  deriving DecidableEq, Repr

/-- The notifications, with what `Publish` and `SubscribeCommonEvent` answer should they be
called, and `COMMON_EVENT_DATA_SHARE_READY`. -/
inductive BootEvent where
  | displayManager (published : Bool)
  | commonEvent (subscribed : Bool)
  | distributedKvData
  | dataShareReady
  deriving DecidableEq, Repr

namespace DisplayCommonEventManager

/-- `isKvDataReady_` is set by the first call only. -/
def setKvDataReady (m : DisplayCommonEventManager) : DisplayCommonEventManager × Bool :=
  if m.isKvDataReady then (m, false) else ({ m with isKvDataReady := true }, true)

/-- `Create` succeeds once the data share is there. -/
def createDataShareHelper (m : DisplayCommonEventManager) (dataShareReady : Bool) :
    DisplayCommonEventManager × Bool :=
  ({ m with isDataShareReady := dataShareReady }, dataShareReady)

def checkIfSettingsDataReady (m : DisplayCommonEventManager) (isPublished dataShareReady : Bool) :
    DisplayCommonEventManager × Bool :=
  if m.isDataShareReady then (m, true)
  else if !isPublished then (m, false)
  else m.createDataShareHelper dataShareReady

end DisplayCommonEventManager

namespace DisplaySystemAbility

variable {a b : DisplaySystemAbility}

def bootOnce (a : DisplaySystemAbility) (m : DisplayCommonEventManager) : DisplaySystemAbility :=
  let (m, first) := m.setKvDataReady
  { a with
    commonEventManager := some m
    bootBrightness := if first then a.bootBrightness + 1 else a.bootBrightness }

/-- The condition that two of the three notifications end with. -/
def bootIfReady (a : DisplaySystemAbility) : DisplaySystemAbility :=
  match a.commonEventManager with
  | none => a
  | some m =>
    let (m, ready) := m.checkIfSettingsDataReady a.isPublished a.dataShareReady
    if ready then a.bootOnce m else { a with commonEventManager := some m }

/-- A failed `Publish` is only logged. -/
def onDisplayManager (a : DisplaySystemAbility) (published : Bool) : DisplaySystemAbility :=
  if a.isReady then a
  else { { a with isPublished := a.isPublished || published }.bootIfReady with isReady := true }

/-- The manager is made here, and nothing is checked. -/
def onCommonEvent (a : DisplaySystemAbility) (subscribed : Bool) : DisplaySystemAbility :=
  let m := a.commonEventManager.getD {}
  { a with commonEventManager := some { m with isSubscribed := m.isSubscribed || subscribed } }

def onDistributedKvData (a : DisplaySystemAbility) : DisplaySystemAbility :=
  { a with kvAnnounced := true }.bootIfReady

/-- `OnReceiveEvent` of the manager, if it is subscribed by now. -/
def onDataShareReady (a : DisplaySystemAbility) : DisplaySystemAbility :=
  let a := { a with dataShareReady := true }
  match a.commonEventManager with
  | none => a
  | some m => if m.isSubscribed && a.isPublished then a.bootOnce m else a

def step (a : DisplaySystemAbility) : BootEvent → Option DisplaySystemAbility
  | .displayManager published => some (a.onDisplayManager published)
  | .commonEvent subscribed => some (a.onCommonEvent subscribed)
  | .distributedKvData => some a.onDistributedKvData
  | .dataShareReady => some a.onDataShareReady

/-- All that the boot brightness waits for is there. The display-manager and the common-event
abilities leave `isReady` and the manager behind when they are announced. -/
def Complete (a : DisplaySystemAbility) : Prop :=
  a.isReady = true ∧ a.commonEventManager.isSome = true ∧ a.kvAnnounced = true ∧
    a.isPublished = true ∧ a.dataShareReady = true

def ExactlyOnce (a : DisplaySystemAbility) : Prop :=
  a.bootBrightness ≤ 1 ∧ (a.Complete → a.bootBrightness = 1)

def Lawful (a : DisplaySystemAbility) (e : BootEvent) : Prop :=
  ∀ b, a.step e = some b → b.ExactlyOnce

/-- The step is not the one that completes the wait and is heard by nobody. -/
def Heard (a : DisplaySystemAbility) : BootEvent → Prop
  | .commonEvent _ =>
    ¬ (a.commonEventManager = none ∧ a.isPublished = true ∧ a.kvAnnounced = true ∧
      a.dataShareReady = true)
  | .dataShareReady =>
    a.dataShareReady = false → a.isPublished = true → a.kvAnnounced = true →
      ∀ m, a.commonEventManager = some m → m.isSubscribed = true
  | _ => True

def hasBooted (a : DisplaySystemAbility) : Bool :=
  a.commonEventManager.any DisplayCommonEventManager.isKvDataReady

/-- What every step keeps. -/
structure Sound (a : DisplaySystemAbility) : Prop where
  once : a.bootBrightness = if a.hasBooted then 1 else 0
  shared : a.hasBooted = true → a.dataShareReady = true
  cached : ∀ m, a.commonEventManager = some m → m.isDataShareReady = true →
    a.isPublished = true ∧ a.dataShareReady = true
  ready : a.isPublished = true → a.isReady = true

theorem bootIfReady_wait (h : a.Sound)
    (hwait : ¬ (a.isPublished = true ∧ a.dataShareReady = true)) :
    a.bootIfReady = a := by
  rcases a with ⟨isReady, manager, boots, isPublished, dataShareReady, kv⟩
  cases manager with
  | none => rfl
  | some m =>
    have hcached := h.cached m rfl
    rcases m with ⟨isSubscribed, isDataShareReady, isKvDataReady⟩
    cases isDataShareReady <;> cases isPublished <;> cases dataShareReady <;>
      simp_all [bootIfReady, DisplayCommonEventManager.checkIfSettingsDataReady,
        DisplayCommonEventManager.createDataShareHelper]

theorem bootIfReady_go {m : DisplayCommonEventManager} (hm : a.commonEventManager = some m)
    (hpublished : a.isPublished = true) (hready : a.dataShareReady = true) :
    a.bootIfReady = a.bootOnce { m with isDataShareReady := true } := by
  rcases m with ⟨isSubscribed, isDataShareReady, isKvDataReady⟩
  cases isDataShareReady <;>
    simp [bootIfReady, hm, hpublished, hready, DisplayCommonEventManager.checkIfSettingsDataReady,
      DisplayCommonEventManager.createDataShareHelper]

theorem bootIfReady_isReady (a : DisplaySystemAbility) :
    { a.bootIfReady with isReady := true } = { a with isReady := true }.bootIfReady := by
  rcases a with ⟨isReady, _ | m, boots, isPublished, dataShareReady, kv⟩
  · rfl
  · simp only [bootIfReady]
    split <;> rfl

theorem bootBrightness_bootOnce {m : DisplayCommonEventManager}
    (hm : a.bootBrightness = if m.isKvDataReady then 1 else 0) :
    (a.bootOnce m).bootBrightness = 1 := by
  cases hkv : m.isKvDataReady <;>
    simp [bootOnce, DisplayCommonEventManager.setKvDataReady, hkv, hm]

theorem sound_bootOnce (h : a.Sound) {m : DisplayCommonEventManager}
    (hm : a.bootBrightness = if m.isKvDataReady then 1 else 0)
    (hcached : m.isDataShareReady = true → a.isPublished = true)
    (hready : a.dataShareReady = true) : (a.bootOnce m).Sound := by
  have hbooted : (a.bootOnce m).hasBooted = true := by
    cases hkv : m.isKvDataReady <;>
      simp [bootOnce, hasBooted, DisplayCommonEventManager.setKvDataReady, hkv]
  have hkept : ∀ n, (a.bootOnce m).commonEventManager = some n →
      n.isDataShareReady = m.isDataShareReady := by
    rintro n hn
    cases hkv : m.isKvDataReady <;>
      simp only [bootOnce, DisplayCommonEventManager.setKvDataReady, hkv, if_true,
        Bool.false_eq_true, if_false, Option.some.injEq] at hn <;> rw [← hn]
  constructor
  · rw [bootBrightness_bootOnce hm, hbooted]
    rfl
  · exact fun _ => hready
  · intro n hn hdata
    rw [hkept n hn] at hdata
    exact ⟨hcached hdata, hready⟩
  · exact h.ready

theorem Sound.boots (h : a.Sound) {m : DisplayCommonEventManager}
    (hm : a.commonEventManager = some m) :
    a.bootBrightness = if m.isKvDataReady then 1 else 0 := by
  rw [h.once, hasBooted, hm]
  rfl

theorem sound_bootIfReady (h : a.Sound) : a.bootIfReady.Sound := by
  by_cases hgo : a.isPublished = true ∧ a.dataShareReady = true
  · cases hm : a.commonEventManager with
    | none =>
      rw [bootIfReady, hm]
      exact h
    | some m =>
      have hboots := h.boots hm
      rw [bootIfReady_go hm hgo.1 hgo.2]
      exact sound_bootOnce h hboots (fun _ => hgo.1) hgo.2
  · rw [bootIfReady_wait h hgo]
    exact h

theorem boots_bootIfReady (h : a.Sound) (hcomplete : a.Complete) :
    a.bootIfReady.bootBrightness = 1 := by
  obtain ⟨_, hsome, _, hpublished, hready⟩ := hcomplete
  obtain ⟨m, hm⟩ := Option.isSome_iff_exists.mp hsome
  have hboots := h.boots hm
  rw [bootIfReady_go hm hpublished hready]
  exact bootBrightness_bootOnce hboots

theorem complete_bootIfReady (hcomplete : a.bootIfReady.Complete) : a.Complete := by
  rcases a with ⟨isReady, _ | m, boots, isPublished, dataShareReady, kv⟩
  · exact hcomplete
  · simp only [bootIfReady] at hcomplete
    split at hcomplete
    · exact ⟨hcomplete.1, rfl, hcomplete.2.2⟩
    · exact ⟨hcomplete.1, rfl, hcomplete.2.2⟩

def published (a : DisplaySystemAbility) (published : Bool) : DisplaySystemAbility :=
  { a with isPublished := a.isPublished || published, isReady := true }

theorem onDisplayManager_first (hready : a.isReady = false) (published : Bool) :
    a.onDisplayManager published = (a.published published).bootIfReady := by
  rw [onDisplayManager, hready, if_neg (by simp), bootIfReady_isReady]
  rfl

theorem sound_published (h : a.Sound) (published : Bool) : (a.published published).Sound := by
  constructor
  · exact h.once
  · exact h.shared
  · intro m hm hdata
    obtain ⟨hpublished, hready⟩ := h.cached m hm hdata
    exact ⟨by simp [DisplaySystemAbility.published, hpublished], hready⟩
  · exact fun _ => rfl

theorem sound_onCommonEvent (h : a.Sound) (subscribed : Bool) :
    (a.onCommonEvent subscribed).Sound := by
  have hbooted : (a.onCommonEvent subscribed).hasBooted = a.hasBooted := by
    cases hm : a.commonEventManager <;> simp [onCommonEvent, hasBooted, hm]
  constructor
  · rw [hbooted]
    exact h.once
  · rw [hbooted]
    exact h.shared
  · intro n hn hdata
    cases hm : a.commonEventManager with
    | none =>
      simp only [onCommonEvent, hm, Option.getD_none, Option.some.injEq] at hn
      rw [← hn] at hdata
      contradiction
    | some m =>
      simp only [onCommonEvent, hm, Option.getD_some, Option.some.injEq] at hn
      rw [← hn] at hdata
      exact h.cached m hm hdata
  · exact h.ready

theorem sound_shared (h : a.Sound) : { a with dataShareReady := true }.Sound :=
  ⟨h.once, fun _ => rfl, fun m hm hdata => ⟨(h.cached m hm hdata).1, rfl⟩, h.ready⟩

theorem onDataShareReady_heard {m : DisplayCommonEventManager}
    (hm : a.commonEventManager = some m) (hsubscribed : m.isSubscribed = true)
    (hpublished : a.isPublished = true) :
    a.onDataShareReady = { a with dataShareReady := true }.bootOnce m := by
  simp [onDataShareReady, hm, hsubscribed, hpublished]

theorem onDataShareReady_unheard (hunheard : ∀ m, a.commonEventManager = some m →
    ¬ (m.isSubscribed = true ∧ a.isPublished = true)) :
    a.onDataShareReady = { a with dataShareReady := true } := by
  cases hm : a.commonEventManager with
  | none => simp [onDataShareReady, hm]
  | some m => simp [onDataShareReady, hm, hunheard m hm]

theorem sound_onDataShareReady (h : a.Sound) : a.onDataShareReady.Sound := by
  by_cases hheard : ∃ m, a.commonEventManager = some m ∧ m.isSubscribed = true ∧
      a.isPublished = true
  · obtain ⟨m, hm, hsubscribed, hpublished⟩ := hheard
    rw [onDataShareReady_heard hm hsubscribed hpublished]
    exact sound_bootOnce (sound_shared h) (h.boots hm) (fun _ => hpublished) rfl
  · rw [onDataShareReady_unheard fun m hm hboth => hheard ⟨m, hm, hboth⟩]
    exact sound_shared h

theorem sound_step (h : a.Sound) {e : BootEvent} (hb : a.step e = some b) : b.Sound := by
  cases e with
  | displayManager published =>
    obtain rfl := Option.some.inj hb
    cases hready : a.isReady with
    | true =>
      rw [onDisplayManager, hready, if_pos rfl]
      exact h
    | false =>
      rw [onDisplayManager_first hready]
      exact sound_bootIfReady (sound_published h published)
  | commonEvent subscribed =>
    obtain rfl := Option.some.inj hb
    exact sound_onCommonEvent h subscribed
  | distributedKvData =>
    obtain rfl := Option.some.inj hb
    exact sound_bootIfReady ⟨h.once, h.shared, h.cached, h.ready⟩
  | dataShareReady =>
    obtain rfl := Option.some.inj hb
    exact sound_onDataShareReady h

theorem Sound.boots_le_one (h : a.Sound) : a.bootBrightness ≤ 1 := by
  rw [h.once]
  split <;> omega

/-- Nothing of what completes the wait is missing, and the boot brightness has not passed. -/
def Missed (a : DisplaySystemAbility) : Prop := a.Complete ∧ a.bootBrightness = 0

theorem Sound.exactlyOnce_iff (h : a.Sound) : a.ExactlyOnce ↔ ¬ a.Missed := by
  have hle := h.boots_le_one
  constructor
  · rintro ⟨_, hone⟩ ⟨hcomplete, hzero⟩
    have := hone hcomplete
    omega
  · intro hmissed
    refine ⟨hle, fun hcomplete => ?_⟩
    have : a.bootBrightness ≠ 0 := fun hzero => hmissed ⟨hcomplete, hzero⟩
    omega

theorem not_missed_bootIfReady (h : a.Sound) : ¬ a.bootIfReady.Missed := by
  rintro ⟨hcomplete, hzero⟩
  have := boots_bootIfReady h (complete_bootIfReady hcomplete)
  omega

theorem missed_onCommonEvent_iff (h : a.Sound) (hnot : ¬ a.Missed) (subscribed : Bool) :
    ¬ (a.onCommonEvent subscribed).Missed ↔ a.Heard (.commonEvent subscribed) := by
  cases hm : a.commonEventManager with
  | some m =>
    refine iff_of_true ?_ (by simp [Heard, hm])
    rintro ⟨⟨hready, _, hrest⟩, hzero⟩
    exact hnot ⟨⟨hready, by simp [hm], hrest⟩, hzero⟩
  | none =>
    have hzero : a.bootBrightness = 0 := by simp [h.once, hasBooted, hm]
    refine not_congr ⟨?_, ?_⟩
    · rintro ⟨⟨_, _, hkv, hpublished, hdata⟩, _⟩
      exact ⟨hm, hpublished, hkv, hdata⟩
    · rintro ⟨_, hpublished, hkv, hdata⟩
      exact ⟨⟨h.ready hpublished, rfl, hkv, hpublished, hdata⟩, hzero⟩

theorem missed_onDataShareReady_iff (h : a.Sound) (hnot : ¬ a.Missed) :
    ¬ a.onDataShareReady.Missed ↔ a.Heard .dataShareReady := by
  by_cases hheard : ∃ m, a.commonEventManager = some m ∧ m.isSubscribed = true ∧
      a.isPublished = true
  · obtain ⟨m, hm, hsubscribed, hpublished⟩ := hheard
    have hone := bootBrightness_bootOnce (a := { a with dataShareReady := true }) (h.boots hm)
    refine iff_of_true ?_ ?_
    · rintro ⟨_, hzero⟩
      rw [onDataShareReady_heard hm hsubscribed hpublished] at hzero
      omega
    · intro _ _ _ n hn
      rw [← Option.some.inj (hm.symm.trans hn)]
      exact hsubscribed
  · rw [onDataShareReady_unheard fun m hm hboth => hheard ⟨m, hm, hboth⟩]
    constructor
    · intro hmissed hdata hpublished hkv m hm
      have hzero : a.bootBrightness = 0 := by
        cases hb : a.hasBooted with
        | false => simp [h.once, hb]
        | true => exact absurd (h.shared hb) (by simp [hdata])
      exact absurd ⟨⟨h.ready hpublished, by simp [hm], hkv, hpublished, rfl⟩, hzero⟩ hmissed
    · rintro hcond ⟨⟨hready, hsome, hkv, hpublished, _⟩, hzero⟩
      obtain ⟨m, hm⟩ := Option.isSome_iff_exists.mp hsome
      cases hdata : a.dataShareReady with
      | true => exact hnot ⟨⟨hready, hsome, hkv, hpublished, hdata⟩, hzero⟩
      | false => exact hheard ⟨m, hm, hcond hdata hpublished hkv m hm, hpublished⟩

/-- A step ends in a missed boot brightness exactly if it completes the wait unheard. -/
theorem lawful_iff (h : a.Sound) (hnot : ¬ a.Missed) (e : BootEvent) : a.Lawful e ↔ a.Heard e := by
  have hlawful : a.Lawful e ↔ ∀ b, a.step e = some b → ¬ b.Missed :=
    forall_congr' fun b => forall_congr' fun hb => (sound_step h hb).exactlyOnce_iff
  rw [hlawful]
  cases e with
  | displayManager published =>
    refine iff_of_true ?_ trivial
    intro b hb
    obtain rfl := Option.some.inj hb
    cases hready : a.isReady with
    | true =>
      rw [onDisplayManager, hready, if_pos rfl]
      exact hnot
    | false =>
      rw [onDisplayManager_first hready]
      exact not_missed_bootIfReady (sound_published h published)
  | commonEvent subscribed =>
    rw [← missed_onCommonEvent_iff h hnot]
    exact ⟨fun hall => hall _ rfl, fun hone b hb => Option.some.inj hb ▸ hone⟩
  | distributedKvData =>
    refine iff_of_true ?_ trivial
    intro b hb
    obtain rfl := Option.some.inj hb
    exact not_missed_bootIfReady ⟨h.once, h.shared, h.cached, h.ready⟩
  | dataShareReady =>
    rw [← missed_onDataShareReady_iff h hnot]
    exact ⟨fun hall => hall _ rfl, fun hone b hb => Option.some.inj hb ▸ hone⟩

theorem sound_initial : ({} : DisplaySystemAbility).Sound := by
  constructor <;> simp [hasBooted]

theorem boots_at_most_once {events : List BootEvent} (hr : Runs.run step {} events = some a) :
    a.bootBrightness ≤ 1 :=
  (Runs.run_invariant_of (J := Sound) (P := fun _ => True)
    (fun _ _ _ hs _ hb => sound_step hs hb) sound_initial (by simp) hr).boots_le_one

/-- It passes as soon as nothing is missing, along the whole run, exactly if no step of the run
completes the wait unheard. -/
theorem boot_brightness_once_iff (events : List BootEvent) :
    Runs.Always step Lawful {} events ↔ Runs.Always step Heard {} events := by
  refine Runs.always_iff (J := fun a => a.Sound ∧ ¬ a.Missed) (P := fun _ => True) ?_ ?_
    ⟨sound_initial, by simp [Missed, Complete]⟩ (by simp)
  · intro a e b ha _ hheard hb
    have hsound := sound_step ha.1 hb
    exact ⟨hsound, hsound.exactlyOnce_iff.mp ((lawful_iff ha.1 ha.2 e).mpr hheard b hb)⟩
  · intro a e ha _
    exact lawful_iff ha.1 ha.2 e

/-- The common-event service comes last: the manager is made when all that could wake it is over. -/
theorem boot_brightness_missed :
    ¬ Runs.Always step Lawful {}
      [.displayManager true, .distributedKvData, .dataShareReady, .commonEvent true] := by
  rw [boot_brightness_once_iff]
  simp [Heard, step, onDisplayManager, bootIfReady, onDistributedKvData, onDataShareReady]

end DisplaySystemAbility

end DisplayPowerMgr
