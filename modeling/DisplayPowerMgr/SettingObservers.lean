import DisplayPowerMgr.BootBrightness

/-! The observers of the two settings over the life of the process: `HandleBootBrightness` registers
them, `Deinit` takes them back when the ability is stopped, and the ability may be announced again
after that. -/
namespace DisplayPowerMgr

/-- What the provider answers to a registration; it may call the observer before it returns. -/
structure RegisterAnswer where
  accepted : Bool
  fires : Bool := false
  deriving DecidableEq, Repr

/-- The observer that the helper holds for a key, those that the provider accepted and did not let
go, and how often the update function was called. -/
structure SettingObserver where
  observer : Option ℕ := none
  registered : List ℕ := []
  next : ℕ := 0
  updates : ℕ := 0
  deriving DecidableEq, Repr

namespace SettingObserver

def onChange (o : SettingObserver) : SettingObserver := { o with updates := o.updates + 1 }

def registerObserver (o : SettingObserver) (answer : RegisterAnswer) : SettingObserver :=
  if o.observer.isSome then o
  else
    let k := o.next
    let updates := if answer.fires then o.updates + 1 else o.updates
    let o := { o with next := k + 1, updates := updates }
    if answer.accepted then { o with observer := some k, registered := o.registered ++ [k] } else o

/-- A refusal is only logged, and the helper forgets its observer all the same. -/
def unregisterObserver (o : SettingObserver) (accepted : Bool) : SettingObserver :=
  match o.observer with
  | none => o
  | some k =>
    { o with
      observer := none
      registered := if accepted then o.registered.erase k else o.registered }

end SettingObserver

structure SettingObservers where
  ability : DisplaySystemAbility := {}
  brightnessObserver : SettingObserver := {}
  autoBrightnessObserver : SettingObserver := {}
  deriving DecidableEq, Repr

/-- A boot event comes with whether the controller of the main display is found, should it be looked
for, and with the answers of the provider to the two registrations; a stop with the same, the
answers to the two withdrawals and whether the system withdraws the service. -/
inductive ObserverEvent where
  | boot (e : BootEvent) (hasController : Bool) (brightness autoBrightness : RegisterAnswer)
  | stop (hasController brightness autoBrightness withdrawn : Bool)
  | brightnessChanged (observer : ℕ)
  | autoBrightnessChanged (observer : ℕ)
  deriving DecidableEq, Repr

/-- `OnStop` but for the service. -/
def DisplaySystemAbility.onStop (a : DisplaySystemAbility) (withdrawn : Bool) :
    DisplaySystemAbility :=
  { a with isReady := false, isPublished := a.isPublished && !withdrawn }

namespace SettingObservers

def registerSettingObservers (s : SettingObservers) (hasController : Bool)
    (brightness autoBrightness : RegisterAnswer) : SettingObservers :=
  { s with
    brightnessObserver :=
      if hasController then s.brightnessObserver.registerObserver brightness
      else s.brightnessObserver
    autoBrightnessObserver := s.autoBrightnessObserver.registerObserver autoBrightness }

def unregisterSettingObservers (s : SettingObservers)
    (hasController brightness autoBrightness : Bool) : SettingObservers :=
  { s with
    brightnessObserver :=
      if hasController then s.brightnessObserver.unregisterObserver brightness
      else s.brightnessObserver
    autoBrightnessObserver := s.autoBrightnessObserver.unregisterObserver autoBrightness }

def onStop (s : SettingObservers) (hasController brightness autoBrightness withdrawn : Bool) :
    SettingObservers :=
  { s.unregisterSettingObservers hasController brightness autoBrightness with
    ability := s.ability.onStop withdrawn }

/-- `HandleBootBrightness` ends with the registration each time it runs. -/
def step (s : SettingObservers) : ObserverEvent → Option SettingObservers
  | .boot e hasController brightness autoBrightness =>
    (s.ability.step e).map fun ability =>
      if s.ability.bootBrightness < ability.bootBrightness then
        { s with ability := ability }.registerSettingObservers hasController brightness
          autoBrightness
      else { s with ability := ability }
  | .stop hasController brightness autoBrightness withdrawn =>
    some (s.onStop hasController brightness autoBrightness withdrawn)
  | .brightnessChanged _ => some { s with brightnessObserver := s.brightnessObserver.onChange }
  | .autoBrightnessChanged _ =>
    some { s with autoBrightnessObserver := s.autoBrightnessObserver.onChange }

def Fresh (s : SettingObservers) : Prop := s = {}

end SettingObservers

namespace DisplaySystemAbility

variable {a b : DisplaySystemAbility}

/-- The manager lets the boot brightness pass once, and remembers it. -/
structure Remembers (a b : DisplaySystemAbility) : Prop where
  once : b.bootBrightness = if b.hasBooted then 1 else 0
  kept : a.hasBooted = true → b.hasBooted = true

theorem remembers_bootOnce {m : DisplayCommonEventManager}
    (hm : a.bootBrightness = if m.isKvDataReady then 1 else 0) : Remembers a (a.bootOnce m) := by
  have hbooted : (a.bootOnce m).hasBooted = true := by
    cases hkv : m.isKvDataReady <;>
      simp [bootOnce, hasBooted, DisplayCommonEventManager.setKvDataReady, hkv]
  refine ⟨?_, fun _ => hbooted⟩
  rw [bootBrightness_bootOnce hm, hbooted]
  rfl

theorem checkIfSettingsDataReady_kv (m : DisplayCommonEventManager) (published ready : Bool) :
    (m.checkIfSettingsDataReady published ready).1.isKvDataReady = m.isKvDataReady := by
  rw [DisplayCommonEventManager.checkIfSettingsDataReady]
  split
  · rfl
  · split
    · rfl
    · rfl

theorem remembers_bootIfReady (h : a.bootBrightness = if a.hasBooted then 1 else 0) :
    Remembers a a.bootIfReady := by
  cases hm : a.commonEventManager with
  | none =>
    rw [bootIfReady, hm]
    exact ⟨h, id⟩
  | some m =>
    have hkv := checkIfSettingsDataReady_kv m a.isPublished a.dataShareReady
    have hboots : a.bootBrightness = if m.isKvDataReady then 1 else 0 := by
      rw [h, hasBooted, hm]
      rfl
    rw [bootIfReady, hm]
    dsimp only
    split
    · exact remembers_bootOnce (by rw [hkv]; exact hboots)
    · refine ⟨?_, ?_⟩
      · change a.bootBrightness = if (m.checkIfSettingsDataReady _ _).1.isKvDataReady then 1 else 0
        rw [hkv, hboots]
      · intro hbooted
        rw [hasBooted, hm] at hbooted
        exact hkv.trans hbooted

theorem remembers_step (h : a.bootBrightness = if a.hasBooted then 1 else 0) {e : BootEvent}
    (hb : a.step e = some b) : Remembers a b := by
  cases e with
  | displayManager published =>
    obtain rfl := Option.some.inj hb
    cases hready : a.isReady with
    | true =>
      rw [onDisplayManager, hready, if_pos rfl]
      exact ⟨h, id⟩
    | false =>
      have hboot := remembers_bootIfReady (a := a.published published) h
      rw [onDisplayManager_first hready]
      exact ⟨hboot.once, hboot.kept⟩
  | commonEvent subscribed =>
    obtain rfl := Option.some.inj hb
    have hbooted : (a.onCommonEvent subscribed).hasBooted = a.hasBooted := by
      cases hm : a.commonEventManager <;> simp [onCommonEvent, hasBooted, hm]
    exact ⟨by rw [hbooted]; exact h, fun hold => hbooted.trans hold⟩
  | distributedKvData =>
    obtain rfl := Option.some.inj hb
    have hboot := remembers_bootIfReady (a := { a with kvAnnounced := true }) h
    exact ⟨hboot.once, hboot.kept⟩
  | dataShareReady =>
    obtain rfl := Option.some.inj hb
    by_cases hheard : ∃ m, a.commonEventManager = some m ∧ m.isSubscribed = true ∧
        a.isPublished = true
    · obtain ⟨m, hm, hsubscribed, hpublished⟩ := hheard
      have hboots : a.bootBrightness = if m.isKvDataReady then 1 else 0 := by
        rw [h, hasBooted, hm]
        rfl
      have hboot := remembers_bootOnce (a := { a with dataShareReady := true }) hboots
      rw [onDataShareReady_heard hm hsubscribed hpublished]
      exact ⟨hboot.once, hboot.kept⟩
    · rw [onDataShareReady_unheard fun m hm hboth => hheard ⟨m, hm, hboth⟩]
      exact ⟨h, id⟩

end DisplaySystemAbility

namespace SettingObserver

variable {o : SettingObserver}

/-- The provider knows one observer at most, and the one that the helper holds if it holds one. -/
structure Single (o : SettingObserver) : Prop where
  one : o.registered.length ≤ 1
  held : ∀ k, o.observer = some k → o.registered = [k]

/-- The provider knows what the helper holds, as long as it has refused no withdrawal. -/
def Matching (o : SettingObserver) : Prop := o.registered = o.observer.toList

def Idle (o : SettingObserver) : Prop := o.observer = none ∧ o.registered = []

theorem Idle.single (h : o.Idle) : o.Single where
  one := by simp [h.2]
  held k hk := by cases h.1.symm.trans hk

theorem Single.onChange (h : o.Single) : o.onChange.Single := ⟨h.one, h.held⟩

theorem Idle.single_register (h : o.Idle) (answer : RegisterAnswer) :
    (o.registerObserver answer).Single := by
  rw [registerObserver, h.1, if_neg (by simp)]
  dsimp only
  split
  · constructor
    · simp [h.2]
    · rintro k ⟨⟩
      simp [h.2]
  · exact ⟨h.single.one, fun k hk => by cases hk⟩

theorem unregister_observer (o : SettingObserver) (accepted : Bool) :
    (o.unregisterObserver accepted).observer = none := by
  rw [unregisterObserver]
  cases h : o.observer with
  | none => exact h
  | some k => rfl

theorem unregister_unheld (h : o.observer = none) (accepted : Bool) :
    o.unregisterObserver accepted = o := by
  rw [unregisterObserver, h]

theorem Idle.unregister (h : o.Idle) (accepted : Bool) : (o.unregisterObserver accepted).Idle := by
  rw [unregister_unheld h.1]
  exact h

theorem Single.unregister (h : o.Single) (accepted : Bool) :
    (o.unregisterObserver accepted).Single where
  one := by
    have hone := h.one
    rw [unregisterObserver]
    cases o.observer with
    | none => exact hone
    | some k =>
      cases accepted with
      | false => exact hone
      | true => exact (List.erase_sublist.length_le).trans hone
  held k hk := by cases (o.unregister_observer accepted).symm.trans hk

theorem Matching.unregister (h : o.Matching) : (o.unregisterObserver true).Idle := by
  refine ⟨o.unregister_observer true, ?_⟩
  rw [unregisterObserver]
  rw [Matching] at h
  cases hk : o.observer with
  | none =>
    rw [hk] at h
    exact h
  | some k =>
    rw [hk] at h
    simp [h]

/-- Since `r` the helper has held nothing, and what the provider knew then was called only. -/
structure Ended (r o : SettingObserver) : Prop where
  unheld : o.observer = none
  left : o.registered = r.registered
  heard : r.registered = [] → o.updates = r.updates

theorem Ended.start (o : SettingObserver) (accepted : Bool) :
    Ended (o.unregisterObserver accepted) (o.unregisterObserver accepted) :=
  ⟨o.unregister_observer accepted, rfl, fun _ => rfl⟩

theorem Ended.unregister {r : SettingObserver} (h : Ended r o) (accepted : Bool) :
    Ended r (o.unregisterObserver accepted) := by
  rw [unregister_unheld h.unheld]
  exact h

theorem Ended.onChange {r : SettingObserver} (h : Ended r o) {k : ℕ} (hk : k ∈ o.registered) :
    Ended r o.onChange where
  unheld := h.unheld
  left := h.left
  heard hnone := by
    rw [h.left, hnone] at hk
    cases hk

end SettingObserver

namespace SettingObservers

open Runs

variable {s t : SettingObservers}

/-- Until the boot brightness has passed nobody listens, and never more than one observer of a key
does. -/
structure Sound (s : SettingObservers) : Prop where
  once : s.ability.bootBrightness = if s.ability.hasBooted then 1 else 0
  unborn : s.ability.hasBooted = false →
    s.brightnessObserver.Idle ∧ s.autoBrightnessObserver.Idle
  brightness : s.brightnessObserver.Single
  autoBrightness : s.autoBrightnessObserver.Single

theorem Sound.fresh (h : s.Fresh) : s.Sound := by
  obtain rfl := h
  exact ⟨rfl, fun _ => ⟨⟨rfl, rfl⟩, rfl, rfl⟩, SettingObserver.Idle.single ⟨rfl, rfl⟩,
    SettingObserver.Idle.single ⟨rfl, rfl⟩⟩

theorem Sound.boot (h : s.Sound) {e : BootEvent} {ability : DisplaySystemAbility}
    (hstep : s.ability.step e = some ability)
    (hfirst : s.ability.bootBrightness < ability.bootBrightness) :
    s.ability.hasBooted = false ∧ ability.hasBooted = true := by
  have hone := (DisplaySystemAbility.remembers_step h.once hstep).once
  have hold := h.once
  cases hs : s.ability.hasBooted with
  | true =>
    have hkept := (DisplaySystemAbility.remembers_step h.once hstep).kept hs
    rw [hkept, if_pos rfl] at hone
    rw [hs, if_pos rfl] at hold
    omega
  | false =>
    refine ⟨rfl, ?_⟩
    cases hb : ability.hasBooted with
    | true => rfl
    | false =>
      rw [hb] at hone
      simp only [Bool.false_eq_true, if_false] at hone
      omega

theorem Sound.step (h : s.Sound) {e : ObserverEvent} (ht : s.step e = some t) : t.Sound := by
  cases e with
  | boot e hasController brightness autoBrightness =>
    obtain ⟨ability, hability, rfl⟩ := Option.map_eq_some_iff.mp ht
    have hremembers := DisplaySystemAbility.remembers_step h.once hability
    split
    · rename_i hfirst
      obtain ⟨hunborn, hbooted⟩ := h.boot hability hfirst
      obtain ⟨hidle, hidle'⟩ := h.unborn hunborn
      refine ⟨hremembers.once, fun hno => ?_, ?_, hidle'.single_register autoBrightness⟩
      · cases hbooted.symm.trans hno
      · change (if hasController = true then _ else _ : SettingObserver).Single
        split
        · exact hidle.single_register brightness
        · exact hidle.single
    · refine ⟨hremembers.once, fun hno => h.unborn ?_, h.brightness, h.autoBrightness⟩
      cases hs : s.ability.hasBooted with
      | false => rfl
      | true => cases (hremembers.kept hs).symm.trans hno
  | stop hasController brightness autoBrightness withdrawn =>
    obtain rfl := Option.some.inj ht
    refine ⟨h.once, fun hno => ?_, ?_, h.autoBrightness.unregister autoBrightness⟩
    · obtain ⟨hidle, hidle'⟩ := h.unborn hno
      refine ⟨?_, hidle'.unregister autoBrightness⟩
      change (if hasController = true then _ else _ : SettingObserver).Idle
      split
      · exact hidle.unregister brightness
      · exact hidle
    · change (if hasController = true then _ else _ : SettingObserver).Single
      split
      · exact h.brightness.unregister brightness
      · exact h.brightness
  | brightnessChanged k =>
    obtain rfl := Option.some.inj ht
    exact ⟨h.once, h.unborn, h.brightness.onChange, h.autoBrightness⟩
  | autoBrightnessChanged k =>
    obtain rfl := Option.some.inj ht
    exact ⟨h.once, h.unborn, h.brightness, h.autoBrightness.onChange⟩

theorem Sound.reachable (h : Reachable SettingObservers.step Fresh s) : s.Sound := by
  obtain ⟨s₀, es, hfresh, hrun⟩ := h
  exact run_invariant_of (J := Sound) (P := fun _ => True) (fun _ _ _ hs _ ht => hs.step ht)
    (.fresh hfresh) (fun _ _ => trivial) hrun

/-- Once the boot brightness has passed, the ability may come back, but it does not pass again. -/
theorem Sound.boot_again (h : s.Sound) (hbooted : s.ability.hasBooted = true) {e : BootEvent}
    {hasController : Bool} {brightness autoBrightness : RegisterAnswer}
    (ht : s.step (.boot e hasController brightness autoBrightness) = some t) :
    t.ability.hasBooted = true ∧ t.brightnessObserver = s.brightnessObserver ∧
      t.autoBrightnessObserver = s.autoBrightnessObserver := by
  obtain ⟨ability, hability, rfl⟩ := Option.map_eq_some_iff.mp ht
  have hkept := (DisplaySystemAbility.remembers_step h.once hability).kept hbooted
  rw [if_neg fun hfirst => by cases (h.boot hability hfirst).1.symm.trans hbooted]
  exact ⟨hkept, rfl, rfl⟩

def Booted (s : SettingObservers) : Prop := s.Sound ∧ s.ability.hasBooted = true

theorem Booted.step (h : s.Booted) {e : ObserverEvent} (ht : s.step e = some t) : t.Booted := by
  refine ⟨h.1.step ht, ?_⟩
  cases e with
  | boot => exact (h.1.boot_again h.2 ht).1
  | stop => exact Option.some.inj ht ▸ h.2
  | brightnessChanged k => exact Option.some.inj ht ▸ h.2
  | autoBrightnessChanged k => exact Option.some.inj ht ▸ h.2

end SettingObservers

end DisplayPowerMgr
