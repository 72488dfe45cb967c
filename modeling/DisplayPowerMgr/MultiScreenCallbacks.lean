import Mathlib.Data.Finset.Insert
import Mathlib.Data.Finset.Filter
import Mathlib.Data.Finset.Erase
import DisplayPowerMgr.DisplayPowerInfo
import DisplayPowerMgr.Library.Runs

/-! `MultiScreenDisplayStateCallbackManager`: which objects are called back for which display.
Three containers move together under one mutex, and a watcher for the death of each object. -/
namespace DisplayPowerMgr

def DISPLAY_ID_ALL : ℕ := 2 ^ 64 - 1

/-- The members of the class, with remote objects as numbers. What is known outside of it stands
below: which objects are proxies, and the death recipients attached to each. -/
structure MultiScreenDisplayStateCallbackManager where
  callbacks : List (ℕ × ℕ) := []
  deathRecipients : ℕ → Option ℕ := fun _ => none
  callbackPidUidMap : ℕ → Option (ℤ × ℤ) := fun _ => none
  isProxyObject : ℕ → Bool := fun _ => true
  attached : ℕ → List ℕ := fun _ => []
  nextRecipient : ℕ := 0

namespace MultiScreenDisplayStateCallbackManager

def isRegistered (m : MultiScreenDisplayStateCallbackManager) (callback : ℕ) : Bool :=
  m.callbacks.any fun entry => entry.1 = callback

def emplace (m : MultiScreenDisplayStateCallbackManager) (callback displayId : ℕ) :
    MultiScreenDisplayStateCallbackManager :=
  { m with callbacks := m.callbacks ++ [(callback, displayId)] }

def eraseEntry (m : MultiScreenDisplayStateCallbackManager) (callback displayId : ℕ) :
    MultiScreenDisplayStateCallbackManager :=
  { m with callbacks := m.callbacks.erase (callback, displayId) }

def eraseKey (m : MultiScreenDisplayStateCallbackManager) (callback : ℕ) :
    MultiScreenDisplayStateCallbackManager :=
  { m with callbacks := m.callbacks.filter fun entry => entry.1 ≠ callback }

/-- The first registration of an object. What `AddDeathRecipient` answers is not looked at; when
it refuses, nothing is attached. -/
def watch (m : MultiScreenDisplayStateCallbackManager) (callback : ℕ) (pidUid : ℤ × ℤ)
    (accepted : Bool) : MultiScreenDisplayStateCallbackManager :=
  { m with
    attached :=
      if accepted then
        Function.update m.attached callback (m.attached callback ++ [m.nextRecipient])
      else m.attached
    nextRecipient := m.nextRecipient + 1
    deathRecipients := Function.update m.deathRecipients callback (some m.nextRecipient)
    callbackPidUidMap :=
      Function.update m.callbackPidUidMap callback
        (some ((m.callbackPidUidMap callback).getD pidUid)) }

def register (m : MultiScreenDisplayStateCallbackManager) (callback : Option ℕ) (displayId : ℕ)
    (pidUid : ℤ × ℤ) (accepted : Bool) : MultiScreenDisplayStateCallbackManager × Bool :=
  match callback with
  | none => (m, false)
  | some callback =>
    if (callback, displayId) ∈ m.callbacks then (m, true)
    else if m.isRegistered callback then (m.emplace callback displayId, true)
    else if !m.isProxyObject callback then (m, false)
    else ((m.watch callback pidUid accepted).emplace callback displayId, true)

/-- The last entry of an object is gone. -/
def unwatch (m : MultiScreenDisplayStateCallbackManager) (callback : ℕ) :
    MultiScreenDisplayStateCallbackManager :=
  { m with
    attached :=
      match m.deathRecipients callback with
      | none => m.attached
      | some recipient =>
        Function.update m.attached callback ((m.attached callback).erase recipient)
    deathRecipients := Function.update m.deathRecipients callback none
    callbackPidUidMap := Function.update m.callbackPidUidMap callback none }

def removeAll (m : MultiScreenDisplayStateCallbackManager) (callback : Option ℕ) :
    MultiScreenDisplayStateCallbackManager × Bool :=
  match callback with
  | none => (m, false)
  | some callback =>
    if m.isRegistered callback then ((m.eraseKey callback).unwatch callback, true) else (m, true)

def unregister (m : MultiScreenDisplayStateCallbackManager) (callback : Option ℕ)
    (displayId : ℕ) : MultiScreenDisplayStateCallbackManager × Bool :=
  match callback with
  | none => (m, false)
  | some callback =>
    if displayId = DISPLAY_ID_ALL then m.removeAll (some callback)
    else if (callback, displayId) ∈ m.callbacks then
      let m := m.eraseEntry callback displayId
      (if m.isRegistered callback then m else m.unwatch callback, true)
    else (m, true)

/-- An object dies: its recipients are taken off and told, of which each removes its entries. -/
def remoteDied (m : MultiScreenDisplayStateCallbackManager) (callback : ℕ) :
    MultiScreenDisplayStateCallbackManager :=
  (m.attached callback).foldl (fun m _ => (m.removeAll (some callback)).1)
    { m with attached := Function.update m.attached callback [] }

/-- `Notify`: the objects that are called back, one call for each entry that matches. -/
def notify (m : MultiScreenDisplayStateCallbackManager) (displayId : ℕ) : List ℕ :=
  (m.callbacks.filter fun entry => entry.2 = displayId ∨ entry.2 = DISPLAY_ID_ALL).map Prod.fst

def OncePerChange (m : MultiScreenDisplayStateCallbackManager) : Prop :=
  ∀ displayId callback, (m.notify displayId).count callback =
    if (callback, displayId) ∈ m.callbacks ∨ (callback, DISPLAY_ID_ALL) ∈ m.callbacks then 1 else 0

end MultiScreenDisplayStateCallbackManager

/-- What clients ask of the manager, with the answer of `AddDeathRecipient` should it be asked,
and the death of an object. -/
inductive CallbackEvent where
  | register (callback : Option ℕ) (displayId : ℕ) (pidUid : ℤ × ℤ) (accepted : Bool)
  | unregister (callback : Option ℕ) (displayId : ℕ)
  | removeAll (callback : Option ℕ)
  | remoteDied (callback : ℕ)
  deriving DecidableEq, Repr

namespace CallbackEvent

def call (m : MultiScreenDisplayStateCallbackManager) :
    CallbackEvent → MultiScreenDisplayStateCallbackManager × Bool
  | register callback displayId pidUid accepted => m.register callback displayId pidUid accepted
  | unregister callback displayId => m.unregister callback displayId
  | removeAll callback => m.removeAll callback
  | remoteDied callback => (m.remoteDied callback, true)

/-- The set of the registrations in force, which is all that clients mean by these calls. -/
def apply (isProxyObject : ℕ → Bool) (held : Finset (ℕ × ℕ)) : CallbackEvent → Finset (ℕ × ℕ)
  | register (some callback) displayId _ _ =>
    if isProxyObject callback then insert (callback, displayId) held else held
  | unregister (some callback) displayId =>
    if displayId = DISPLAY_ID_ALL then held.filter fun entry => entry.1 ≠ callback
    else held.erase (callback, displayId)
  | removeAll (some callback) | remoteDied callback =>
    held.filter fun entry => entry.1 ≠ callback
  | _ => held

end CallbackEvent

structure CallbackRegistry where
  manager : MultiScreenDisplayStateCallbackManager := {}
  held : Finset (ℕ × ℕ) := ∅

namespace CallbackRegistry

def step (s : CallbackRegistry) (e : CallbackEvent) : Option CallbackRegistry :=
  some ⟨(e.call s.manager).1, e.apply s.manager.isProxyObject s.held⟩

def start (isProxyObject : ℕ → Bool) : CallbackRegistry where
  manager := { isProxyObject := isProxyObject }

end CallbackRegistry

namespace MultiScreenDisplayStateCallbackManager

variable {m m' : MultiScreenDisplayStateCallbackManager} {callback displayId : ℕ}

theorem isRegistered_iff : m.isRegistered callback = true ↔ ∃ id, (callback, id) ∈ m.callbacks := by
  simp [isRegistered]

/-- No pair is held twice, the containers have the same keys, those of proxies, and a recipient
that is attached is the one on record. -/
structure Sound (m : MultiScreenDisplayStateCallbackManager) : Prop where
  nodup : m.callbacks.Nodup
  recipients : ∀ callback, (m.deathRecipients callback).isSome = m.isRegistered callback
  pidUids : ∀ callback, (m.callbackPidUidMap callback).isSome = m.isRegistered callback
  attached : ∀ callback, m.attached callback = [] ∨
    ∃ recipient, m.deathRecipients callback = some recipient ∧ m.attached callback = [recipient]
  proxies : ∀ callback, m.isRegistered callback = true → m.isProxyObject callback = true

theorem isRegistered_emplace (m : MultiScreenDisplayStateCallbackManager)
    (callback displayId other : ℕ) : (m.emplace callback displayId).isRegistered other =
      (m.isRegistered other || decide (other = callback)) := by
  simp [emplace, isRegistered, eq_comm]

theorem sound_emplace (h : Sound m) (hnew : (callback, displayId) ∉ m.callbacks)
    (hregistered : m.isRegistered callback = true) : Sound (m.emplace callback displayId) := by
  have hkeys (other : ℕ) :
      (m.emplace callback displayId).isRegistered other = m.isRegistered other := by
    rw [isRegistered_emplace]
    by_cases heq : other = callback
    · rw [heq, hregistered]
      rfl
    · simp [heq]
  refine ⟨?_, ?_, ?_, h.attached, ?_⟩
  · exact List.nodup_append.mpr ⟨h.nodup, List.nodup_singleton _, by
      intro entry hentry other hother heq
      rw [List.mem_singleton.mp hother] at heq
      exact hnew (heq ▸ hentry)⟩
  · intro other
    rw [hkeys]
    exact h.recipients other
  · intro other
    rw [hkeys]
    exact h.pidUids other
  · intro other hother
    rw [hkeys] at hother
    exact h.proxies other hother

theorem Sound.off_record (h : Sound m) (hunregistered : m.isRegistered callback = false) :
    m.deathRecipients callback = none ∧ m.attached callback = [] := by
  have hnone : m.deathRecipients callback = none := by
    have hrecipient := h.recipients callback
    rw [hunregistered] at hrecipient
    simpa using hrecipient
  refine ⟨hnone, ?_⟩
  rcases h.attached callback with hnil | ⟨recipient, hsome, -⟩
  · exact hnil
  · exact absurd (hnone.symm.trans hsome) (by simp)

theorem isRegistered_watch (m : MultiScreenDisplayStateCallbackManager)
    (callback displayId other : ℕ) (pidUid : ℤ × ℤ) (accepted : Bool) :
    ((m.watch callback pidUid accepted).emplace callback displayId).isRegistered other =
      (m.isRegistered other || decide (other = callback)) :=
  isRegistered_emplace _ _ _ _

theorem sound_watch (h : Sound m) (hunregistered : m.isRegistered callback = false)
    (hproxy : m.isProxyObject callback = true) (pidUid : ℤ × ℤ) (accepted : Bool) :
    Sound ((m.watch callback pidUid accepted).emplace callback displayId) := by
  have hkeys (other : ℕ) := isRegistered_watch m callback displayId other pidUid accepted
  have hfree := (h.off_record hunregistered).2
  refine ⟨?_, ?_, ?_, ?_, ?_⟩
  · refine List.nodup_append.mpr ⟨h.nodup, List.nodup_singleton _, ?_⟩
    intro entry hentry other hother heq
    rw [List.mem_singleton.mp hother] at heq
    have hmem : m.isRegistered callback = true := isRegistered_iff.mpr ⟨displayId, heq ▸ hentry⟩
    exact absurd (hunregistered.symm.trans hmem) (by simp)
  · intro other
    rw [hkeys, ← h.recipients]
    by_cases heq : other = callback
    · subst heq
      simp [watch, emplace]
    · simp [watch, emplace, heq]
  · intro other
    rw [hkeys, ← h.pidUids]
    by_cases heq : other = callback
    · subst heq
      simp [watch, emplace]
    · simp [watch, emplace, heq]
  · intro other
    by_cases heq : other = callback
    · subst heq
      cases accepted with
      | false => exact Or.inl hfree
      | true =>
        right
        exact ⟨m.nextRecipient, by simp [watch, emplace], by simp [watch, emplace, hfree]⟩
    · have hsame := h.attached other
      cases accepted with
      | false => simpa [watch, emplace, heq] using hsame
      | true => simpa [watch, emplace, heq] using hsame
  · intro other hother
    rw [hkeys] at hother
    by_cases heq : other = callback
    · exact heq ▸ hproxy
    · refine h.proxies other ?_
      simpa [heq] using hother

theorem sound_unwatch {entries : List (ℕ × ℕ)} (h : Sound m) (hsub : entries.Sublist m.callbacks)
    (hgone : { m with callbacks := entries }.isRegistered callback = false)
    (hothers : ∀ other, other ≠ callback →
      { m with callbacks := entries }.isRegistered other = m.isRegistered other) :
    Sound ({ m with callbacks := entries }.unwatch callback) := by
  refine ⟨h.nodup.sublist hsub, ?_, ?_, ?_, ?_⟩
  · intro other
    change _ = { m with callbacks := entries }.isRegistered other
    by_cases heq : other = callback
    · rw [heq, hgone]
      simp [unwatch]
    · rw [hothers other heq, ← h.recipients]
      simp [unwatch, heq]
  · intro other
    change _ = { m with callbacks := entries }.isRegistered other
    by_cases heq : other = callback
    · rw [heq, hgone]
      simp [unwatch]
    · rw [hothers other heq, ← h.pidUids]
      simp [unwatch, heq]
  · intro other
    have hsame := h.attached other
    by_cases heq : other = callback
    · subst heq
      left
      rcases hsame with hnil | ⟨recipient, hsome, hattached⟩
      · cases hrecipient : m.deathRecipients other with
        | none => simpa [unwatch, hrecipient] using hnil
        | some recipient => simp [unwatch, hrecipient, hnil]
      · simp [unwatch, hsome, hattached]
    · cases hrecipient : m.deathRecipients callback with
      | none => simpa [unwatch, hrecipient, heq] using hsame
      | some recipient => simpa [unwatch, hrecipient, heq] using hsame
  · intro other hother
    change { m with callbacks := entries }.isRegistered other = true at hother
    by_cases heq : other = callback
    · rw [heq, hgone] at hother
      cases hother
    · exact h.proxies other ((hothers other heq).symm.trans hother)

theorem isRegistered_eraseKey (m : MultiScreenDisplayStateCallbackManager)
    (callback other : ℕ) : (m.eraseKey callback).isRegistered other =
      (m.isRegistered other && decide (other ≠ callback)) := by
  rw [Bool.eq_iff_iff]
  simp only [isRegistered_iff, eraseKey, List.mem_filter, Bool.and_eq_true, decide_eq_true_eq]
  constructor
  · rintro ⟨id, hmem, hne⟩
    exact ⟨⟨id, hmem⟩, hne⟩
  · rintro ⟨⟨id, hmem⟩, hne⟩
    exact ⟨id, hmem, hne⟩

theorem isRegistered_eraseEntry {other : ℕ} (hne : other ≠ callback) :
    (m.eraseEntry callback displayId).isRegistered other = m.isRegistered other := by
  rw [Bool.eq_iff_iff]
  simp only [isRegistered_iff]
  constructor
  · rintro ⟨id, hmem⟩
    exact ⟨id, List.mem_of_mem_erase hmem⟩
  · rintro ⟨id, hmem⟩
    exact ⟨id, (List.mem_erase_of_ne (by simp [hne])).mpr hmem⟩

theorem isRegistered_left (hleft : (m.eraseEntry callback displayId).isRegistered callback = true)
    (other : ℕ) :
    (m.eraseEntry callback displayId).isRegistered other = m.isRegistered other := by
  by_cases hne : other = callback
  · rw [hne, hleft]
    obtain ⟨id, hmem⟩ := isRegistered_iff.mp hleft
    exact (isRegistered_iff.mpr ⟨id, List.mem_of_mem_erase hmem⟩).symm
  · exact isRegistered_eraseEntry hne

theorem sound_register (h : Sound m) (callback : Option ℕ) (displayId : ℕ) (pidUid : ℤ × ℤ)
    (accepted : Bool) : Sound (m.register callback displayId pidUid accepted).1 := by
  cases callback with
  | none => exact h
  | some callback =>
    rw [register]
    by_cases hheld : (callback, displayId) ∈ m.callbacks
    · rw [if_pos hheld]
      exact h
    · rw [if_neg hheld]
      cases hregistered : m.isRegistered callback with
      | true => exact sound_emplace h hheld hregistered
      | false =>
        rw [if_neg (by simp)]
        cases hproxy : m.isProxyObject callback with
        | false => exact h
        | true => exact sound_watch h hregistered hproxy pidUid accepted

theorem sound_removeAll (h : Sound m) (callback : Option ℕ) : Sound (m.removeAll callback).1 := by
  cases callback with
  | none => exact h
  | some callback =>
    rw [removeAll]
    split
    · apply sound_unwatch h List.filter_sublist
      · exact (isRegistered_eraseKey m callback callback).trans (by simp)
      · intro other hne
        exact (isRegistered_eraseKey m callback other).trans (by simp [hne])
    · exact h

theorem sound_unregister (h : Sound m) (callback : Option ℕ) (displayId : ℕ) :
    Sound (m.unregister callback displayId).1 := by
  cases callback with
  | none => exact h
  | some callback =>
    rw [unregister]
    by_cases hall : displayId = DISPLAY_ID_ALL
    · rw [if_pos hall]
      exact sound_removeAll h (some callback)
    · rw [if_neg hall]
      by_cases hheld : (callback, displayId) ∈ m.callbacks
      · rw [if_pos hheld]
        dsimp only
        cases hleft : (m.eraseEntry callback displayId).isRegistered callback with
        | false => exact sound_unwatch h List.erase_sublist hleft fun other =>
            isRegistered_eraseEntry
        | true =>
          have hkeys := isRegistered_left hleft
          refine ⟨h.nodup.sublist List.erase_sublist, ?_, ?_, h.attached, ?_⟩
          · exact fun other => (h.recipients other).trans (hkeys other).symm
          · exact fun other => (h.pidUids other).trans (hkeys other).symm
          · exact fun other hother => h.proxies other ((hkeys other).symm.trans hother)
      · rw [if_neg hheld]
        exact h

/-- A dying object tells the recipient on record, if that was attached. -/
theorem remoteDied_eq (h : Sound m) (callback : ℕ) : m.remoteDied callback =
    if m.attached callback = [] then m
    else ({ m with
      attached := Function.update m.attached callback [] }.removeAll (some callback)).1 := by
  rw [remoteDied]
  rcases h.attached callback with hnil | ⟨recipient, -, hattached⟩
  · rw [if_pos hnil, hnil, List.foldl_nil, ← hnil, Function.update_eq_self]
  · rw [if_neg (by simp [hattached]), hattached, List.foldl_cons, List.foldl_nil]

theorem sound_dying (h : Sound m) (callback : ℕ) :
    Sound { m with attached := Function.update m.attached callback [] } where
  nodup := h.nodup
  recipients := h.recipients
  pidUids := h.pidUids
  proxies := h.proxies
  attached other := by
    by_cases heq : other = callback
    · subst heq
      exact Or.inl (Function.update_self _ _ _)
    · simpa [heq] using h.attached other

theorem sound_remoteDied (h : Sound m) (callback : ℕ) : Sound (m.remoteDied callback) := by
  rw [remoteDied_eq h]
  split
  · exact h
  · exact sound_removeAll (sound_dying h callback) (some callback)

theorem sound_call (h : Sound m) (e : CallbackEvent) : Sound (e.call m).1 := by
  cases e with
  | register callback displayId pidUid accepted =>
    exact sound_register h callback displayId pidUid accepted
  | unregister callback displayId => exact sound_unregister h callback displayId
  | removeAll callback => exact sound_removeAll h callback
  | remoteDied callback => exact sound_remoteDied h callback

variable {entry : ℕ × ℕ}

theorem mem_register (h : Sound m) (callback displayId : ℕ) (pidUid : ℤ × ℤ) (accepted : Bool) :
    entry ∈ (m.register (some callback) displayId pidUid accepted).1.callbacks ↔
      entry ∈ m.callbacks ∨ m.isProxyObject callback = true ∧ entry = (callback, displayId) := by
  rw [register]
  by_cases hheld : (callback, displayId) ∈ m.callbacks
  · rw [if_pos hheld]
    constructor
    · exact Or.inl
    · rintro (hmem | ⟨-, rfl⟩)
      · exact hmem
      · exact hheld
  · rw [if_neg hheld]
    cases hregistered : m.isRegistered callback with
    | true =>
      rw [if_pos rfl]
      simp [emplace, h.proxies callback hregistered]
    | false =>
      rw [if_neg (by simp)]
      cases hproxy : m.isProxyObject callback with
      | false => simp
      | true => simp [emplace, watch]

theorem mem_removeAll (callback : ℕ) :
    entry ∈ (m.removeAll (some callback)).1.callbacks ↔
      entry ∈ m.callbacks ∧ entry.1 ≠ callback := by
  rw [removeAll]
  cases hregistered : m.isRegistered callback with
  | true => simp [eraseKey, unwatch]
  | false =>
    rw [if_neg (by simp)]
    constructor
    · intro hmem
      refine ⟨hmem, ?_⟩
      rintro rfl
      have hkey := isRegistered_iff.mpr ⟨entry.2, hmem⟩
      exact absurd (hregistered.symm.trans hkey) (by simp)
    · exact fun hmem => hmem.1

theorem mem_unregister (h : Sound m) (callback displayId : ℕ) :
    entry ∈ (m.unregister (some callback) displayId).1.callbacks ↔
      entry ∈ m.callbacks ∧
        if displayId = DISPLAY_ID_ALL then entry.1 ≠ callback
        else entry ≠ (callback, displayId) := by
  rw [unregister]
  by_cases hall : displayId = DISPLAY_ID_ALL
  · rw [if_pos hall, if_pos hall]
    exact mem_removeAll callback
  · rw [if_neg hall, if_neg hall]
    by_cases hheld : (callback, displayId) ∈ m.callbacks
    · have herased : entry ∈ (m.eraseEntry callback displayId).callbacks ↔
          entry ∈ m.callbacks ∧ entry ≠ (callback, displayId) := by
        rw [eraseEntry, h.nodup.mem_erase_iff, and_comm]
      rw [if_pos hheld]
      dsimp only
      split
      · exact herased
      · exact herased
    · rw [if_neg hheld]
      constructor
      · intro hmem
        refine ⟨hmem, ?_⟩
        rintro rfl
        exact hheld hmem
      · exact fun hmem => hmem.1

theorem mem_remoteDied (h : Sound m) (callback : ℕ) :
    entry ∈ (m.remoteDied callback).callbacks ↔
      entry ∈ m.callbacks ∧ (m.attached callback ≠ [] → entry.1 ≠ callback) := by
  rw [remoteDied_eq h]
  split
  · simp [*]
  · rw [mem_removeAll]
    simp [*]

end MultiScreenDisplayStateCallbackManager

end DisplayPowerMgr
