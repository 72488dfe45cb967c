import DisplayPowerMgr.MultiScreenCallbacks

/-! Runs of the callback registry against the set of registrations that clients mean: exactly when
every entry is watched and goes with its client, and when each client is called back once. -/
namespace DisplayPowerMgr

namespace MultiScreenDisplayStateCallbackManager

variable {m : MultiScreenDisplayStateCallbackManager}

/-- Every object with an entry tells the manager of its death. -/
def Watched (m : MultiScreenDisplayStateCallbackManager) : Prop :=
  ∀ callback, m.isRegistered callback = true → m.attached callback ≠ []

/-- The first registration of an object has its death recipient accepted. -/
def FirstAccepted (m : MultiScreenDisplayStateCallbackManager) : CallbackEvent → Prop
  | .register (some callback) _ _ accepted =>
    m.isRegistered callback = false → m.isProxyObject callback = true → accepted = true
  | _ => True

theorem watched_unwatch {entries : List (ℕ × ℕ)} {callback : ℕ} (h : Watched m)
    (hgone : { m with callbacks := entries }.isRegistered callback = false)
    (hothers : ∀ other, other ≠ callback →
      { m with callbacks := entries }.isRegistered other = m.isRegistered other) :
    Watched ({ m with callbacks := entries }.unwatch callback) := by
  intro other hother
  change { m with callbacks := entries }.isRegistered other = true at hother
  have hne : other ≠ callback := by
    rintro rfl
    exact absurd (hgone.symm.trans hother) (by simp)
  rw [hothers other hne] at hother
  have hattached := h other hother
  cases hrecipient : m.deathRecipients callback with
  | none => simpa [unwatch, hrecipient] using hattached
  | some recipient => simpa [unwatch, hrecipient, hne] using hattached

theorem watched_register_iff (hsound : Sound m) (h : Watched m) (callback displayId : ℕ)
    (pidUid : ℤ × ℤ) (accepted : Bool) :
    Watched (m.register (some callback) displayId pidUid accepted).1 ↔
      m.FirstAccepted (.register (some callback) displayId pidUid accepted) := by
  rw [register, FirstAccepted]
  by_cases hheld : (callback, displayId) ∈ m.callbacks
  · rw [if_pos hheld]
    have hkey := isRegistered_iff.mpr ⟨displayId, hheld⟩
    exact iff_of_true h fun hfirst => absurd (hkey.symm.trans hfirst) (by simp)
  · rw [if_neg hheld]
    cases hregistered : m.isRegistered callback with
    | true =>
      refine iff_of_true ?_ fun hfirst => absurd hfirst (by simp)
      intro other hother
      refine h other ?_
      have hkeys := isRegistered_emplace m callback displayId other
      by_cases heq : other = callback
      · rw [heq]
        exact hregistered
      · simpa [heq] using hkeys.symm.trans hother
    | false =>
      rw [if_neg (by simp)]
      cases hproxy : m.isProxyObject callback with
      | false => exact iff_of_true h fun _ hproxy => absurd hproxy (by simp)
      | true =>
        have hkeys (other : ℕ) := isRegistered_watch m callback displayId other pidUid accepted
        have hfree := (hsound.off_record hregistered).2
        constructor
        · intro hwatched _ _
          have hkey : ((m.watch callback pidUid accepted).emplace callback
              displayId).isRegistered callback = true := by simp [hkeys]
          have hattached := hwatched callback hkey
          cases accepted with
          | true => rfl
          | false => exact absurd hfree hattached
        · intro haccepted other hother
          rw [haccepted rfl rfl]
          by_cases heq : other = callback
          · subst heq
            simp [watch, emplace]
          · have hold : m.isRegistered other = true := by
              simpa [heq] using (hkeys other).symm.trans hother
            simpa [watch, emplace, heq] using h other hold

theorem watched_removeAll (h : Watched m) (callback : Option ℕ) :
    Watched (m.removeAll callback).1 := by
  cases callback with
  | none => exact h
  | some callback =>
    rw [removeAll]
    split
    · apply watched_unwatch h
      · exact (isRegistered_eraseKey m callback callback).trans (by simp)
      · intro other hne
        exact (isRegistered_eraseKey m callback other).trans (by simp [hne])
    · exact h

theorem watched_unregister (h : Watched m) (callback : Option ℕ) (displayId : ℕ) :
    Watched (m.unregister callback displayId).1 := by
  cases callback with
  | none => exact h
  | some callback =>
    rw [unregister]
    split
    · exact watched_removeAll h (some callback)
    · split
      · dsimp only
        cases hleft : (m.eraseEntry callback displayId).isRegistered callback with
        | false => exact watched_unwatch h hleft fun other => isRegistered_eraseEntry
        | true =>
          intro other hother
          exact h other ((isRegistered_left hleft other).symm.trans hother)
      · exact h

theorem watched_remoteDied (hsound : Sound m) (h : Watched m) (callback : ℕ) :
    Watched (m.remoteDied callback) := by
  intro other hother
  obtain ⟨id, hmem⟩ := isRegistered_iff.mp hother
  obtain ⟨hold, hgone⟩ := (mem_remoteDied hsound callback).mp hmem
  have hattached := h other (isRegistered_iff.mpr ⟨id, hold⟩)
  rw [remoteDied_eq hsound]
  split
  · exact hattached
  · rename_i hwatched
    have hne : other ≠ callback := hgone hwatched
    rw [removeAll]
    split
    · cases hrecipient : m.deathRecipients callback with
      | none => simpa [unwatch, eraseKey, hrecipient, hne] using hattached
      | some recipient => simpa [unwatch, eraseKey, hrecipient, hne] using hattached
    · simpa [hne] using hattached

theorem watched_call_iff (hsound : Sound m) (h : Watched m) (e : CallbackEvent) :
    Watched (e.call m).1 ↔ m.FirstAccepted e := by
  cases e with
  | register callback displayId pidUid accepted =>
    cases callback with
    | none => exact iff_of_true h trivial
    | some callback => exact watched_register_iff hsound h callback displayId pidUid accepted
  | unregister callback displayId => exact iff_of_true (watched_unregister h _ _) trivial
  | removeAll callback => exact iff_of_true (watched_removeAll h _) trivial
  | remoteDied callback => exact iff_of_true (watched_remoteDied hsound h callback) trivial

theorem call_refused {e : CallbackEvent} (h : (e.call m).2 = false) (held : Finset (ℕ × ℕ)) :
    (e.call m).1 = m ∧ e.apply m.isProxyObject held = held := by
  cases e with
  | register callback displayId pidUid accepted =>
    cases callback with
    | none => exact ⟨rfl, rfl⟩
    | some callback =>
      rw [CallbackEvent.call, register] at h ⊢
      by_cases hheld : (callback, displayId) ∈ m.callbacks
      · rw [if_pos hheld] at h
        cases h
      · rw [if_neg hheld] at h ⊢
        cases hregistered : m.isRegistered callback with
        | true =>
          rw [hregistered, if_pos rfl] at h
          cases h
        | false =>
          cases hproxy : m.isProxyObject callback with
          | false => exact ⟨rfl, if_neg (by simp [hproxy])⟩
          | true =>
            rw [hregistered, if_neg (by simp), hproxy] at h
            cases h
  | unregister callback displayId =>
    cases callback with
    | none => exact ⟨rfl, rfl⟩
    | some callback =>
      simp only [CallbackEvent.call, unregister, removeAll] at h
      repeat' split at h
      all_goals cases h
  | removeAll callback =>
    cases callback with
    | none => exact ⟨rfl, rfl⟩
    | some callback =>
      simp only [CallbackEvent.call, removeAll] at h
      split at h
      all_goals cases h
  | remoteDied callback => cases h

/-- Where every object is watched, a call changes the entries as it changes the set of those that
are meant. -/
theorem mem_call (hsound : Sound m) (h : Watched m) {held : Finset (ℕ × ℕ)}
    (hheld : ∀ entry, entry ∈ m.callbacks ↔ entry ∈ held) (e : CallbackEvent)
    (entry : ℕ × ℕ) :
    entry ∈ (e.call m).1.callbacks ↔ entry ∈ e.apply m.isProxyObject held := by
  cases e with
  | register callback displayId pidUid accepted =>
    cases callback with
    | none => exact hheld entry
    | some callback =>
      refine (mem_register hsound callback displayId pidUid accepted).trans ?_
      rw [hheld, CallbackEvent.apply]
      cases hproxy : m.isProxyObject callback with
      | false => simp
      | true => simp [or_comm]
  | unregister callback displayId =>
    cases callback with
    | none => exact hheld entry
    | some callback =>
      refine (mem_unregister hsound callback displayId).trans ?_
      rw [hheld, CallbackEvent.apply]
      by_cases hall : displayId = DISPLAY_ID_ALL
      · rw [if_pos hall, if_pos hall, Finset.mem_filter]
      · rw [if_neg hall, if_neg hall, Finset.mem_erase, and_comm]
  | removeAll callback =>
    cases callback with
    | none => exact hheld entry
    | some callback =>
      refine (mem_removeAll callback).trans ?_
      rw [hheld, CallbackEvent.apply, Finset.mem_filter]
  | remoteDied callback =>
    refine (mem_remoteDied hsound callback).trans ?_
    rw [CallbackEvent.apply, Finset.mem_filter, ← hheld]
    refine and_congr_right fun hmem => ⟨?_, fun hne _ => hne⟩
    rintro hgone rfl
    -- an object that has an entry is watched, so its death is heard of
    exact hgone (h entry.1 (isRegistered_iff.mpr ⟨entry.2, hmem⟩)) rfl

end MultiScreenDisplayStateCallbackManager

namespace CallbackRegistry

open MultiScreenDisplayStateCallbackManager

/-- The entries are the pairs that are meant, none twice. The other containers have the same keys,
and attached to each object is the recipient on record for it and nothing else. -/
structure Refines (s : CallbackRegistry) : Prop where
  nodup : s.manager.callbacks.Nodup
  entries : ∀ entry, entry ∈ s.manager.callbacks ↔ entry ∈ s.held
  recipients : ∀ callback,
    (s.manager.deathRecipients callback).isSome = s.manager.isRegistered callback
  pidUids : ∀ callback,
    (s.manager.callbackPidUidMap callback).isSome = s.manager.isRegistered callback
  attached : ∀ callback,
    s.manager.attached callback = (s.manager.deathRecipients callback).toList

theorem Refines.watched {s : CallbackRegistry} (h : Refines s) : Watched s.manager := by
  intro callback hregistered
  have hrecipient := (h.recipients callback).trans hregistered
  rw [h.attached]
  cases hsome : s.manager.deathRecipients callback with
  | none => simp [hsome] at hrecipient
  | some recipient => simp

theorem refines_iff {s : CallbackRegistry} (h : Sound s.manager)
    (hentries : ∀ entry, entry ∈ s.manager.callbacks ↔ entry ∈ s.held) :
    Refines s ↔ Watched s.manager := by
  refine ⟨Refines.watched, fun hwatched => ⟨h.nodup, hentries, h.recipients, h.pidUids, ?_⟩⟩
  intro callback
  rcases h.attached callback with hnil | ⟨recipient, hsome, hattached⟩
  · have hunregistered : ¬ s.manager.isRegistered callback = true :=
      fun hregistered => hwatched callback hregistered hnil
    have hnone := h.recipients callback
    rw [Bool.eq_false_iff.mpr hunregistered, Option.isSome_eq_false_iff] at hnone
    rw [hnil, Option.isNone_iff_eq_none.mp hnone]
    exact (Option.toList_none ℕ).symm
  · rw [hattached, hsome]
    exact (Option.toList_some recipient).symm

theorem sound_start (isProxyObject : ℕ → Bool) : Sound (start isProxyObject).manager where
  nodup := List.nodup_nil
  recipients _ := rfl
  pidUids _ := rfl
  attached _ := Or.inl rfl
  proxies _ hregistered := by cases hregistered

theorem refines_start (isProxyObject : ℕ → Bool) : Refines (start isProxyObject) := by
  apply (refines_iff (sound_start isProxyObject) _).mpr
  · intro callback hregistered
    cases hregistered
  · intro entry
    simp [start]

theorem step_refines_iff {s : CallbackRegistry} (hsound : Sound s.manager) (h : Refines s)
    (e : CallbackEvent) :
    s.manager.FirstAccepted e ↔ ∀ t, step s e = some t → Refines t := by
  have hafter : Sound (e.call s.manager).1 := sound_call hsound e
  have hentries := mem_call hsound h.watched h.entries e
  rw [← watched_call_iff hsound h.watched e]
  constructor
  · rintro hwatched t ⟨⟩
    exact (refines_iff hafter hentries).mpr hwatched
  · intro hall
    exact (hall _ rfl).watched

theorem step_refused {s : CallbackRegistry} {e : CallbackEvent}
    (h : (e.call s.manager).2 = false) : step s e = some s := by
  obtain ⟨hmanager, hheld⟩ := call_refused h s.held
  rw [step, hmanager, hheld]

/-- In every run the registry refines the set of the registrations that are meant, and refused
calls change nothing, exactly if the death recipient of every first registration is accepted. -/
theorem refines_iff_accepted (isProxyObject : ℕ → Bool) (es : List CallbackEvent) :
    Runs.Always step (fun s e => ∀ t, step s e = some t →
        Refines t ∧ ((e.call s.manager).2 = false → t = s)) (start isProxyObject) es ↔
      Runs.Always step (fun s e => s.manager.FirstAccepted e) (start isProxyObject) es := by
  rw [← Runs.always_keeps_iff (J := fun s => Sound s.manager) (P := fun _ => True)
    ?_ (fun s e hsound h _ => step_refines_iff hsound h e) (sound_start isProxyObject)
    (refines_start isProxyObject) (fun _ _ => trivial)]
  · constructor
    · exact Runs.Always.mono fun s e h t ht => (h t ht).1
    · apply Runs.Always.mono
      intro s e h t ht
      refine ⟨h t ht, fun hrefused => ?_⟩
      exact Option.some.inj (ht.symm.trans (step_refused hrefused))
  · rintro s e t hsound - ⟨⟩
    exact sound_call hsound e

/-- A client that died before its first registration: the entry stays when the death is heard. -/
theorem dead_client_kept :
    ∃ s, Runs.run step (start fun _ => true)
      [.register (some 0) 1 (200, 200) false, .remoteDied 0] = some s ∧ ¬ Refines s := by
  refine ⟨_, rfl, ?_⟩
  intro h
  have hentry := (h.entries (0, 1)).mp (by decide)
  exact absurd hentry (by decide)

end CallbackRegistry

namespace MultiScreenDisplayStateCallbackManager

variable {m : MultiScreenDisplayStateCallbackManager}

def Unmixed (m : MultiScreenDisplayStateCallbackManager) : Prop :=
  ∀ callback displayId, displayId ≠ DISPLAY_ID_ALL → (callback, displayId) ∈ m.callbacks →
    (callback, DISPLAY_ID_ALL) ∉ m.callbacks

/-- An object asks for all displays while it has none of them, or for one while it has not all. -/
def KeepsApart (m : MultiScreenDisplayStateCallbackManager) : CallbackEvent → Prop
  | .register (some callback) displayId _ _ =>
    if displayId = DISPLAY_ID_ALL then
      ∀ other, other ≠ DISPLAY_ID_ALL → (callback, other) ∉ m.callbacks
    else (callback, DISPLAY_ID_ALL) ∉ m.callbacks
  | _ => True

theorem count_notify (m : MultiScreenDisplayStateCallbackManager) (displayId callback : ℕ) :
    (m.notify displayId).count callback = m.callbacks.count (callback, displayId) +
      if displayId = DISPLAY_ID_ALL then 0 else m.callbacks.count (callback, DISPLAY_ID_ALL) := by
  rw [notify]
  induction m.callbacks with
  | nil => simp
  | cons entry entries ih =>
    obtain ⟨object, id⟩ := entry
    by_cases hid : id = displayId ∨ id = DISPLAY_ID_ALL
    · rw [List.filter_cons_of_pos (by simpa using hid), List.map_cons, List.count_cons, ih]
      simp only [List.count_cons, beq_iff_eq, Prod.mk.injEq]
      grind
    · rw [List.filter_cons_of_neg (by simpa using hid), ih]
      simp only [List.count_cons, beq_iff_eq, Prod.mk.injEq]
      grind

theorem oncePerChange_iff (h : Sound m) : OncePerChange m ↔ Unmixed m := by
  constructor
  · intro honce callback displayId hone hheld hall
    have hcount := honce displayId callback
    rw [count_notify, if_neg hone, h.nodup.count, h.nodup.count, if_pos hheld, if_pos hall,
      if_pos (Or.inl hheld)] at hcount
    omega
  · intro hunmixed displayId callback
    rw [count_notify, h.nodup.count, h.nodup.count]
    by_cases hone : displayId = DISPLAY_ID_ALL
    · simp [hone]
    · rw [if_neg hone]
      by_cases hheld : (callback, displayId) ∈ m.callbacks
      · simp [hheld, hunmixed callback displayId hone hheld]
      · simp [hheld]

theorem mem_of_call (h : Sound m) {e : CallbackEvent} {entry : ℕ × ℕ}
    (he : ∀ callback displayId pidUid accepted,
      e ≠ .register (some callback) displayId pidUid accepted)
    (hentry : entry ∈ (e.call m).1.callbacks) : entry ∈ m.callbacks := by
  cases e with
  | register callback displayId pidUid accepted =>
    cases callback with
    | none => exact hentry
    | some callback => exact absurd rfl (he callback displayId pidUid accepted)
  | unregister callback displayId =>
    cases callback with
    | none => exact hentry
    | some callback => exact ((mem_unregister h callback displayId).mp hentry).1
  | removeAll callback =>
    cases callback with
    | none => exact hentry
    | some callback => exact ((mem_removeAll callback).mp hentry).1
  | remoteDied callback => exact ((mem_remoteDied h callback).mp hentry).1

theorem unmixed_insert_all_iff {m' : MultiScreenDisplayStateCallbackManager} (h : Unmixed m)
    {callback : ℕ} (hmem : ∀ entry, entry ∈ m'.callbacks ↔
      entry ∈ m.callbacks ∨ entry = (callback, DISPLAY_ID_ALL)) :
    Unmixed m' ↔ ∀ other, other ≠ DISPLAY_ID_ALL → (callback, other) ∉ m.callbacks := by
  constructor
  · intro hunmixed other hone hentry
    exact hunmixed callback other hone ((hmem _).mpr (Or.inl hentry)) ((hmem _).mpr (Or.inr rfl))
  · intro hfree object id hone hentry hentryAll
    rcases (hmem _).mp hentry with hold | hnew
    · rcases (hmem _).mp hentryAll with holdAll | hnewAll
      · exact h object id hone hold holdAll
      · cases hnewAll
        exact hfree id hone hold
    · cases hnew
      exact hone rfl

theorem unmixed_insert_one_iff {m' : MultiScreenDisplayStateCallbackManager} (h : Unmixed m)
    {callback displayId : ℕ} (hone : displayId ≠ DISPLAY_ID_ALL)
    (hmem : ∀ entry, entry ∈ m'.callbacks ↔
      entry ∈ m.callbacks ∨ entry = (callback, displayId)) :
    Unmixed m' ↔ (callback, DISPLAY_ID_ALL) ∉ m.callbacks := by
  constructor
  · intro hunmixed hentryAll
    exact hunmixed callback displayId hone ((hmem _).mpr (Or.inr rfl))
      ((hmem _).mpr (Or.inl hentryAll))
  · intro hfree object id hid hentry hentryAll
    have holdAll : (object, DISPLAY_ID_ALL) ∈ m.callbacks := by
      rcases (hmem _).mp hentryAll with holdAll | hnewAll
      · exact holdAll
      · cases hnewAll
        exact absurd rfl hone
    rcases (hmem _).mp hentry with hold | hnew
    · exact h object id hid hold holdAll
    · cases hnew
      exact hfree holdAll

theorem unmixed_register_iff (hsound : Sound m) (h : Unmixed m) (callback displayId : ℕ)
    (pidUid : ℤ × ℤ) (accepted : Bool) :
    Unmixed (m.register (some callback) displayId pidUid accepted).1 ↔
      m.KeepsApart (.register (some callback) displayId pidUid accepted) := by
  have hmem (entry : ℕ × ℕ) := @mem_register m entry hsound callback displayId pidUid accepted
  rw [KeepsApart]
  cases hproxy : m.isProxyObject callback with
  | false =>
    -- the object is refused, and has no entries
    have hnone (id : ℕ) : (callback, id) ∉ m.callbacks := by
      intro hentry
      have hregistered := hsound.proxies callback (isRegistered_iff.mpr ⟨id, hentry⟩)
      exact absurd (hproxy.symm.trans hregistered) (by simp)
    simp only [hproxy, Bool.false_eq_true, false_and, or_false] at hmem
    apply iff_of_true
    · intro other id hone hentry hall
      exact h other id hone ((hmem _).mp hentry) ((hmem _).mp hall)
    · split
      · exact fun other _ => hnone other
      · exact hnone DISPLAY_ID_ALL
  | true =>
    simp only [hproxy, true_and] at hmem
    by_cases hall : displayId = DISPLAY_ID_ALL
    · subst hall
      rw [if_pos rfl]
      exact unmixed_insert_all_iff h hmem
    · rw [if_neg hall]
      exact unmixed_insert_one_iff h hall hmem

theorem unmixed_call_iff (hsound : Sound m) (h : Unmixed m) (e : CallbackEvent) :
    Unmixed (e.call m).1 ↔ m.KeepsApart e := by
  have hkeeps (he : ∀ callback displayId pidUid accepted,
      e ≠ .register (some callback) displayId pidUid accepted) : Unmixed (e.call m).1 := by
    intro callback displayId hone hentry hall
    exact h callback displayId hone (mem_of_call hsound he hentry) (mem_of_call hsound he hall)
  cases e with
  | register callback displayId pidUid accepted =>
    cases callback with
    | none => exact iff_of_true h trivial
    | some callback => exact unmixed_register_iff hsound h callback displayId pidUid accepted
  | unregister => exact iff_of_true (hkeeps fun _ _ _ _ he => by cases he) trivial
  | removeAll => exact iff_of_true (hkeeps fun _ _ _ _ he => by cases he) trivial
  | remoteDied => exact iff_of_true (hkeeps fun _ _ _ _ he => by cases he) trivial

end MultiScreenDisplayStateCallbackManager

namespace CallbackRegistry

open MultiScreenDisplayStateCallbackManager

/-- Every change calls each client back once, in every state of a run, exactly if no object is
ever registered for all displays while it is for one, or for one while it is for all. -/
theorem once_iff_apart (isProxyObject : ℕ → Bool) (es : List CallbackEvent) :
    Runs.Always step (fun s e => ∀ t, step s e = some t → OncePerChange t.manager)
        (start isProxyObject) es ↔
      Runs.Always step (fun s e => s.manager.KeepsApart e) (start isProxyObject) es := by
  have hkeep : ∀ s e t, Sound s.manager → True → step s e = some t → Sound t.manager := by
    rintro s e t hsound - ⟨⟩
    exact sound_call hsound e
  have hnone : Unmixed (start isProxyObject).manager :=
    fun callback displayId _ hentry => by cases hentry
  have hstep : ∀ s e, Sound s.manager → Unmixed s.manager → True →
      (s.manager.KeepsApart e ↔ ∀ t, step s e = some t → Unmixed t.manager) := by
    rintro s e hsound hunmixed -
    rw [← unmixed_call_iff hsound hunmixed e]
    constructor
    · rintro hafter t ⟨⟩
      exact hafter
    · exact fun hall => hall _ rfl
  rw [← Runs.always_keeps_iff (P := fun _ => True) hkeep hstep (sound_start isProxyObject) hnone
    (fun _ _ => trivial)]
  apply Runs.always_congr (P := fun _ => True) hkeep _ (sound_start isProxyObject)
    (fun _ _ => trivial)
  rintro s e hsound -
  refine forall₂_congr fun t ht => ?_
  exact oncePerChange_iff (hkeep s e t hsound trivial ht)

/-- A client registered for display 1 and for all displays is told twice of each change of it. -/
theorem told_twice :
    ∃ s, Runs.run step (start fun _ => true)
      [.register (some 0) 1 (200, 200) true,
        .register (some 0) DISPLAY_ID_ALL (200, 200) true] = some s ∧
      s.manager.notify 1 = [0, 0] ∧ ¬ OncePerChange s.manager := by
  refine ⟨_, rfl, by decide, ?_⟩
  intro honce
  exact absurd (honce 1 0) (by decide)

end CallbackRegistry

end DisplayPowerMgr
