import DisplayPowerMgr.DisplayPowerInfo
import DisplayPowerMgr.Library.Runs

/-! The one state callback of `DisplayPowerMgrService`: `RegisterCallbackInner` stores it before
it is checked, and only the death of its client takes it out again. -/
namespace DisplayPowerMgr

/-- `callback_` and whether `cbDeathRecipient_` exists, with remote objects as numbers. What is
known outside of the service stands below: which objects are proxies, whose clients died, and
which objects will report a death to the recipient. -/
structure StateCallback where
  callback : Option ℕ := none
  hasDeathRecipient : Bool := false
  isProxyObject : ℕ → Bool := fun _ => true
  died : List ℕ := []
  attached : List ℕ := []

namespace StateCallback

/-- An object whose client died takes no recipient; any other answers `accepted`. -/
def addDeathRecipient (s : StateCallback) (callback : ℕ) (accepted : Bool) : StateCallback :=
  if accepted && callback ∉ s.died then { s with attached := callback :: s.attached } else s

/-- What `AddDeathRecipient` answers is not looked at. -/
def registerCallbackInner (s : StateCallback) (callback : ℕ) (isSystem accepted : Bool) :
    StateCallback × Bool :=
  if !isSystem then (s, false)
  else if s.callback.isSome then (s, false)
  else
    let s := { s with callback := some callback }
    if !s.isProxyObject callback then (s, false)
    else ({ s with hasDeathRecipient := true }.addDeathRecipient callback accepted, true)

def unregisterCallbackInner (s : StateCallback) : StateCallback := { s with callback := none }

/-- A client dies. The recipient is told if it is attached, and does not ask by whom. -/
def clientDied (s : StateCallback) (callback : ℕ) : StateCallback :=
  let t := { s with
    died := callback :: s.died
    attached := s.attached.filter fun other => other ≠ callback }
  if callback ∈ s.attached then t.unregisterCallbackInner else t

end StateCallback

/-- A registration with the caller's right to it and the answer of `AddDeathRecipient` should it
be asked, or the death of a client. -/
inductive StateCallbackEvent where
  | registerCallback (callback : ℕ) (isSystem accepted : Bool)
  | clientDied (callback : ℕ)
  deriving DecidableEq, Repr

namespace StateCallback

variable {s t : StateCallback}

@[simp] theorem addDeathRecipient_callback (s : StateCallback) (callback : ℕ) (accepted : Bool) :
    (s.addDeathRecipient callback accepted).callback = s.callback := by
  rw [addDeathRecipient]
  split <;> rfl

theorem mem_addDeathRecipient (s : StateCallback) (callback other : ℕ) (accepted : Bool) :
    other ∈ (s.addDeathRecipient callback accepted).attached ↔
      other = callback ∧ accepted = true ∧ callback ∉ s.died ∨ other ∈ s.attached := by
  by_cases htaken : accepted = true ∧ callback ∉ s.died
  · simp [addDeathRecipient, htaken]
  · simp [addDeathRecipient, htaken]

def step (s : StateCallback) : StateCallbackEvent → Option StateCallback
  | .registerCallback callback isSystem accepted =>
    some (s.registerCallbackInner callback isSystem accepted).1
  | .clientDied callback => if callback ∈ s.died then none else some (s.clientDied callback)

def Valid (s : StateCallback) (callback : ℕ) : Prop :=
  s.isProxyObject callback = true ∧ callback ∉ s.died

theorem valid_addDeathRecipient (s : StateCallback) (callback other : ℕ) (accepted : Bool) :
    (s.addDeathRecipient callback accepted).Valid other ↔ s.Valid other := by
  rw [addDeathRecipient]
  split <;> rfl

def Monitored (s : StateCallback) : Prop := ∀ callback, s.callback = some callback →
  callback ∈ s.attached

/-- Only a valid callback can keep another one out. -/
def Available (s : StateCallback) : Prop :=
  (∀ callback, s.callback = some callback → ¬ s.Valid callback) →
    ∀ other accepted, s.Valid other → (s.registerCallbackInner other true accepted).2 = true

def Atomic (s : StateCallback) : StateCallbackEvent → Prop
  | .registerCallback callback isSystem accepted =>
    (s.registerCallbackInner callback isSystem accepted).2 = false →
      (s.registerCallbackInner callback isSystem accepted).1.callback = s.callback
  | .clientDied _ => True

/-- The step is atomic, and what it leaves behind is monitored and open to valid callbacks. -/
structure Lawful (s : StateCallback) (e : StateCallbackEvent) : Prop where
  atomic : s.Atomic e
  after : ∀ t, s.step e = some t → t.Monitored ∧ t.Available

/-- Whoever finds the place free is a proxy, and takes the recipient. -/
def ValidWhenFree (s : StateCallback) : StateCallbackEvent → Prop
  | .registerCallback callback isSystem accepted =>
    isSystem = true → s.callback = none → s.Valid callback ∧ accepted = true
  | .clientDied _ => True

/-- The recipient is attached to the registered callback and to nothing else. -/
structure Sound (s : StateCallback) : Prop where
  attached : ∀ callback, callback ∈ s.attached ↔ s.callback = some callback
  valid : ∀ callback, s.callback = some callback → s.Valid callback

theorem Sound.monitored (h : s.Sound) : s.Monitored := fun callback => (h.attached callback).mpr

theorem Sound.available (h : s.Sound) : s.Available := by
  intro hnone other accepted hother
  cases hc : s.callback with
  | none => simp [registerCallbackInner, hc, hother.1]
  | some callback => exact absurd (h.valid callback hc) (hnone callback hc)

theorem registerCallbackInner_cases (s : StateCallback) (callback : ℕ)
    (isSystem accepted : Bool) :
    (isSystem = true → s.callback ≠ none) ∧
        s.registerCallbackInner callback isSystem accepted = (s, false) ∨
      isSystem = true ∧ s.callback = none ∧ s.isProxyObject callback = false ∧
        s.registerCallbackInner callback isSystem accepted =
          ({ s with callback := some callback }, false) ∨
      isSystem = true ∧ s.callback = none ∧ s.isProxyObject callback = true ∧
        s.registerCallbackInner callback isSystem accepted =
          ({ s with callback := some callback, hasDeathRecipient := true }.addDeathRecipient
            callback accepted, true) := by
  cases isSystem with
  | false => exact .inl ⟨by simp, by simp [registerCallbackInner]⟩
  | true =>
    cases hc : s.callback with
    | some other => exact .inl ⟨by simp, by simp [registerCallbackInner, hc]⟩
    | none =>
      cases hp : s.isProxyObject callback with
      | false => exact .inr (.inl ⟨rfl, rfl, rfl, by simp [registerCallbackInner, hc, hp]⟩)
      | true => exact .inr (.inr ⟨rfl, rfl, rfl, by simp [registerCallbackInner, hc, hp]⟩)

theorem sound_register (h : s.Sound) {callback : ℕ} {isSystem accepted : Bool}
    (hvalid : s.ValidWhenFree (.registerCallback callback isSystem accepted)) :
    (s.registerCallbackInner callback isSystem accepted).1.Sound := by
  rcases registerCallbackInner_cases s callback isSystem accepted with
    ⟨_, hr⟩ | ⟨hsys, hfree, hproxy, hr⟩ | ⟨hsys, hfree, hproxy, hr⟩
  · rw [hr]
    exact h
  · have hv := (hvalid hsys hfree).1.1
    rw [hproxy] at hv
    contradiction
  · obtain ⟨⟨_, halive⟩, haccepted⟩ := hvalid hsys hfree
    have hnone : s.attached = [] := by
      apply List.eq_nil_iff_forall_not_mem.mpr
      intro other hother
      have := (h.attached other).mp hother
      simp [hfree] at this
    rw [hr]
    constructor
    · intro other
      simp [mem_addDeathRecipient, haccepted, halive, hnone, eq_comm]
    · intro other hother
      obtain rfl : callback = other := by simpa using hother
      exact (valid_addDeathRecipient ..).mpr ⟨hproxy, halive⟩

theorem sound_clientDied (h : s.Sound) (callback : ℕ) : (s.clientDied callback).Sound := by
  by_cases hmem : callback ∈ s.attached
  · have hc := (h.attached callback).mp hmem
    constructor
    · intro other
      simp only [clientDied, hmem, if_true, unregisterCallbackInner, List.mem_filter,
        decide_eq_true_eq, reduceCtorEq, iff_false, not_and, not_not]
      intro hother
      have := (h.attached other).mp hother
      exact Option.some.inj (this.symm.trans hc)
    · intro other hother
      simp [clientDied, hmem, unregisterCallbackInner] at hother
  · have hne : ∀ other, s.callback = some other → other ≠ callback := by
      rintro other hother rfl
      exact hmem ((h.attached other).mpr hother)
    constructor
    · intro other
      simp only [clientDied, hmem, if_false, List.mem_filter, decide_eq_true_eq]
      rw [h.attached other]
      exact ⟨And.left, fun hother => ⟨hother, hne other hother⟩⟩
    · intro other hother
      simp only [clientDied, hmem, if_false] at hother ⊢
      obtain ⟨hproxy, halive⟩ := h.valid other hother
      exact ⟨hproxy, by simp [hne other hother, halive]⟩

theorem sound_step (h : s.Sound) {e : StateCallbackEvent} (hvalid : s.ValidWhenFree e)
    (ht : s.step e = some t) : t.Sound := by
  cases e with
  | registerCallback callback isSystem accepted =>
    obtain rfl := Option.some.inj ht
    exact sound_register h hvalid
  | clientDied callback =>
    simp only [step] at ht
    split at ht
    · contradiction
    · obtain rfl := Option.some.inj ht
      exact sound_clientDied h callback

theorem lawful_iff (h : s.Sound) (e : StateCallbackEvent) : s.Lawful e ↔ s.ValidWhenFree e := by
  constructor
  · rintro ⟨hatomic, hafter⟩
    cases e with
    | clientDied callback => trivial
    | registerCallback callback isSystem accepted =>
      intro hsys hfree
      have hnot : callback ∉ s.attached := by simp [h.attached, hfree]
      rcases registerCallbackInner_cases s callback isSystem accepted with
        ⟨hheld, _⟩ | ⟨_, _, _, hr⟩ | ⟨_, _, hproxy, hr⟩
      · exact absurd hfree (hheld hsys)
      · simp [Atomic, hr, hfree] at hatomic
      · -- a proxy that takes no recipient would stand there unmonitored
        have hmon := (hafter _ rfl).1
        rw [hr] at hmon
        have htaken := (mem_addDeathRecipient ..).mp (hmon callback (by simp))
        obtain ⟨_, haccepted, halive⟩ := htaken.resolve_right hnot
        exact ⟨⟨hproxy, halive⟩, haccepted⟩
  · intro hvalid
    refine ⟨?_, ?_⟩
    · cases e with
      | clientDied callback => trivial
      | registerCallback callback isSystem accepted =>
        intro hans
        rcases registerCallbackInner_cases s callback isSystem accepted with
          ⟨_, hr⟩ | ⟨hsys, hfree, hproxy, _⟩ | ⟨_, _, _, hr⟩
        · rw [hr]
        · have hv := (hvalid hsys hfree).1.1
          rw [hproxy] at hv
          contradiction
        · simp [hr] at hans
    · intro t ht
      have hsound := sound_step h hvalid ht
      exact ⟨hsound.monitored, hsound.available⟩

def start (isProxyObject : ℕ → Bool) : StateCallback := { isProxyObject := isProxyObject }

theorem sound_start (isProxyObject : ℕ → Bool) : (start isProxyObject).Sound := by
  constructor <;> simp [start]

/-- A run is lawful exactly if every caller that finds the place free is a proxy of a living client
which takes the recipient. -/
theorem registrations_lawful_iff (isProxyObject : ℕ → Bool) (events : List StateCallbackEvent) :
    Runs.Always step Lawful (start isProxyObject) events ↔
      Runs.Always step ValidWhenFree (start isProxyObject) events := by
  refine Runs.always_iff (J := Sound) (P := fun _ => True) ?_ ?_ (sound_start _) (by simp)
  · intro s e t hs _ hvalid ht
    exact sound_step hs hvalid ht
  · intro s e hs _
    exact lawful_iff hs e

/-- A stub of the service's own process is refused, and yet keeps every later proxy out. -/
theorem refused_stub_occupies :
    ¬ Runs.Always step Lawful (start fun callback => callback ≠ 0) [.registerCallback 0 true true] ∧
      (Runs.run step (start fun callback => callback ≠ 0) [.registerCallback 0 true true]).map
        (fun s => (s.registerCallbackInner 1 true true).2) = some false := by
  constructor
  · intro hlawful
    have hatomic := hlawful.1.atomic
    simp [Atomic, registerCallbackInner, start] at hatomic
  · rfl

end StateCallback

end DisplayPowerMgr
