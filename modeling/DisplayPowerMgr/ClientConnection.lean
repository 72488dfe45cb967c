import DisplayPowerMgr.MultiScreen
import DisplayPowerMgr.Library.Runs

/-! How `DisplayPowerMgrClient` holds on to the service. `GetProxy` looks the service up, attaches
a death recipient and stores the proxy, all of it under `mutex_`; `OnRemoteDied` takes the same
mutex and forgets a proxy whose object died. Between any two of these steps the service may die,
and be started again. -/
namespace DisplayPowerMgr

/-- How far the thread inside `GetProxy` has come; nobody holds `mutex_` when it is idle. -/
inductive GetProxyPhase where
  | idle
  | found (obj : ℕ)
  | recipientAdded (obj dr : ℕ)
  deriving DecidableEq, Repr

/-- The client, and after `answers` what lies outside of it: every start of the service makes a new
object, of which only the last can be running; the ability manager may be slow to learn which. A
recipient is attached to one object, and becomes a notice on its way when that object dies. -/
structure ClientConnection where
  proxy : Option ℕ := none
  deathRecipient : Option ℕ := none
  lastError : DisplayErrors := .ok
  phase : GetProxyPhase := .idle
  recipients : ℕ := 0
  answers : List (Option ℕ) := []
  isProxyObject : ℕ → Bool := fun _ => true
  started : ℕ := 0
  running : Option ℕ := none
  hasAbilityManager : Bool := true
  ability : Option ℕ := none
  attached : List (ℕ × ℕ) := []
  notices : List (ℕ × ℕ) := []

namespace ClientConnection

/-! ## The client -/

/-- `GetProxy` returns, and the mutex with it. -/
def answer (s : ClientConnection) (proxy : Option ℕ) : ClientConnection :=
  { s with phase := .idle, answers := s.answers ++ [proxy] }

def fail (s : ClientConnection) : ClientConnection :=
  { s with lastError := .connectionFail }.answer none

/-- `GetProxy` up to `CheckSystemAbility`. -/
def getProxy (s : ClientConnection) : ClientConnection :=
  match s.proxy with
  | some obj => s.answer (some obj)
  | none =>
    if !s.hasAbilityManager then s.fail
    else
      match s.ability with
      | none => s.fail
      | some obj => { s with phase := .found obj }

/-- An object of the client's own process needs no recipient, any other answers `accepted`. One that
died unnoticed may take the recipient still, and has the notice sent at once. -/
def addDeathRecipient (s : ClientConnection) (obj : ℕ) (accepted : Bool) : ClientConnection :=
  let dr := s.recipients
  let s := { s with recipients := dr + 1 }
  if !s.isProxyObject obj then { s with phase := .recipientAdded obj dr }
  else if !accepted then s.fail
  else if s.running = some obj then
    { s with attached := (obj, dr) :: s.attached, phase := .recipientAdded obj dr }
  else { s with notices := s.notices ++ [(obj, dr)], phase := .recipientAdded obj dr }

def storeProxy (s : ClientConnection) (obj dr : ℕ) : ClientConnection :=
  { s with proxy := some obj, deathRecipient := some dr }.answer (some obj)

def removeDeathRecipient (s : ClientConnection) (obj : ℕ) : ClientConnection :=
  { s with attached := s.attached.filter fun a => ¬ (a.1 = obj ∧ s.deathRecipient = some a.2) }

def onRemoteDied (s : ClientConnection) (remote : ℕ) : ClientConnection :=
  match s.proxy with
  | none => s
  | some obj => if obj = remote then { s.removeDeathRecipient obj with proxy := none } else s

def getError (s : ClientConnection) : ClientConnection × DisplayErrors :=
  ({ s with lastError := .ok }, s.lastError)

/-! ## The service and its object -/

def start (s : ClientConnection) : ClientConnection :=
  { s with running := some s.started, started := s.started + 1 }

def die (s : ClientConnection) (obj : ℕ) : ClientConnection :=
  { s with
    running := none
    attached := s.attached.filter fun a => a.1 ≠ obj
    notices := s.notices ++ s.attached.filter fun a => a.1 = obj }

end ClientConnection

/-- One step of a thread of the client, of the service or of the ability manager. A call that
reports stores the error that the service sent along. -/
inductive ConnectionEvent where
  | getProxy
  | addDeathRecipient (accepted : Bool)
  | storeProxy
  | onRemoteDied (remote dr : ℕ)
  | getError
  | report (displayError : DisplayErrors)
  | start
  | die
  | publish
  | withdraw
  | abilityManager (present : Bool)
  deriving DecidableEq, Repr

namespace ClientConnection

/-- Whoever needs the mutex waits until it is free. -/
def step (s : ClientConnection) : ConnectionEvent → Option ClientConnection
  | .getProxy => if s.phase = .idle then some s.getProxy else none
  | .addDeathRecipient accepted =>
    match s.phase with
    | .found obj => some (s.addDeathRecipient obj accepted)
    | _ => none
  | .storeProxy =>
    match s.phase with
    | .recipientAdded obj dr => some (s.storeProxy obj dr)
    | _ => none
  | .onRemoteDied remote dr =>
    if s.phase = .idle ∧ s.notices.contains (remote, dr) then
      some ({ s with notices := s.notices.erase (remote, dr) }.onRemoteDied remote)
    else none
  | .getError => some s.getError.1
  | .report displayError => some { s with lastError := displayError }
  | .start => if s.running = none then some s.start else none
  | .die =>
    match s.running with
    | some obj => if s.isProxyObject obj then some (s.die obj) else none
    | none => none
  | .publish => if s.running = none then none else some { s with ability := s.running }
  | .withdraw => some { s with ability := none }
  | .abilityManager present => some { s with hasAbilityManager := present }

/-- What a step can do, and when. -/
inductive Steps (s : ClientConnection) : ConnectionEvent → ClientConnection → Prop where
  | getProxy (hidle : s.phase = .idle) : Steps s .getProxy s.getProxy
  | addDeathRecipient {obj : ℕ} (accepted : Bool) (hfound : s.phase = .found obj) :
    Steps s (.addDeathRecipient accepted) (s.addDeathRecipient obj accepted)
  | storeProxy {obj dr : ℕ} (hadded : s.phase = .recipientAdded obj dr) :
    Steps s .storeProxy (s.storeProxy obj dr)
  | onRemoteDied {remote dr : ℕ} (hidle : s.phase = .idle) (hnotice : (remote, dr) ∈ s.notices) :
    Steps s (.onRemoteDied remote dr)
      ({ s with notices := s.notices.erase (remote, dr) }.onRemoteDied remote)
  | getError : Steps s .getError { s with lastError := .ok }
  | report (displayError : DisplayErrors) :
    Steps s (.report displayError) { s with lastError := displayError }
  | start (hdown : s.running = none) : Steps s .start s.start
  | die {obj : ℕ} (hrunning : s.running = some obj) (hremote : s.isProxyObject obj = true) :
    Steps s .die (s.die obj)
  | publish {obj : ℕ} (hrunning : s.running = some obj) :
    Steps s .publish { s with ability := s.running }
  | withdraw : Steps s .withdraw { s with ability := none }
  | abilityManager (present : Bool) :
    Steps s (.abilityManager present) { s with hasAbilityManager := present }

variable {s t : ClientConnection}

theorem steps_of_step {e : ConnectionEvent} (ht : s.step e = some t) : Steps s e t := by
  cases e with
  | getProxy =>
    simp only [step] at ht
    split at ht
    · obtain rfl := Option.some.inj ht
      exact .getProxy ‹_›
    · cases ht
  | addDeathRecipient accepted =>
    simp only [step] at ht
    split at ht
    · obtain rfl := Option.some.inj ht
      exact .addDeathRecipient accepted ‹_›
    · cases ht
  | storeProxy =>
    simp only [step] at ht
    split at ht
    · obtain rfl := Option.some.inj ht
      exact .storeProxy ‹_›
    · cases ht
  | onRemoteDied remote dr =>
    simp only [step] at ht
    split at ht
    · rename_i hfree
      obtain rfl := Option.some.inj ht
      exact .onRemoteDied hfree.1 (List.contains_iff_mem.mp hfree.2)
    · cases ht
  | getError => exact Option.some.inj ht ▸ .getError
  | report displayError => exact Option.some.inj ht ▸ .report displayError
  | start =>
    simp only [step] at ht
    split at ht
    · obtain rfl := Option.some.inj ht
      exact .start ‹_›
    · cases ht
  | die =>
    simp only [step] at ht
    split at ht
    · split at ht
      · obtain rfl := Option.some.inj ht
        exact .die ‹_› ‹_›
      · cases ht
    · cases ht
  | publish =>
    simp only [step] at ht
    split at ht
    · cases ht
    · rename_i hup
      obtain ⟨obj, hrunning⟩ := Option.ne_none_iff_exists'.mp hup
      obtain rfl := Option.some.inj ht
      exact .publish hrunning
  | withdraw => exact Option.some.inj ht ▸ .withdraw
  | abilityManager present => exact Option.some.inj ht ▸ .abilityManager present

/-! ## Every held proxy is watched -/

/-- The object that the client holds, or is about to store, with the recipient made for it. -/
def Holds (s : ClientConnection) (obj dr : ℕ) : Prop :=
  s.proxy = some obj ∧ s.deathRecipient = some dr ∨ s.phase = .recipientAdded obj dr

/-- What every step keeps: the recipients attached to the running object are the one of the held
proxy, and a proxy whose object no longer runs has its notice on the way. -/
structure Watched (s : ClientConnection) : Prop where
  busy : s.phase ≠ .idle → s.proxy = none
  hasRecipient : s.proxy ≠ none → s.deathRecipient ≠ none
  running_lt : ∀ obj, s.running = some obj → obj < s.started
  ability_lt : ∀ obj, s.ability = some obj → obj < s.started
  found_lt : ∀ obj, s.phase = .found obj → obj < s.started
  holds_lt : ∀ obj dr, s.Holds obj dr → obj < s.started
  own : ∀ obj, obj < s.started → s.isProxyObject obj = false → s.running = some obj
  attached : ∀ obj dr, (obj, dr) ∈ s.attached ↔
    s.Holds obj dr ∧ s.isProxyObject obj = true ∧ s.running = some obj
  told : ∀ obj dr, (obj, dr) ∈ s.notices → obj < s.started ∧ s.running ≠ some obj
  noticed : ∀ obj dr, s.Holds obj dr → s.running ≠ some obj → (obj, dr) ∈ s.notices

theorem holds_of_proxy (h : s.Watched) {obj : ℕ} (hp : s.proxy = some obj) :
    ∃ dr, s.Holds obj dr := by
  obtain ⟨dr, hdr⟩ := Option.ne_none_iff_exists'.mp (h.hasRecipient (by simp [hp]))
  exact ⟨dr, .inl ⟨hp, hdr⟩⟩

theorem not_holds (hp : s.proxy = none) (hphase : ∀ obj dr, s.phase ≠ .recipientAdded obj dr)
    (obj dr : ℕ) : ¬ s.Holds obj dr := by
  rintro (⟨hproxy, _⟩ | hadded)
  · simp [hp] at hproxy
  · exact hphase obj dr hadded

theorem Watched.attached_nil (h : s.Watched) (hnone : ∀ obj dr, ¬ s.Holds obj dr) :
    s.attached = [] := by
  apply List.eq_nil_iff_forall_not_mem.mpr
  rintro ⟨obj, dr⟩ hmem
  exact hnone obj dr ((h.attached obj dr).mp hmem).1

theorem Watched.answer (h : s.Watched) (hphase : ∀ obj dr, s.phase ≠ .recipientAdded obj dr)
    (proxy : Option ℕ) : (s.answer proxy).Watched := by
  have hiff : ∀ obj dr, (s.answer proxy).Holds obj dr ↔ s.Holds obj dr := by
    intro obj dr
    simp [Holds, ClientConnection.answer, hphase obj dr]
  constructor
  · simp [ClientConnection.answer]
  · exact h.hasRecipient
  · exact h.running_lt
  · exact h.ability_lt
  · simp [ClientConnection.answer]
  · intro obj dr hheld
    exact h.holds_lt obj dr ((hiff obj dr).mp hheld)
  · exact h.own
  · intro obj dr
    rw [hiff]
    exact h.attached obj dr
  · exact h.told
  · intro obj dr hheld
    exact h.noticed obj dr ((hiff obj dr).mp hheld)

theorem Watched.lastError (h : s.Watched) (error : DisplayErrors) :
    { s with lastError := error }.Watched :=
  ⟨h.busy, h.hasRecipient, h.running_lt, h.ability_lt, h.found_lt, h.holds_lt, h.own, h.attached,
    h.told, h.noticed⟩

theorem Watched.fail (h : s.Watched) (hphase : ∀ obj dr, s.phase ≠ .recipientAdded obj dr) :
    s.fail.Watched :=
  (h.lastError .connectionFail).answer hphase none

theorem Watched.getProxy (h : s.Watched) (hidle : s.phase = .idle) : s.getProxy.Watched := by
  have hphase : ∀ obj dr, s.phase ≠ .recipientAdded obj dr := by simp [hidle]
  rw [ClientConnection.getProxy]
  split
  · exact h.answer hphase _
  · rename_i hproxy
    split
    · exact h.fail hphase
    · split
      · exact h.fail hphase
      · rename_i obj hability
        have hnone := not_holds hproxy hphase
        have hnone' : ∀ other dr, ¬ { s with phase := .found obj }.Holds other dr :=
          not_holds hproxy (by simp)
        constructor
        · exact fun _ => hproxy
        · exact h.hasRecipient
        · exact h.running_lt
        · exact h.ability_lt
        · rintro other hfound
          obtain rfl : obj = other := by simpa using hfound
          exact h.ability_lt obj hability
        · exact fun other dr hheld => absurd hheld (hnone' other dr)
        · exact h.own
        · intro other dr
          rw [h.attached_nil hnone]
          exact iff_of_false List.not_mem_nil fun hall => hnone' other dr hall.1
        · exact h.told
        · exact fun other dr hheld => absurd hheld (hnone' other dr)

/-- The recipient goes to a running object, and is attached unless the object is of the client's
own process, which cannot die before the client does. -/
theorem Watched.recipientAdded (h : s.Watched) (hproxy : s.proxy = none) {obj : ℕ}
    (hrunning : s.running = some obj) {attached : List (ℕ × ℕ)}
    (hattached : ∀ a, a ∈ attached ↔ a = (obj, s.recipients) ∧ s.isProxyObject obj = true) :
    { s with
      recipients := s.recipients + 1
      attached := attached
      phase := .recipientAdded obj s.recipients }.Watched := by
  have hheld : ∀ other dr, { s with
      recipients := s.recipients + 1
      attached := attached
      phase := .recipientAdded obj s.recipients }.Holds other dr ↔
        (other, dr) = (obj, s.recipients) := by
    intro other dr
    simp [Holds, hproxy, eq_comm]
  constructor
  · exact fun _ => hproxy
  · exact h.hasRecipient
  · exact h.running_lt
  · exact h.ability_lt
  · simp
  · intro other dr hother
    obtain ⟨rfl, rfl⟩ := Prod.mk.inj ((hheld other dr).mp hother)
    exact h.running_lt other hrunning
  · exact h.own
  · intro other dr
    rw [hheld, hattached]
    constructor
    · rintro ⟨hpair, hremote⟩
      obtain ⟨rfl, rfl⟩ := Prod.mk.inj hpair
      exact ⟨rfl, hremote, hrunning⟩
    · rintro ⟨hpair, hremote, _⟩
      obtain ⟨rfl, rfl⟩ := Prod.mk.inj hpair
      exact ⟨rfl, hremote⟩
  · exact h.told
  · intro other dr hother hdead
    obtain ⟨rfl, rfl⟩ := Prod.mk.inj ((hheld other dr).mp hother)
    exact absurd hrunning hdead

theorem Watched.toldAtOnce (h : s.Watched) (hproxy : s.proxy = none)
    (hnone : ∀ other dr, ¬ s.Holds other dr) {obj : ℕ} (hknown : obj < s.started)
    (hdead : s.running ≠ some obj) :
    { s with
      recipients := s.recipients + 1
      notices := s.notices ++ [(obj, s.recipients)]
      phase := .recipientAdded obj s.recipients }.Watched := by
  have hheld : ∀ other dr, { s with
      recipients := s.recipients + 1
      notices := s.notices ++ [(obj, s.recipients)]
      phase := .recipientAdded obj s.recipients }.Holds other dr ↔
        (other, dr) = (obj, s.recipients) := by
    intro other dr
    simp [Holds, hproxy, eq_comm]
  constructor
  · exact fun _ => hproxy
  · exact h.hasRecipient
  · exact h.running_lt
  · exact h.ability_lt
  · simp
  · intro other dr hother
    obtain ⟨rfl, rfl⟩ := Prod.mk.inj ((hheld other dr).mp hother)
    exact hknown
  · exact h.own
  · intro other dr
    rw [hheld, h.attached_nil hnone]
    refine iff_of_false List.not_mem_nil ?_
    rintro ⟨hpair, _, hrunning⟩
    obtain ⟨rfl, rfl⟩ := Prod.mk.inj hpair
    exact hdead hrunning
  · intro other dr hmem
    rcases List.mem_append.mp hmem with hold | hnew
    · exact h.told other dr hold
    · obtain ⟨rfl, rfl⟩ := Prod.mk.inj (List.mem_singleton.mp hnew)
      exact ⟨hknown, hdead⟩
  · intro other dr hother _
    exact List.mem_append_right _ (List.mem_singleton.mpr ((hheld other dr).mp hother))

theorem Watched.addDeathRecipient (h : s.Watched) {obj : ℕ} (hfound : s.phase = .found obj)
    (accepted : Bool) : (s.addDeathRecipient obj accepted).Watched := by
  have hphase : ∀ other dr, s.phase ≠ .recipientAdded other dr := by simp [hfound]
  have hproxy := h.busy (by simp [hfound])
  have hnil := h.attached_nil (not_holds hproxy hphase)
  rw [ClientConnection.addDeathRecipient]
  split
  · rename_i hlocal
    have hrunning := h.own obj (h.found_lt obj hfound) (by simpa using hlocal)
    refine h.recipientAdded hproxy hrunning ?_
    intro a
    rw [hnil]
    refine iff_of_false List.not_mem_nil fun hall => ?_
    simp [hall.2] at hlocal
  · rename_i hremote
    split
    · refine Watched.fail (s := { s with recipients := s.recipients + 1 }) ?_ hphase
      exact ⟨h.busy, h.hasRecipient, h.running_lt, h.ability_lt, h.found_lt, h.holds_lt, h.own,
        h.attached, h.told, h.noticed⟩
    · split
      · rename_i hrunning
        refine h.recipientAdded hproxy hrunning ?_
        intro a
        rw [hnil, List.mem_singleton]
        exact (and_iff_left (by simpa using hremote)).symm
      · rename_i hdead
        exact h.toldAtOnce hproxy (not_holds hproxy hphase) (h.found_lt obj hfound) hdead

theorem Watched.storeProxy (h : s.Watched) {obj dr : ℕ}
    (hadded : s.phase = .recipientAdded obj dr) :
    (s.storeProxy obj dr).Watched := by
  have hproxy := h.busy (by simp [hadded])
  have hiff : ∀ other dr', (s.storeProxy obj dr).Holds other dr' ↔ s.Holds other dr' := by
    intro other dr'
    simp [Holds, ClientConnection.storeProxy, ClientConnection.answer, hproxy, hadded]
  constructor
  · simp [ClientConnection.storeProxy, ClientConnection.answer]
  · simp [ClientConnection.storeProxy, ClientConnection.answer]
  · exact h.running_lt
  · exact h.ability_lt
  · simp [ClientConnection.storeProxy, ClientConnection.answer]
  · intro other dr' hheld
    exact h.holds_lt other dr' ((hiff other dr').mp hheld)
  · exact h.own
  · intro other dr'
    rw [hiff]
    exact h.attached other dr'
  · exact h.told
  · intro other dr' hheld
    exact h.noticed other dr' ((hiff other dr').mp hheld)

/-- A notice of the held object takes the proxy away; one of an older object changes nothing. -/
theorem Watched.remoteDied (h : s.Watched) (hidle : s.phase = .idle) {remote dr : ℕ}
    (hnotice : (remote, dr) ∈ s.notices) :
    ({ s with notices := s.notices.erase (remote, dr) }.onRemoteDied remote).Watched := by
  have hphase : ∀ other dr', s.phase ≠ .recipientAdded other dr' := by simp [hidle]
  obtain ⟨hlt, hdead⟩ := h.told remote dr hnotice
  have htold : ∀ other dr', (other, dr') ∈ s.notices.erase (remote, dr) →
      other < s.started ∧ s.running ≠ some other :=
    fun other dr' hmem => h.told other dr' (List.mem_of_mem_erase hmem)
  rw [ClientConnection.onRemoteDied]
  split
  · rename_i hproxy
    refine ⟨h.busy, h.hasRecipient, h.running_lt, h.ability_lt, h.found_lt, h.holds_lt, h.own,
      h.attached, htold, ?_⟩
    exact fun other dr' hheld => absurd hheld (not_holds hproxy hphase other dr')
  · rename_i obj hproxy
    split
    · rename_i heq
      subst heq
      have hnone : ∀ other dr',
          ¬ { { s with notices := s.notices.erase (obj, dr) }.removeDeathRecipient obj with
            proxy := none }.Holds other dr' := not_holds rfl hphase
      have hnil : s.attached = [] := by
        apply List.eq_nil_iff_forall_not_mem.mpr
        rintro ⟨other, dr'⟩ hmem
        obtain ⟨hheld | hadded, _, hrunning⟩ := (h.attached other dr').mp hmem
        · obtain rfl : obj = other := Option.some.inj (hproxy.symm.trans hheld.1)
          exact hdead hrunning
        · exact hphase other dr' hadded
      constructor
      · simp [hidle, removeDeathRecipient]
      · simp
      · exact h.running_lt
      · exact h.ability_lt
      · exact h.found_lt
      · exact fun other dr' hheld => absurd hheld (hnone other dr')
      · exact h.own
      · intro other dr'
        refine iff_of_false ?_ fun hall => hnone other dr' hall.1
        simp [removeDeathRecipient, hnil]
      · exact htold
      · exact fun other dr' hheld => absurd hheld (hnone other dr')
    · rename_i hne
      refine ⟨h.busy, h.hasRecipient, h.running_lt, h.ability_lt, h.found_lt, h.holds_lt, h.own,
        h.attached, htold, ?_⟩
      rintro other dr' (hheld | hadded) hother
      · obtain rfl : obj = other := Option.some.inj (hproxy.symm.trans hheld.1)
        exact (List.mem_erase_of_ne (by simp [hne])).mpr (h.noticed obj dr' (.inl hheld) hother)
      · exact absurd hadded (hphase other dr')

theorem Watched.start (h : s.Watched) (hdown : s.running = none) : s.start.Watched := by
  have hnew : ∀ obj, s.start.running = some obj ↔ s.started = obj := by
    simp [ClientConnection.start]
  constructor
  · exact h.busy
  · exact h.hasRecipient
  · intro obj hrunning
    have := (hnew obj).mp hrunning
    change obj < s.started + 1
    omega
  · exact fun obj hability => (h.ability_lt obj hability).trans (Nat.lt_succ_self _)
  · exact fun obj hfound => (h.found_lt obj hfound).trans (Nat.lt_succ_self _)
  · exact fun obj dr hheld => (h.holds_lt obj dr hheld).trans (Nat.lt_succ_self _)
  · intro obj hlt hlocal
    rcases Nat.lt_succ_iff_lt_or_eq.mp hlt with hold | rfl
    · have := h.own obj hold hlocal
      simp [hdown] at this
    · rfl
  · intro obj dr
    refine iff_of_false ?_ ?_
    · intro hmem
      have := ((h.attached obj dr).mp hmem).2.2
      simp [hdown] at this
    · rintro ⟨hheld, _, hrunning⟩
      have := (hnew obj).mp hrunning
      have := h.holds_lt obj dr hheld
      omega
  · intro obj dr hmem
    obtain ⟨hlt, _⟩ := h.told obj dr hmem
    refine ⟨hlt.trans (Nat.lt_succ_self _), fun hrunning => ?_⟩
    have := (hnew obj).mp hrunning
    omega
  · exact fun obj dr hheld _ => h.noticed obj dr hheld (by simp [hdown])

theorem Watched.die (h : s.Watched) {obj : ℕ} (hrunning : s.running = some obj)
    (hremote : s.isProxyObject obj = true) : (s.die obj).Watched := by
  have hmem : ∀ other dr, (other, dr) ∈ (s.die obj).notices ↔
      (other, dr) ∈ s.notices ∨ (other, dr) ∈ s.attached ∧ other = obj := by
    simp [ClientConnection.die]
  constructor
  · exact h.busy
  · exact h.hasRecipient
  · simp [ClientConnection.die]
  · exact h.ability_lt
  · exact h.found_lt
  · exact h.holds_lt
  · intro other hlt hlocal
    have := h.own other hlt hlocal
    obtain rfl : obj = other := Option.some.inj (hrunning.symm.trans this)
    exact absurd hremote (by simp [show s.isProxyObject obj = false from hlocal])
  · intro other dr
    refine iff_of_false ?_ (by simp [ClientConnection.die])
    intro hkept
    simp only [ClientConnection.die, List.mem_filter, decide_eq_true_eq] at hkept
    have := ((h.attached other dr).mp hkept.1).2.2
    exact hkept.2 (Option.some.inj (this.symm.trans hrunning))
  · intro other dr hnotice
    refine ⟨?_, by simp [ClientConnection.die]⟩
    rcases (hmem other dr).mp hnotice with hold | ⟨_, rfl⟩
    · exact (h.told other dr hold).1
    · exact h.running_lt other hrunning
  · intro other dr hheld _
    rw [hmem]
    by_cases hsame : other = obj
    · subst hsame
      exact .inr ⟨(h.attached other dr).mpr ⟨hheld, hremote, hrunning⟩, rfl⟩
    · refine .inl (h.noticed other dr hheld fun hother => hsame ?_)
      exact Option.some.inj (hother.symm.trans hrunning)

theorem Watched.ability (h : s.Watched) {ability : Option ℕ}
    (hlt : ∀ obj, ability = some obj → obj < s.started) : { s with ability := ability }.Watched :=
  ⟨h.busy, h.hasRecipient, h.running_lt, hlt, h.found_lt, h.holds_lt, h.own, h.attached, h.told,
    h.noticed⟩

theorem watched_step {e : ConnectionEvent} (h : s.Watched) (ht : s.step e = some t) :
    t.Watched := by
  cases steps_of_step ht with
  | getProxy hidle => exact h.getProxy hidle
  | addDeathRecipient accepted hfound => exact h.addDeathRecipient hfound accepted
  | storeProxy hadded => exact h.storeProxy hadded
  | onRemoteDied hidle hnotice => exact h.remoteDied hidle hnotice
  | getError => exact h.lastError .ok
  | report displayError => exact h.lastError displayError
  | start hdown => exact h.start hdown
  | die hrunning hremote => exact h.die hrunning hremote
  | publish _ => exact h.ability h.running_lt
  | withdraw => exact h.ability (by simp)
  | abilityManager present =>
    exact ⟨h.busy, h.hasRecipient, h.running_lt, h.ability_lt, h.found_lt, h.holds_lt, h.own,
      h.attached, h.told, h.noticed⟩

def Fresh (s : ClientConnection) : Prop :=
  ∃ isProxyObject, s = { isProxyObject := isProxyObject }

theorem watched_reachable (h : Runs.Reachable step Fresh s) : s.Watched := by
  refine Runs.reachable_invariant ?_ (fun s e t hs ht => watched_step hs ht) h
  rintro s ⟨isProxyObject, rfl⟩
  constructor <;> simp [Holds]

/-! ## What callers can rely on -/

/-- The service stays where it is while this event happens. -/
def Quiet (e : ConnectionEvent) : Prop :=
  e ≠ .die ∧ e ≠ .withdraw ∧ e ≠ .abilityManager false ∧ e ≠ .addDeathRecipient false

/-- The client is connected to the published service `obj`, or on the way to it. -/
structure Calm (obj : ℕ) (s : ClientConnection) : Prop where
  running : s.running = some obj
  ability : s.ability = some obj
  manager : s.hasAbilityManager = true
  notices : s.notices = []
  proxy : ∀ other, s.proxy = some other → other = obj
  found : ∀ other, s.phase = .found other → other = obj
  added : ∀ other dr, s.phase = .recipientAdded other dr → other = obj

def inside (s : ClientConnection) : ℕ := if s.phase = .idle then 0 else 1

/-- The client went on from `s` to `t` calmly, and answered those calls of the `calls` begun
meanwhile that have returned with the service. -/
def AnswersService (obj : ℕ) (s t : ClientConnection) (calls : ℕ) : Prop :=
  t.Calm obj ∧ ∃ n, t.answers = s.answers ++ List.replicate n (some obj) ∧
    n + t.inside = s.inside + calls

theorem AnswersService.trans {obj m n : ℕ} {u : ClientConnection}
    (hst : AnswersService obj s t m) (htu : AnswersService obj t u n) :
    AnswersService obj s u (m + n) := by
  obtain ⟨_, k, hk, hcount⟩ := hst
  obtain ⟨hcalm, l, hl, hcount'⟩ := htu
  refine ⟨hcalm, k + l, ?_, by omega⟩
  rw [hl, hk, List.append_assoc, List.replicate_add]

theorem Calm.answer {obj : ℕ} (h : s.Calm obj) (calls : ℕ) (hcount : 1 = s.inside + calls) :
    AnswersService obj s (s.answer (some obj)) calls := by
  refine ⟨⟨h.running, h.ability, h.manager, h.notices, h.proxy, ?_, ?_⟩, 1, rfl, ?_⟩
  · simp [ClientConnection.answer]
  · simp [ClientConnection.answer]
  · simpa [ClientConnection.answer, inside] using hcount

theorem Calm.enter {obj : ℕ} (h : s.Calm obj) {phase : GetProxyPhase}
    (hphase : phase = .found obj ∨ ∃ dr, phase = .recipientAdded obj dr)
    {attached : List (ℕ × ℕ)} {recipients calls : ℕ} (hcount : 1 = s.inside + calls) :
    AnswersService obj s
      { s with attached := attached, recipients := recipients, phase := phase } calls := by
  have hbusy : phase ≠ .idle := by
    rcases hphase with rfl | ⟨dr, rfl⟩ <;> simp
  refine ⟨⟨h.running, h.ability, h.manager, h.notices, h.proxy, ?_, ?_⟩, 0, by simp, ?_⟩
  · rintro other rfl
    simpa using hphase
  · rintro other dr rfl
    obtain ⟨_, heq⟩ : ∃ dr', GetProxyPhase.recipientAdded other dr = .recipientAdded obj dr' := by
      simpa using hphase
    exact (GetProxyPhase.recipientAdded.inj heq).1
  · simpa [inside, hbusy] using hcount

theorem calm_getProxy {obj : ℕ} (h : s.Calm obj) (hidle : s.phase = .idle) :
    AnswersService obj s s.getProxy 1 := by
  have hcount : 1 = s.inside + 1 := by simp [inside, hidle]
  rw [getProxy]
  split
  · rename_i other hproxy
    obtain rfl := h.proxy other hproxy
    exact h.answer 1 hcount
  · rw [if_neg (by simp [h.manager])]
    split
    · rename_i hnone
      simp [h.ability] at hnone
    · rename_i other hability
      obtain rfl := Option.some.inj (h.ability.symm.trans hability)
      exact h.enter (.inl rfl) hcount

theorem calm_addDeathRecipient {obj other : ℕ} (h : s.Calm obj) (hfound : s.phase = .found other) :
    AnswersService obj s (s.addDeathRecipient other true) 0 := by
  obtain rfl := h.found other hfound
  have hcount : 1 = s.inside + 0 := by simp [inside, hfound]
  rw [addDeathRecipient]
  split
  · exact h.enter (.inr ⟨_, rfl⟩) hcount
  · rw [if_neg (by simp), if_pos h.running]
    exact h.enter (.inr ⟨_, rfl⟩) hcount

theorem calm_storeProxy {obj other dr : ℕ} (h : s.Calm obj)
    (hadded : s.phase = .recipientAdded other dr) :
    AnswersService obj s (s.storeProxy other dr) 0 := by
  obtain rfl := h.added other dr hadded
  refine Calm.answer (s := { s with proxy := some other, deathRecipient := some dr }) ?_ 0 ?_
  · refine ⟨h.running, h.ability, h.manager, h.notices, ?_, h.found, h.added⟩
    rintro another hproxy
    exact (Option.some.inj hproxy).symm
  · simp [inside, hadded]

theorem Calm.unanswered {obj : ℕ} (h : t.Calm obj) (hanswers : t.answers = s.answers)
    (hinside : t.inside = s.inside) : AnswersService obj s t 0 :=
  ⟨h, 0, by simp [hanswers], by omega⟩

theorem calm_step {obj : ℕ} {e : ConnectionEvent} (h : s.Calm obj) (hquiet : Quiet e)
    (ht : s.step e = some t) : AnswersService obj s t ([e].count .getProxy) := by
  obtain ⟨hdie, hwithdraw, hmanager, hrefused⟩ := hquiet
  cases steps_of_step ht with
  | getProxy hidle => exact calm_getProxy h hidle
  | addDeathRecipient accepted hfound =>
    obtain rfl : accepted = true := by simpa using hrefused
    exact calm_addDeathRecipient h hfound
  | storeProxy hadded => exact calm_storeProxy h hadded
  | onRemoteDied _ hnotice => simp [h.notices] at hnotice
  | getError =>
    refine Calm.unanswered ?_ rfl rfl
    exact ⟨h.running, h.ability, h.manager, h.notices, h.proxy, h.found, h.added⟩
  | report displayError =>
    refine Calm.unanswered ?_ rfl rfl
    exact ⟨h.running, h.ability, h.manager, h.notices, h.proxy, h.found, h.added⟩
  | start hdown => simp [h.running] at hdown
  | die => exact absurd rfl hdie
  | publish _ =>
    refine Calm.unanswered ?_ rfl rfl
    exact ⟨h.running, h.running, h.manager, h.notices, h.proxy, h.found, h.added⟩
  | withdraw => exact absurd rfl hwithdraw
  | abilityManager present =>
    obtain rfl : present = true := by simpa using hmanager
    refine Calm.unanswered ?_ rfl rfl
    exact ⟨h.running, h.ability, rfl, h.notices, h.proxy, h.found, h.added⟩

theorem calm_run {obj : ℕ} {es : List ConnectionEvent} (h : s.Calm obj)
    (hquiet : ∀ e ∈ es, Quiet e) (ht : Runs.run step s es = some t) :
    AnswersService obj s t (es.count .getProxy) := by
  induction es generalizing s with
  | nil =>
    obtain rfl := Option.some.inj ht
    exact ⟨h, 0, by simp, by simp⟩
  | cons e es ih =>
    obtain ⟨u, hu, hut⟩ := Runs.run_cons_some.mp ht
    have hsu := calm_step h (hquiet e (by simp)) hu
    have hut := ih hsu.1 (fun f hf => hquiet f (by simp [hf])) hut
    have hcount : (e :: es).count .getProxy = [e].count .getProxy + es.count .getProxy := by
      rw [← List.count_append, List.singleton_append]
    rw [hcount]
    exact hsu.trans hut

/-- Whatever deaths, restarts and calls went before in whatever order: once the mutex is free and
every death notice has arrived, the client has let go of every dead service, so that as long as the
published service lives each call is answered with it. -/
theorem settled_calls_reach_service (h : Runs.Reachable step Fresh s) (hidle : s.phase = .idle)
    (hsettled : s.notices = []) {obj : ℕ} (hrunning : s.running = some obj)
    (hability : s.ability = some obj) (hmanager : s.hasAbilityManager = true)
    {es : List ConnectionEvent} (hquiet : ∀ e ∈ es, Quiet e) (ht : Runs.run step s es = some t) :
    ∃ n, t.answers = s.answers ++ List.replicate n (some obj) ∧
      n + t.inside = es.count .getProxy := by
  have hw := watched_reachable h
  have hcalm : s.Calm obj := by
    refine ⟨hrunning, hability, hmanager, hsettled, ?_, by simp [hidle], by simp [hidle]⟩
    intro other hproxy
    obtain ⟨dr, hheld⟩ := holds_of_proxy hw hproxy
    by_contra hne
    have hnotice := hw.noticed other dr hheld (by simpa [hrunning] using Ne.symm hne)
    simp [hsettled] at hnotice
  obtain ⟨_, n, hanswers, hcount⟩ := calm_run hcalm hquiet ht
  exact ⟨n, hanswers, by simpa [inside, hidle] using hcount⟩

def restartRun : List ConnectionEvent :=
  [.start, .publish, .getProxy, .addDeathRecipient true, .storeProxy, .die, .start, .publish,
    .onRemoteDied 0 0]

theorem settled_calls_reach_service_restart :
    ∃ s t, Runs.run step {} restartRun = some s ∧
      Runs.run step s [.getProxy, .addDeathRecipient true, .storeProxy, .getProxy] = some t ∧
      ∃ n, t.answers = s.answers ++ List.replicate n (some 1) ∧ n + t.inside = 2 := by
  refine ⟨_, _, rfl, rfl, ?_⟩
  exact @settled_calls_reach_service _ _ ⟨{}, restartRun, ⟨_, rfl⟩, rfl⟩ rfl rfl _ rfl rfl rfl
    [.getProxy, .addDeathRecipient true, .storeProxy, .getProxy] (by simp [Quiet]) rfl

/-- The client heard of the death of `obj`, and does not hold it. -/
structure Told (obj : ℕ) (s : ClientConnection) : Prop where
  known : obj < s.started
  dead : s.running ≠ some obj
  remote : s.isProxyObject obj = true
  proxy : s.proxy ≠ some obj
  added : ∀ dr, s.phase ≠ .recipientAdded obj dr

/-- The client went on from `s` to `t` without `obj`, and answered no call with it. -/
def Avoids (obj : ℕ) (s t : ClientConnection) : Prop :=
  t.Told obj ∧ ∃ later, t.answers = s.answers ++ later ∧ some obj ∉ later

theorem Avoids.trans {obj : ℕ} {u : ClientConnection} (hst : Avoids obj s t)
    (htu : Avoids obj t u) : Avoids obj s u := by
  obtain ⟨_, later, hlater, hnot⟩ := hst
  obtain ⟨htold, later', hlater', hnot'⟩ := htu
  refine ⟨htold, later ++ later', by rw [hlater', hlater, List.append_assoc], ?_⟩
  simp [hnot, hnot']

theorem Told.unanswered {obj : ℕ} (h : t.Told obj) (hanswers : t.answers = s.answers) :
    Avoids obj s t := ⟨h, [], by simp [hanswers], by simp⟩

theorem Told.answer {obj : ℕ} (h : s.Told obj) {proxy : Option ℕ} (hproxy : proxy ≠ some obj) :
    Avoids obj s (s.answer proxy) :=
  ⟨⟨h.known, h.dead, h.remote, h.proxy, by simp [ClientConnection.answer]⟩, [proxy], rfl,
    by simpa using hproxy.symm⟩

theorem Told.fail {obj : ℕ} (h : s.Told obj) : Avoids obj s s.fail :=
  Told.answer (s := { s with lastError := .connectionFail })
    ⟨h.known, h.dead, h.remote, h.proxy, h.added⟩ (by simp)

theorem told_getProxy {obj : ℕ} (h : s.Told obj) : Avoids obj s s.getProxy := by
  rw [getProxy]
  split
  · rename_i other hproxy
    exact h.answer fun heq => h.proxy (hproxy.trans heq)
  · split
    · exact h.fail
    · split
      · exact h.fail
      · refine Told.unanswered ?_ rfl
        exact ⟨h.known, h.dead, h.remote, h.proxy, by simp⟩

/-- The transport takes no recipient for the object. -/
def Refuses (obj : ℕ) (s : ClientConnection) (e : ConnectionEvent) : Prop :=
  s.phase = .found obj → e ≠ .addDeathRecipient true

/-- The ability manager may still hand out the dead object, but without a recipient the client does
not take it. -/
theorem told_addDeathRecipient {obj other : ℕ} (h : s.Told obj) {accepted : Bool}
    (hrefuses : other = obj → accepted = false) :
    Avoids obj s (s.addDeathRecipient other accepted) := by
  have hne (htaken : accepted = true) : other ≠ obj := by
    rintro rfl
    exact Bool.false_ne_true ((hrefuses rfl).symm.trans htaken)
  rw [addDeathRecipient]
  split
  · rename_i hlocal
    have hother : other ≠ obj := by
      rintro rfl
      simp [h.remote] at hlocal
    exact Told.unanswered ⟨h.known, h.dead, h.remote, h.proxy, by simp [hother]⟩ rfl
  · split
    · exact Told.fail (s := { s with recipients := s.recipients + 1 })
        ⟨h.known, h.dead, h.remote, h.proxy, h.added⟩
    · rename_i htaken
      have hother := hne (by simpa using htaken)
      split
      · exact Told.unanswered ⟨h.known, h.dead, h.remote, h.proxy, by simp [hother]⟩ rfl
      · exact Told.unanswered ⟨h.known, h.dead, h.remote, h.proxy, by simp [hother]⟩ rfl

theorem told_storeProxy {obj other dr : ℕ} (h : s.Told obj)
    (hadded : s.phase = .recipientAdded other dr) : Avoids obj s (s.storeProxy other dr) := by
  have hne : some other ≠ some obj := by
    intro heq
    obtain rfl := Option.some.inj heq
    exact h.added dr hadded
  exact Told.answer (s := { s with proxy := some other, deathRecipient := some dr })
    ⟨h.known, h.dead, h.remote, hne, h.added⟩ hne

theorem onRemoteDied_answers (s : ClientConnection) (remote : ℕ) :
    (s.onRemoteDied remote).answers = s.answers := by
  rw [onRemoteDied]
  split
  · rfl
  · split <;> rfl

theorem told_onRemoteDied {obj : ℕ} (hknown : obj < s.started) (hdead : s.running ≠ some obj)
    (hremote : s.isProxyObject obj = true) (hadded : ∀ dr, s.phase ≠ .recipientAdded obj dr)
    (remote : ℕ) (hproxy : s.proxy = some obj → obj = remote) :
    (s.onRemoteDied remote).Told obj := by
  rw [onRemoteDied]
  split
  · rename_i hnone
    exact ⟨hknown, hdead, hremote, by simp [hnone], hadded⟩
  · rename_i other hother
    split
    · exact ⟨hknown, hdead, hremote, by simp, hadded⟩
    · rename_i hne
      refine ⟨hknown, hdead, hremote, fun heq => hne ?_, hadded⟩
      obtain rfl : other = obj := Option.some.inj (hother.symm.trans heq)
      exact hproxy heq

theorem told_step {obj : ℕ} {e : ConnectionEvent} (h : s.Told obj) (hrefuses : s.Refuses obj e)
    (ht : s.step e = some t) : Avoids obj s t := by
  cases steps_of_step ht with
  | getProxy _ => exact told_getProxy h
  | @addDeathRecipient other accepted hfound =>
    refine told_addDeathRecipient h ?_
    rintro rfl
    cases accepted with
    | false => rfl
    | true => exact absurd rfl (hrefuses hfound)
  | storeProxy hadded => exact told_storeProxy h hadded
  | @onRemoteDied remote dr _ _ =>
    refine Told.unanswered ?_ (onRemoteDied_answers _ _)
    refine told_onRemoteDied (s := { s with notices := s.notices.erase (remote, dr) }) h.known
      h.dead h.remote h.added remote ?_
    exact fun hproxy => absurd hproxy h.proxy
  | start _ =>
    refine Told.unanswered ⟨h.known.trans (Nat.lt_succ_self _), ?_, h.remote, h.proxy, h.added⟩ rfl
    intro heq
    exact absurd (Option.some.inj heq) h.known.ne'
  | die _ _ => exact Told.unanswered ⟨h.known, by simp [die], h.remote, h.proxy, h.added⟩ rfl
  | getError => exact Told.unanswered ⟨h.known, h.dead, h.remote, h.proxy, h.added⟩ rfl
  | report _ => exact Told.unanswered ⟨h.known, h.dead, h.remote, h.proxy, h.added⟩ rfl
  | publish _ => exact Told.unanswered ⟨h.known, h.dead, h.remote, h.proxy, h.added⟩ rfl
  | withdraw => exact Told.unanswered ⟨h.known, h.dead, h.remote, h.proxy, h.added⟩ rfl
  | abilityManager _ => exact Told.unanswered ⟨h.known, h.dead, h.remote, h.proxy, h.added⟩ rfl

theorem told_run {obj : ℕ} {es : List ConnectionEvent} (h : s.Told obj)
    (hrefuses : Runs.Always step (Refuses obj) s es) (ht : Runs.run step s es = some t) :
    Avoids obj s t := by
  induction es generalizing s with
  | nil =>
    obtain rfl := Option.some.inj ht
    exact h.unanswered rfl
  | cons e es ih =>
    obtain ⟨u, hu, hut⟩ := Runs.run_cons_some.mp ht
    have hsu := told_step h hrefuses.1 hu
    exact hsu.trans (ih hsu.1 (hrefuses.2 u hu) hut)

/-- Once the client was told that an object died, and the transport takes no recipient for it any
more, no call is ever answered with it again, even while the ability manager still hands it out. -/
theorem told_death_never_answered (h : Runs.Reachable step Fresh s) {obj dr : ℕ}
    (ht : s.step (.onRemoteDied obj dr) = some t) {u : ClientConnection}
    {es : List ConnectionEvent} (hrefuses : Runs.Always step (Refuses obj) t es)
    (hu : Runs.run step t es = some u) :
    ∃ later, u.answers = t.answers ++ later ∧ some obj ∉ later := by
  have hw := watched_reachable h
  simp only [step] at ht
  split at ht
  · rename_i hfree
    obtain rfl := Option.some.inj ht
    obtain ⟨hknown, hdead⟩ := hw.told obj dr (List.contains_iff_mem.mp hfree.2)
    have hremote : s.isProxyObject obj = true := by
      by_contra hlocal
      exact hdead (hw.own obj hknown (by simpa using hlocal))
    have htold := told_onRemoteDied (s := { s with notices := s.notices.erase (obj, dr) }) hknown
      hdead hremote (by simp [hfree.1]) obj fun _ => rfl
    exact (told_run htold hrefuses hu).2
  · cases ht

/-- The object that is still published after its death is asked for once more. -/
theorem told_death_never_answered_stale :
    ∃ s t u, Runs.run step {} [.start, .publish, .getProxy, .addDeathRecipient true, .storeProxy,
        .die] = some s ∧ s.step (.onRemoteDied 0 0) = some t ∧
      Runs.run step t [.getProxy, .addDeathRecipient false] = some u ∧
      ∃ later, u.answers = t.answers ++ later ∧ some 0 ∉ later := by
  refine ⟨_, _, _, rfl, rfl, rfl, ?_⟩
  refine @told_death_never_answered _ _ ⟨{}, [.start, .publish, .getProxy, .addDeathRecipient true,
    .storeProxy, .die], ⟨_, rfl⟩, rfl⟩ 0 0 rfl _ [.getProxy, .addDeathRecipient false] ?_ rfl
  exact ⟨fun _ => by simp, fun _ _ => ⟨fun _ => by simp, fun _ _ => trivial⟩⟩

theorem dropped_by_notice {e : ConnectionEvent} (ht : s.step e = some t) {obj : ℕ}
    (hproxy : s.proxy = some obj) (hbusy : s.phase ≠ .idle → s.proxy = none) :
    t.proxy = some obj ∨ t.proxy = none ∧ ∃ dr, e = .onRemoteDied obj dr ∧
      (obj, dr) ∈ s.notices := by
  have hidle : s.phase = .idle := by
    by_contra hphase
    simp [hbusy hphase] at hproxy
  cases steps_of_step ht with
  | getProxy _ => exact .inl (by simp [getProxy, hproxy, answer])
  | addDeathRecipient _ hfound => simp [hidle] at hfound
  | storeProxy hadded => simp [hidle] at hadded
  | onRemoteDied _ hnotice =>
    rw [onRemoteDied]
    split
    · exact .inl hproxy
    · rename_i other hother
      obtain rfl := Option.some.inj (hproxy.symm.trans hother)
      split
      · rename_i heq
        subst heq
        exact .inr ⟨rfl, _, rfl, hnotice⟩
      · exact .inl hproxy
  | getError => exact .inl hproxy
  | report _ => exact .inl hproxy
  | start _ => exact .inl hproxy
  | die _ _ => exact .inl hproxy
  | publish _ => exact .inl hproxy
  | withdraw => exact .inl hproxy
  | abilityManager _ => exact .inl hproxy

theorem Watched.one_recipient (h : s.Watched) {a b : ℕ × ℕ} (ha : a ∈ s.attached)
    (hb : b ∈ s.attached) : a = b := by
  obtain ⟨obj, dr⟩ := a
  obtain ⟨other, dr'⟩ := b
  obtain ⟨hheld, _, hrunning⟩ := (h.attached obj dr).mp ha
  obtain ⟨hheld', _, hrunning'⟩ := (h.attached other dr').mp hb
  obtain rfl : obj = other := Option.some.inj (hrunning.symm.trans hrunning')
  have hbusy : ∀ d, s.phase = .recipientAdded obj d → s.proxy = none :=
    fun d hadded => h.busy (by simp [hadded])
  rcases hheld with hp | hadded
  · rcases hheld' with hp' | hadded'
    · rw [Option.some.inj (hp.2.symm.trans hp'.2)]
    · simp [hp.1] at hbusy
      exact absurd hadded' (hbusy dr')
  · rcases hheld' with hp' | hadded'
    · simp [hp'.1] at hbusy
      exact absurd hadded (hbusy dr)
    · rw [hadded] at hadded'
      rw [(GetProxyPhase.recipientAdded.inj hadded').2]

/-- In every order of calls, deaths, restarts and late notices a step takes the proxy away only
when its object is dead, by the notice of that very object, and the client never watches with
more than one recipient. -/
theorem connection_kept_while_running (h : Runs.Reachable step Fresh s) :
    (∀ a ∈ s.attached, ∀ b ∈ s.attached, a = b) ∧
      ∀ e t obj, s.step e = some t → s.proxy = some obj →
        t.proxy = some obj ∨
          t.proxy = none ∧ s.running ≠ some obj ∧ ∃ dr, e = .onRemoteDied obj dr := by
  have hw := watched_reachable h
  refine ⟨fun a ha b hb => hw.one_recipient ha hb, ?_⟩
  intro e t obj ht hproxy
  rcases dropped_by_notice ht hproxy hw.busy with hkept | ⟨hnone, dr, rfl, hnotice⟩
  · exact .inl hkept
  · exact .inr ⟨hnone, (hw.told obj dr hnotice).2, dr, rfl⟩

theorem connection_kept_while_running_late :
    ∃ s : ClientConnection, Runs.run step {} (restartRun ++ [.getProxy, .addDeathRecipient true,
        .storeProxy]) = some s ∧ (∀ a ∈ s.attached, ∀ b ∈ s.attached, a = b) ∧
      ∀ e t obj, s.step e = some t → s.proxy = some obj →
        t.proxy = some obj ∨
          t.proxy = none ∧ s.running ≠ some obj ∧ ∃ dr, e = .onRemoteDied obj dr := by
  refine ⟨_, rfl, ?_⟩
  exact connection_kept_while_running ⟨{}, restartRun ++ [.getProxy, .addDeathRecipient true,
    .storeProxy], ⟨_, rfl⟩, rfl⟩

end ClientConnection

end DisplayPowerMgr
