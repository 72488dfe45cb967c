import DisplayPowerMgr.Library.Guarded
import DisplayPowerMgr.MultiScreen

/-! Any number of multi-screen calls at a time. A call goes on step by step and every other call
may come in between; from the comparison with the cached state to its reply it holds the lock of
its screen. -/
namespace DisplayPowerMgr

open MultiScreenService

/-- How far a call of `SetMultiScreenDisplayState` has come. -/
inductive SetPhase where
  | entered
  | admitted
  | found
  | locked
  | changing
  | told
  | begun
  | displaySet (setDisplayStateRet : Bool)
  | powerSet (setDisplayStateRet setScreenPowerRet : Bool)
  | ended (ret : Bool)
  | lit
  | cached
  | notified
  | undone
  | leaving (error : DisplayErrors)
  | returned (error : DisplayErrors)
  deriving DecidableEq, Repr

inductive GetPhase where
  | entered
  | admitted
  | found
  | locked
  | leaving (state : DisplayState)
  | returned (error : DisplayErrors) (state : DisplayState)
  deriving DecidableEq, Repr

inductive MultiScreenCall where
  | set (r : MultiScreenRequest) (phase : SetPhase)
  | get (caller : Caller) (displayId : ℕ) (phase : GetPhase)
  deriving DecidableEq, Repr

/-- One step of a call, with the answer of the manager that the step may turn to. -/
def SetPhase.advance (s : MultiScreenService) (r : MultiScreenRequest) (answer : Bool) :
    SetPhase → MultiScreenService × SetPhase
  | .entered =>
    (s, if checkRequest r ≠ .ok then .returned (checkRequest r) else .admitted)
  | .admitted => (s.findController r.displayId, .found)
  | .found => (s, .locked)
  | .locked => (s, if s.getState r.displayId = r.state then .leaving .ok else .changing)
  | .changing => (s.setBrightnessState (r.displayId % 2 ^ 32) r.state r.reason, .told)
  | .told =>
    (s.multiScreenBegin (s.getDisplayId r.displayId) r.state r.reason answer, .begun)
  | .begun =>
    (s.multiScreenSetDisplayState (s.getDisplayId r.displayId) r.state answer, .displaySet answer)
  | .displaySet ret =>
    (s.multiScreenSetScreenPower (s.getDisplayId r.displayId) r.state r.reason answer,
      .powerSet ret answer)
  | .powerSet ret ret' =>
    (s.multiScreenEnd (s.getDisplayId r.displayId) r.state answer, .ended (ret && ret'))
  | .ended true => (s.lightScreen (s.getDisplayId r.displayId) r.state, .lit)
  | .ended false =>
    (s.setBrightnessState (r.displayId % 2 ^ 32) (s.getState r.displayId) r.reason, .undone)
  | .lit => (s.cacheState r.displayId r.state r.reason, .cached)
  | .cached => (s.notify r.change, .notified)
  | .notified => (s.publishCommonEvent r.change, .leaving .ok)
  | .undone =>
    (if s.getState r.displayId = .on ∨ s.getState r.displayId = .dim then s.setScreenOnBrightness 0
      else s, .leaving .stateChangeFailed)
  | .leaving error => (s, .returned error)
  | .returned error => (s, .returned error)

def GetPhase.advance (s : MultiScreenService) (caller : Caller) (displayId : ℕ) :
    GetPhase → MultiScreenService × GetPhase
  | .entered =>
    (s, if checkPermission caller ≠ .ok then .returned (checkPermission caller) .unknown
      else .admitted)
  | .admitted => (s.findController displayId, .found)
  | .found => (s, .locked)
  | .locked => (s, .leaving (s.getState displayId))
  | .leaving state => (s, .returned .ok state)
  | .returned error state => (s, .returned error state)

def SetPhase.holds : SetPhase → Bool
  | .entered | .admitted | .found | .returned _ => false
  | _ => true

def GetPhase.holds : GetPhase → Bool
  | .locked | .leaving _ => true
  | _ => false

namespace MultiScreenCall

def displayId : MultiScreenCall → ℕ
  | .set r _ => r.displayId
  | .get _ displayId _ => displayId

def holds : MultiScreenCall → Bool
  | .set _ phase => phase.holds
  | .get _ _ phase => phase.holds

def advance (s : MultiScreenService) (answer : Bool) :
    MultiScreenCall → MultiScreenService × MultiScreenCall
  | .set r phase => ((phase.advance s r answer).1, .set r (phase.advance s r answer).2)
  | .get caller displayId phase =>
    ((phase.advance s caller displayId).1,
      .get caller displayId (phase.advance s caller displayId).2)

/-- Whether the call may go on: not after its return, and not into a lock that is held. -/
def mayAdvance (lock : Option ℕ) : MultiScreenCall → Bool
  | .set _ (.returned _) | .get _ _ (.returned _ _) => false
  | .set _ .found | .get _ _ .found => lock.isNone
  | _ => true

end MultiScreenCall

inductive MultiScreenEvent where
  | set (call : ℕ) (r : MultiScreenRequest)
  | get (call : ℕ) (caller : Caller) (displayId : ℕ)
  | proceed (call : ℕ) (answer : Bool)
  deriving DecidableEq, Repr

/-- The service, the calls by number, and for each controller the call that has its lock. -/
structure MultiScreenCalls where
  service : MultiScreenService
  call : ℕ → Option MultiScreenCall := fun _ => none
  screenLock : ℕ → Option ℕ := fun _ => none

namespace MultiScreenCalls

def enter (m : MultiScreenCalls) (k : ℕ) (c : MultiScreenCall) : Option MultiScreenCalls :=
  if m.call k = none then some { m with call := Function.update m.call k (some c) } else none

def relock (m : MultiScreenCalls) (k : ℕ) (c c' : MultiScreenCall) : ℕ → Option ℕ :=
  if c.holds = c'.holds then m.screenLock
  else Function.update m.screenLock c.displayId (if c'.holds then some k else none)

def proceed (m : MultiScreenCalls) (k : ℕ) (answer : Bool) (c : MultiScreenCall) :
    MultiScreenCalls where
  service := (c.advance m.service answer).1
  call := Function.update m.call k (some (c.advance m.service answer).2)
  screenLock := m.relock k c (c.advance m.service answer).2

def step (m : MultiScreenCalls) : MultiScreenEvent → Option MultiScreenCalls
  | .set k r => m.enter k (.set r .entered)
  | .get k caller displayId => m.enter k (.get caller displayId .entered)
  | .proceed k answer =>
    match m.call k with
    | none => none
    | some c =>
      if c.mayAdvance (m.screenLock c.displayId) then some (m.proceed k answer c) else none

/-- Controllers that were made before know no state yet, nothing was sent and no call runs. -/
structure Starts (m : MultiScreenCalls) : Prop where
  unknown : ∀ id, m.service.getState id = .unknown
  notified : m.service.notified = []
  published : m.service.published = []
  idle : ∀ k, m.call k = none
  unlocked : ∀ id, m.screenLock id = none

def Reachable : MultiScreenCalls → Prop := Runs.Reachable step Starts

end MultiScreenCalls

namespace MultiScreenService.ScreenView

def change (v : ScreenView) (state : DisplayState) : ScreenView :=
  if v.state = state then v
  else ⟨state, v.notified ++ [state], v.published ++ [state]⟩

def reply (v : ScreenView) (state : DisplayState) (error : DisplayErrors) : ScreenView :=
  if error = .ok then v.change state else v

end MultiScreenService.ScreenView

open MultiScreenService (ScreenView)

/-- From the view that the call took the lock with to the view now. -/
def SetPhase.Does (r : MultiScreenRequest) (v v' : ScreenView) : SetPhase → Prop
  | .entered | .admitted | .found | .locked => v' = v
  | .cached => v.state ≠ r.state ∧ v' = { v with state := r.state }
  | .notified =>
    v.state ≠ r.state ∧ v' = { v with state := r.state, notified := v.notified ++ [r.state] }
  | .leaving error | .returned error => v' = v.reply r.state error
  | _ => v.state ≠ r.state ∧ v' = v

def GetPhase.Does (v v' : ScreenView) : GetPhase → Prop
  | .leaving state => v' = v ∧ state = v.state
  | .returned error state => v' = v ∧ (error = .ok → state = v.state)
  | _ => v' = v

def SetPhase.Checked (r : MultiScreenRequest) : SetPhase → Prop
  | .entered | .returned _ => True
  | _ => checkRequest r = .ok

section Steps
variable {s : MultiScreenService} {r : MultiScreenRequest} {answer : Bool}

theorem SetPhase.advance_checked {phase : SetPhase} (h : phase.Checked r) :
    (phase.advance s r answer).2.Checked r := by
  cases phase with
  | entered =>
    rw [advance]
    split
    · trivial
    · exact not_not.mp ‹_›
  | locked =>
    rw [advance]
    split
    · exact h
    · exact h
  | ended ret =>
    cases ret
    · exact h
    · exact h
  | returned error => trivial
  | leaving error => trivial
  | _ => exact h

theorem SetPhase.advance_enters {phase : SetPhase} (h : phase.holds = false)
    (h' : (phase.advance s r answer).2.holds = true) :
    phase = .found ∧ (phase.advance s r answer).2 = .locked := by
  cases phase with
  | entered =>
    rw [advance] at h'
    split at h'
    · cases h'
    · cases h'
  | found => exact ⟨rfl, rfl⟩
  | admitted => cases h'
  | returned error => cases h'
  | _ => cases h

theorem GetPhase.advance_enters {phase : GetPhase} {caller : Caller} {displayId : ℕ}
    (h : phase.holds = false) (h' : (phase.advance s caller displayId).2.holds = true) :
    phase = .found := by
  cases phase with
  | entered =>
    rw [advance] at h'
    split at h'
    · cases h'
    · cases h'
  | found => rfl
  | admitted => cases h'
  | returned error state => cases h'
  | _ => cases h

theorem SetPhase.advance_view_outside {phase : SetPhase} (h : phase.holds = false) (id : ℕ) :
    (phase.advance s r answer).1.view id = s.view id := by
  cases phase with
  | admitted => exact view_findController s r.displayId id
  | entered => rfl
  | found => rfl
  | returned error => rfl
  | _ => cases h

theorem SetPhase.advance_view_other (phase : SetPhase) {id : ℕ} (h : id ≠ r.displayId) :
    (phase.advance s r answer).1.view id = s.view id := by
  cases phase with
  | admitted => exact view_findController s r.displayId id
  | lit => exact view_cacheState_other r.state r.reason h
  | cached => exact view_notify_other fun heq => h heq.symm
  | notified => exact view_publishCommonEvent_other fun heq => h heq.symm
  | ended ret =>
    cases ret with
    | false => rfl
    | true =>
      rw [advance, lightScreen]
      split
      · rfl
      · rfl
  | undone =>
    rw [advance]
    split
    · rfl
    · rfl
  | _ => rfl

theorem SetPhase.advance_does {phase : SetPhase} {v : ScreenView} (hholds : phase.holds = true)
    (h : phase.Does r v (s.view r.displayId)) :
    (phase.advance s r answer).2.Does r v ((phase.advance s r answer).1.view r.displayId) := by
  cases phase with
  | entered => cases hholds
  | admitted => cases hholds
  | found => cases hholds
  | returned error => cases hholds
  | leaving error => exact h
  | locked =>
    have hstate : s.getState r.displayId = v.state := congrArg ScreenView.state h
    rw [advance]
    by_cases hsame : s.getState r.displayId = r.state
    · rw [if_pos hsame, Does, ScreenView.reply, if_pos rfl, ScreenView.change,
        if_pos (hstate.symm.trans hsame)]
      exact h
    · rw [if_neg hsame]
      exact ⟨fun heq => hsame (hstate.trans heq), h⟩
  | ended ret =>
    cases ret with
    | false => exact h
    | true =>
      refine ⟨h.1, ?_⟩
      rw [← h.2, advance, lightScreen]
      split
      · rfl
      · rfl
  | undone =>
    have hview : (undone.advance s r answer).1.view r.displayId = s.view r.displayId := by
      rw [advance]
      split
      · rfl
      · rfl
    exact hview.trans h.2
  | lit =>
    refine ⟨h.1, ?_⟩
    rw [← h.2]
    exact view_cacheState_self s r.displayId r.state r.reason
  | cached =>
    refine ⟨h.1, (view_notify_self s r).trans ?_⟩
    rw [h.2]
  | notified =>
    rw [advance, Does, ScreenView.reply, if_pos rfl, ScreenView.change, if_neg h.1]
    refine (view_publishCommonEvent_self s r).trans ?_
    rw [h.2]
  | _ => exact h

end Steps

namespace MultiScreenCall

def Does (v v' : ScreenView) : MultiScreenCall → Prop
  | .set r phase => phase.Does r v v'
  | .get _ _ phase => phase.Does v v'

def Checked : MultiScreenCall → Prop
  | .set r phase => phase.Checked r
  | .get _ _ _ => True

def IsOver : MultiScreenCall → Prop
  | .set _ phase => ∃ error, phase = .returned error
  | .get _ _ phase => ∃ error state, phase = .returned error state

variable {s : MultiScreenService} {answer : Bool} {c : MultiScreenCall}

@[simp] theorem advance_displayId : (c.advance s answer).2.displayId = c.displayId := by
  cases c with
  | set r phase => rfl
  | get caller displayId phase => rfl

theorem advance_checked (h : c.Checked) : (c.advance s answer).2.Checked := by
  cases c with
  | set r phase => exact SetPhase.advance_checked h
  | get caller displayId phase => trivial

theorem advance_view_outside (h : c.holds = false) (id : ℕ) :
    (c.advance s answer).1.view id = s.view id := by
  cases c with
  | set r phase => exact SetPhase.advance_view_outside h id
  | get caller displayId phase =>
    cases phase with
    | admitted => exact view_findController s displayId id
    | _ => rfl

theorem advance_view_other {id : ℕ} (h : id ≠ c.displayId) :
    (c.advance s answer).1.view id = s.view id := by
  cases c with
  | set r phase => exact SetPhase.advance_view_other phase h
  | get caller displayId phase =>
    cases phase with
    | admitted => exact view_findController s displayId id
    | _ => rfl

theorem advance_does {v : ScreenView} (hholds : c.holds = true)
    (h : c.Does v (s.view c.displayId)) :
    (c.advance s answer).2.Does v ((c.advance s answer).1.view c.displayId) := by
  cases c with
  | set r phase => exact SetPhase.advance_does hholds h
  | get caller displayId phase =>
    cases phase with
    | locked => exact ⟨h, congrArg ScreenView.state h⟩
    | leaving state => exact ⟨h.1, fun _ => h.2⟩
    | _ => cases hholds

theorem advance_enters (h : c.holds = false) (h' : (c.advance s answer).2.holds = true)
    (v : ScreenView) : (c.advance s answer).2.Does v v := by
  cases c with
  | set r phase =>
    obtain ⟨-, hlocked⟩ := SetPhase.advance_enters h h'
    rw [advance, Does, hlocked, SetPhase.Does]
  | get caller displayId phase =>
    obtain rfl := GetPhase.advance_enters h h'
    rfl

/-- A lock that another call holds keeps the section closed. -/
theorem mayAdvance_unlocked {lock : Option ℕ} (hmay : c.mayAdvance lock = true)
    (h : c.holds = false) (h' : (c.advance s answer).2.holds = true) : lock = none := by
  cases c with
  | set r phase =>
    obtain ⟨rfl, -⟩ := SetPhase.advance_enters h h'
    simpa [mayAdvance] using hmay
  | get caller displayId phase =>
    obtain rfl := GetPhase.advance_enters h h'
    simpa [mayAdvance] using hmay

end MultiScreenCall

namespace MultiScreenCalls

/-- The lock of a screen is held by the one call inside its section, and every call that got past
the checks has passed them. -/
structure Orderly (m : MultiScreenCalls) : Prop where
  holder : ∀ id k, m.screenLock id = some k ↔
    ∃ c, m.call k = some c ∧ c.displayId = id ∧ c.holds = true
  checked : ∀ k c, m.call k = some c → c.Checked

variable {m u : MultiScreenCalls}

/-- A step makes a call, or takes one on. -/
inductive Step (m u : MultiScreenCalls) : Prop
  | enters (k : ℕ) (c : MultiScreenCall) (fresh : m.call k = none) (outside : c.holds = false)
    (checked : c.Checked) (eq : u = { m with call := Function.update m.call k (some c) })
  | proceeds (k : ℕ) (answer : Bool) (c : MultiScreenCall) (call : m.call k = some c)
    (may : c.mayAdvance (m.screenLock c.displayId) = true) (eq : u = m.proceed k answer c)

theorem enter_some {k : ℕ} {c : MultiScreenCall} (h : m.enter k c = some u) :
    m.call k = none ∧ u = { m with call := Function.update m.call k (some c) } := by
  rw [enter] at h
  split at h
  · exact ⟨‹_›, (Option.some.inj h).symm⟩
  · cases h

theorem proceed_some {k : ℕ} {answer : Bool} (h : step m (.proceed k answer) = some u) :
    ∃ c, m.call k = some c ∧ c.mayAdvance (m.screenLock c.displayId) = true ∧
      u = m.proceed k answer c := by
  rw [step] at h
  cases hcall : m.call k with
  | none =>
    rw [hcall] at h
    cases h
  | some c =>
    simp only [hcall] at h
    split at h
    · exact ⟨c, rfl, ‹_›, (Option.some.inj h).symm⟩
    · cases h

theorem step_cases {e : MultiScreenEvent} (h : step m e = some u) : Step m u := by
  cases e with
  | set k r =>
    obtain ⟨hfresh, hu⟩ := enter_some h
    exact .enters k (.set r .entered) hfresh rfl trivial hu
  | get k caller displayId =>
    obtain ⟨hfresh, hu⟩ := enter_some h
    exact .enters k (.get caller displayId .entered) hfresh rfl trivial hu
  | proceed k answer =>
    obtain ⟨c, hcall, hmay, hu⟩ := proceed_some h
    exact .proceeds k answer c hcall hmay hu

theorem proceed_call_self (m : MultiScreenCalls) (k : ℕ) (answer : Bool) (c : MultiScreenCall) :
    (m.proceed k answer c).call k = some (c.advance m.service answer).2 :=
  Function.update_self _ _ _

theorem proceed_call_other {k j : ℕ} {answer : Bool} {c : MultiScreenCall} (h : j ≠ k) :
    (m.proceed k answer c).call j = m.call j :=
  Function.update_of_ne h _ _

theorem proceed_lock_self {k : ℕ} {c : MultiScreenCall} (hm : Orderly m)
    (hcall : m.call k = some c) (answer : Bool) : (m.proceed k answer c).screenLock c.displayId =
      if (c.advance m.service answer).2.holds then some k
      else if c.holds then none else m.screenLock c.displayId := by
  have hself : c.holds = true → m.screenLock c.displayId = some k := fun h =>
    (hm.holder _ _).mpr ⟨c, hcall, rfl, h⟩
  change m.relock k c _ c.displayId = _
  rw [relock]
  cases hin : c.holds with
  | true =>
    cases (c.advance m.service answer).2.holds with
    | true => simpa using hself hin
    | false => simp
  | false =>
    cases (c.advance m.service answer).2.holds with
    | true => simp
    | false => simp

theorem proceed_lock_other {k id : ℕ} {answer : Bool} {c : MultiScreenCall}
    (h : id ≠ c.displayId) : (m.proceed k answer c).screenLock id = m.screenLock id := by
  change m.relock k c _ id = _
  rw [relock]
  split
  · rfl
  · exact Function.update_of_ne h _ _

theorem holder_proceed {k : ℕ} {answer : Bool} {c : MultiScreenCall} (hm : Orderly m)
    (hcall : m.call k = some c) (hmay : c.mayAdvance (m.screenLock c.displayId) = true)
    (id j : ℕ) : (m.proceed k answer c).screenLock id = some j ↔
      ∃ d, (m.proceed k answer c).call j = some d ∧ d.displayId = id ∧ d.holds = true := by
  have hown : m.screenLock c.displayId = some k ↔ c.holds = true := by
    rw [hm.holder]
    simp [hcall]
  by_cases hid : id = c.displayId
  · subst hid
    rw [proceed_lock_self hm hcall]
    by_cases hj : j = k
    · subst hj
      simp only [proceed_call_self, Option.some.injEq, exists_eq_left',
        MultiScreenCall.advance_displayId, true_and]
      cases hout : (c.advance m.service answer).2.holds with
      | true => simp
      | false =>
        cases hin : c.holds with
        | true => simp
        | false => simpa [hin] using hown
    · rw [proceed_call_other hj, ← hm.holder]
      cases hin : c.holds with
      | true =>
        have hk : ¬ k = j := fun heq => hj heq.symm
        rw [hown.mpr hin]
        cases (c.advance m.service answer).2.holds <;> simp [hk]
      | false =>
        cases hout : (c.advance m.service answer).2.holds with
        | true =>
          have hk : ¬ k = j := fun heq => hj heq.symm
          simp [MultiScreenCall.mayAdvance_unlocked hmay hin hout, hk]
        | false => simp
  · rw [proceed_lock_other hid]
    by_cases hj : j = k
    · subst hj
      simp only [proceed_call_self, Option.some.injEq, exists_eq_left',
        MultiScreenCall.advance_displayId]
      rw [hm.holder]
      simp only [hcall, Option.some.injEq, exists_eq_left']
      constructor
      · exact fun h => absurd h.1.symm hid
      · exact fun h => absurd h.1.symm hid
    · rw [proceed_call_other hj, ← hm.holder]

theorem orderly_step {e : MultiScreenEvent} (hm : Orderly m) (h : step m e = some u) :
    Orderly u := by
  cases step_cases h with
  | enters k c fresh outside checked eq =>
    subst eq
    refine ⟨?_, ?_⟩
    · intro id j
      change m.screenLock id = some j ↔ _
      rw [hm.holder]
      by_cases hj : j = k
      · subst hj
        simp [fresh, outside]
      · simp only [Function.update_of_ne hj]
    · intro j d hd
      by_cases hj : j = k
      · subst hj
        obtain rfl : c = d := by simpa using hd
        exact checked
      · exact hm.checked j d (by simpa only [Function.update_of_ne hj] using hd)
  | proceeds k answer c call may eq =>
    subst eq
    refine ⟨holder_proceed hm call may, ?_⟩
    intro j d hd
    by_cases hj : j = k
    · subst hj
      obtain rfl : (c.advance m.service answer).2 = d :=
        Option.some.inj ((proceed_call_self m j answer c).symm.trans hd)
      exact MultiScreenCall.advance_checked (hm.checked j c call)
    · exact hm.checked j d ((proceed_call_other hj).symm.trans hd)

end MultiScreenCalls

end DisplayPowerMgr
