import DisplayPowerMgr.MultiScreen

/-! The error that the service reports with a call. All clients share the cell it is kept in: many
entry points write it, three of them read it, and clear it after that. -/
namespace DisplayPowerMgr

def MAX_PARAMS_LENGTH : ℕ := 4096

def MAX_NITS : ℚ := 1000 * 1000

/-- The entry points that use the cell, with the parameters that they check. Enumerations come as
plain numbers; `isKnown` tells whether there is a controller for the id at that time. -/
inductive ServiceRequest where
  | setBrightness
  | setMaxBrightness (value : ℚ)
  | setMaxBrightnessNit (maxNit : ℕ)
  | setForcedBrightness (value : ℚ) (duration : ℕ) (valueType : ℤ)
  | notifyScreenPowerStatus
  | waitDimmingDone
  | getFeatureSupport (feature : ℤ)
  | runJsonCommand (request : String)
  | registerDataChangeListener (listenerType : ℤ) (callerId params : String)
  | unregisterDataChangeListener (listenerType : ℤ) (callerId : String)
  | setSceneMode (type : ℤ) (isKnown : Bool)
  deriving DecidableEq, Repr

/-- What an entry point leaves in the cell, if anything, the `ErrCode` that it returns, and
whether the request goes on to the brightness manager. -/
structure EntryOutcome where
  lastError : Option DisplayErrors := none
  errCode : DisplayErrors := .ok
  goesOn : Bool := true
  deriving DecidableEq, Repr

namespace ServiceRequest

/-- The checks that most of the entry points make. -/
def checked (isSystem isInvalid : Bool) : EntryOutcome :=
  if !isSystem then ⟨some .systemApiDenied, .systemApiDenied, false⟩
  else if isInvalid then ⟨some .paramInvalid, .paramInvalid, false⟩
  else {}

def isOutRange (value lower upper : ℚ) : Bool := value < lower ∨ value > upper

def isTooLong (s : String) : Bool := s.utf8ByteSize > MAX_PARAMS_LENGTH

def isInvalidListener (listenerType : ℤ) : Bool := listenerType < 0 ∨ listenerType ≥ 8

/-- The inner functions of the calls that report, which return no `ErrCode`. -/
def permitted (isSystem isOut : Bool) : EntryOutcome :=
  if !isSystem then { lastError := some .systemApiDenied, goesOn := false }
  else { goesOn := !isOut }

/-- The check of the value is the only one that returns without a word about it. -/
def forced (isSystem : Bool) (value : ℚ) (duration : ℕ) (valueType : ℤ) : EntryOutcome :=
  if !isSystem then ⟨some .systemApiDenied, .systemApiDenied, false⟩
  else if isOutRange value (-MAX_NITS) MAX_NITS then { goesOn := false }
  else if duration > 60 * 1000 then { errCode := .paramInvalid, goesOn := false }
  else if valueType < 0 ∨ valueType ≥ 3 then ⟨some .paramInvalid, .paramInvalid, false⟩
  else {}

def outcome (isSystem : Bool) : ServiceRequest → EntryOutcome
  | setBrightness => permitted isSystem false
  | setMaxBrightness value => permitted isSystem (isOutRange value 0 1)
  | setMaxBrightnessNit maxNit => permitted isSystem (maxNit > 100 * 1000)
  | setForcedBrightness value duration valueType => forced isSystem value duration valueType
  | notifyScreenPowerStatus => permitted isSystem false
  | waitDimmingDone => checked isSystem false
  | getFeatureSupport feature => checked isSystem (feature < 1000 ∨ feature ≥ 1004)
  | runJsonCommand request => checked isSystem (isTooLong request)
  | registerDataChangeListener listenerType callerId params =>
    checked isSystem (isTooLong callerId || isTooLong params || isInvalidListener listenerType)
  | unregisterDataChangeListener listenerType callerId =>
    checked isSystem (isTooLong callerId || isInvalidListener listenerType)
  | setSceneMode type isKnown => checked isSystem (type < 0 ∨ type ≥ 3 || !isKnown)

/-- The calls that read the cell, and report what they read. -/
def reports : ServiceRequest → Bool
  | setBrightness | setMaxBrightness _ | setMaxBrightnessNit _ => true
  | _ => false

end ServiceRequest

/-- How far a call that reports has come: past its inner function, past the load in `GetError`,
and returned. -/
inductive ReportPhase where
  | entered (denied : Bool)
  | loaded (denied : Bool) (tmpError : DisplayErrors)
  | returned (denied : Bool) (displayError : DisplayErrors)
  deriving DecidableEq, Repr

/-- The cell, and the calls that report by number. -/
structure CallErrors where
  lastError : DisplayErrors := .ok
  call : ℕ → Option ReportPhase := fun _ => none

inductive CallErrorsEvent where
  | enter (call : ℕ) (isSystem : Bool) (r : ServiceRequest)
  | load (call : ℕ)
  | reset (call : ℕ)
  deriving DecidableEq, Repr

namespace CallErrors

def ownError (denied : Bool) : DisplayErrors := if denied then .systemApiDenied else .ok

def write (s : CallErrors) (error : Option DisplayErrors) : CallErrors :=
  { s with lastError := error.getD s.lastError }

def getError (s : CallErrors) : CallErrors × DisplayErrors :=
  ({ s with lastError := .ok }, s.lastError)

def report (s : CallErrors) (isSystem : Bool) (r : ServiceRequest) : CallErrors × DisplayErrors :=
  (s.write (r.outcome isSystem).lastError).getError

def setCall (s : CallErrors) (k : ℕ) (phase : ReportPhase) : CallErrors :=
  { s with call := Function.update s.call k (some phase) }

def step (s : CallErrors) : CallErrorsEvent → Option CallErrors
  | .enter k isSystem r =>
    if !r.reports then some (s.write (r.outcome isSystem).lastError)
    else if s.call k ≠ none then none
    else some ((s.write (r.outcome isSystem).lastError).setCall k (.entered !isSystem))
  | .load k =>
    match s.call k with
    | some (.entered denied) => some (s.setCall k (.loaded denied s.lastError))
    | _ => none
  | .reset k =>
    match s.call k with
    | some (.loaded denied tmpError) =>
      some ({ s with lastError := .ok }.setCall k (.returned denied tmpError))
    | _ => none

def ReportsOwn (s : CallErrors) : Prop :=
  ∀ k denied displayError, s.call k = some (.returned denied displayError) →
    displayError = ownError denied

/-- The call has accesses to the cell ahead of it. -/
def UnderWay (s : CallErrors) (k : ℕ) : Prop :=
  ∃ denied, s.call k = some (.entered denied) ∨
    ∃ tmpError, s.call k = some (.loaded denied tmpError)

/-- An allowed call that reports comes while no error stands in the cell, a denied one while no
other is under way. Errors of the other entry points come while no call has yet to read the cell,
or are the same as that call's own. -/
def Undisturbed (s : CallErrors) : CallErrorsEvent → Prop
  | .enter k isSystem r =>
    if r.reports then
      s.call k = none → if isSystem then s.lastError = .ok else ∀ j, ¬ s.UnderWay j
    else
      ∀ error, (r.outcome isSystem).lastError = some error →
        ∀ j denied, s.call j = some (.entered denied) → error = ownError denied
  | _ => True

variable {s t : CallErrors} {k j : ℕ} {denied : Bool} {phase : ReportPhase}

@[simp] theorem setCall_self : (s.setCall k phase).call k = some phase :=
  Function.update_self ..

theorem setCall_other (hne : j ≠ k) : (s.setCall k phase).call j = s.call j :=
  Function.update_of_ne hne ..

theorem call_of_setCall {phase' : ReportPhase} (hj : (s.setCall k phase).call j = some phase')
    (hne : phase' ≠ phase) : j ≠ k ∧ s.call j = some phase' := by
  by_cases hjk : j = k
  · subst hjk
    exact absurd (Option.some.inj (setCall_self.symm.trans hj)).symm hne
  · exact ⟨hjk, (setCall_other hjk).symm.trans hj⟩

theorem underWay_setCall (hne : j ≠ k) : (s.setCall k phase).UnderWay j ↔ s.UnderWay j := by
  simp only [UnderWay, setCall_other hne]

theorem UnderWay.entered (h : s.call k = some (.entered denied)) : s.UnderWay k :=
  ⟨denied, Or.inl h⟩

theorem UnderWay.loaded {tmpError : DisplayErrors}
    (h : s.call k = some (.loaded denied tmpError)) : s.UnderWay k :=
  ⟨denied, Or.inr ⟨tmpError, h⟩⟩

theorem step_load (h : s.call k = some (.entered denied)) :
    step s (.load k) = some (s.setCall k (.loaded denied s.lastError)) := by
  rw [step, h]

theorem step_reset {tmpError : DisplayErrors} (h : s.call k = some (.loaded denied tmpError)) :
    step s (.reset k) =
      some ({ s with lastError := .ok }.setCall k (.returned denied tmpError)) := by
  rw [step, h]

theorem load_cases (h : step s (.load k) = some t) :
    ∃ denied, s.call k = some (.entered denied) ∧
      t = s.setCall k (.loaded denied s.lastError) := by
  rw [step] at h
  split at h
  · rename_i denied hcall
    exact ⟨denied, hcall, (Option.some.inj h).symm⟩
  · cases h

theorem reset_cases (h : step s (.reset k) = some t) :
    ∃ denied tmpError, s.call k = some (.loaded denied tmpError) ∧
      t = { s with lastError := .ok }.setCall k (.returned denied tmpError) := by
  rw [step] at h
  split at h
  · rename_i denied tmpError hcall
    exact ⟨denied, tmpError, hcall, (Option.some.inj h).symm⟩
  · cases h

/-- The accesses of a call with nothing in between make up the call. -/
theorem runs_alone (s : CallErrors) (isSystem : Bool) {r : ServiceRequest}
    (hreports : r.reports = true) (hfree : s.call k = none) :
    Runs.run step s [.enter k isSystem r, .load k, .reset k] =
      some ((s.report isSystem r).1.setCall k (.returned (!isSystem) (s.report isSystem r).2)) := by
  have henter : step s (.enter k isSystem r) =
      some ((s.write (r.outcome isSystem).lastError).setCall k (.entered !isSystem)) := by
    rw [step, if_neg (by simp [hreports]), if_neg (not_not.mpr hfree)]
  refine Runs.run_cons_some.mpr ⟨_, henter, Runs.run_cons_some.mpr ⟨_, step_load setCall_self,
    Runs.run_cons_some.mpr ⟨_, step_reset setCall_self, ?_⟩⟩⟩
  simp [setCall, report, getError]

theorem outcome_reports (isSystem : Bool) {r : ServiceRequest} (h : r.reports = true) :
    (r.outcome isSystem).lastError = if isSystem then none else some .systemApiDenied := by
  have hpermitted (isOut : Bool) : (ServiceRequest.permitted isSystem isOut).lastError =
      if isSystem then none else some .systemApiDenied := by
    cases isSystem with
    | true => rfl
    | false => rfl
  cases r with
  | setBrightness => exact hpermitted false
  | setMaxBrightness value => exact hpermitted _
  | setMaxBrightnessNit maxNit => exact hpermitted _
  | _ => cases h

/-- All that was read is right, and so is the cell for those that have yet to read it; a denied
one among these has the cell for itself. -/
structure Clear (s : CallErrors) : Prop where
  loaded : ∀ k denied tmpError, s.call k = some (.loaded denied tmpError) →
    tmpError = ownError denied
  returned : ReportsOwn s
  unread : ∀ k denied, s.call k = some (.entered denied) → s.lastError = ownError denied
  alone : ∀ k, s.call k = some (.entered true) → ∀ j, j ≠ k → ¬ s.UnderWay j

theorem clear_start : Clear {} where
  loaded _ _ _ h := by cases h
  returned _ _ _ h := by cases h
  unread _ _ h := by cases h
  alone _ h := by cases h

theorem clear_load (h : Clear s) (ht : step s (.load k) = some t) : Clear t := by
  obtain ⟨denied, hcall, rfl⟩ := load_cases ht
  constructor
  · intro j denied' tmpError hj
    by_cases hjk : j = k
    · subst hjk
      cases setCall_self.symm.trans hj
      exact h.unread j denied hcall
    · exact h.loaded j denied' tmpError ((setCall_other hjk).symm.trans hj)
  · intro j denied' displayError hj
    exact h.returned j denied' displayError (call_of_setCall hj (by simp)).2
  · intro j denied' hj
    exact h.unread j denied' (call_of_setCall hj (by simp)).2
  · intro j hj
    obtain ⟨hjk, hj⟩ := call_of_setCall hj (by simp)
    exact absurd (UnderWay.entered hcall) (h.alone j hj k (Ne.symm hjk))

theorem clear_reset (h : Clear s) (ht : step s (.reset k) = some t) : Clear t := by
  obtain ⟨denied, tmpError, hcall, rfl⟩ := reset_cases ht
  -- a denied call that has yet to read would have the cell for itself
  have hallowed {j : ℕ} (hjk : j ≠ k) (hj : s.call j = some (.entered true)) : False :=
    h.alone j hj k (Ne.symm hjk) (UnderWay.loaded hcall)
  constructor
  · intro j denied' tmpError' hj
    exact h.loaded j denied' tmpError' (call_of_setCall hj (by simp)).2
  · intro j denied' displayError hj
    by_cases hjk : j = k
    · subst hjk
      cases setCall_self.symm.trans hj
      exact h.loaded j denied tmpError hcall
    · exact h.returned j denied' displayError ((setCall_other hjk).symm.trans hj)
  · intro j denied' hj
    obtain ⟨hjk, hj⟩ := call_of_setCall hj (by simp)
    cases denied' with
    | true => exact (hallowed hjk hj).elim
    | false => rfl
  · intro j hj
    obtain ⟨hjk, hj⟩ := call_of_setCall hj (by simp)
    exact (hallowed hjk hj).elim

def GoesOn (e : CallErrorsEvent) : Prop := ∃ k, e = .load k ∨ e = .reset k

theorem read_of_whatever (h : Runs.Whatever step GoesOn ReportsOwn s)
    (hcall : s.call k = some (.entered denied)) : s.lastError = ownError denied := by
  have hloaded := h.next ⟨k, Or.inl rfl⟩ (step_load hcall)
  have hreturned := hloaded.next ⟨k, Or.inr rfl⟩ (step_reset setCall_self)
  exact hreturned.now k denied s.lastError setCall_self

/-- However the calls under way go on, each reports its own error, exactly if they are clear. -/
theorem whatever_reportsOwn_iff (s : CallErrors) :
    Runs.Whatever step GoesOn ReportsOwn s ↔ Clear s := by
  constructor
  · intro h
    refine ⟨?_, h.now, fun k denied => read_of_whatever h, ?_⟩
    · intro k denied tmpError hcall
      have hreturned := h.next ⟨k, Or.inr rfl⟩ (step_reset hcall)
      exact hreturned.now k denied tmpError setCall_self
    · rintro k hcall j hjk ⟨denied, hj | ⟨tmpError, hj⟩⟩
      · -- the other call reads and clears the cell before the denied one reads it
        have hloaded := h.next ⟨j, Or.inl rfl⟩ (step_load hj)
        have hreset := hloaded.next ⟨j, Or.inr rfl⟩ (step_reset setCall_self)
        have hread := @read_of_whatever _ k true hreset (by
          rw [setCall_other (Ne.symm hjk)]
          exact (setCall_other (Ne.symm hjk)).trans hcall)
        cases hread
      · have hreset := h.next ⟨j, Or.inr rfl⟩ (step_reset hj)
        have hread := @read_of_whatever _ k true hreset
          ((setCall_other (Ne.symm hjk)).trans hcall)
        cases hread
  · apply Runs.whatever_of_invariant
    · rintro s e t h ⟨k, rfl | rfl⟩ ht
      · exact clear_load h ht
      · exact clear_reset h ht
    · exact fun s h => h.returned

theorem clear_write_iff (h : Clear s) (error : Option DisplayErrors) :
    Clear (s.write error) ↔ ∀ w, error = some w →
      ∀ j denied, s.call j = some (.entered denied) → w = ownError denied := by
  constructor
  · rintro hafter w rfl j denied hj
    exact hafter.unread j denied hj
  · intro hwrite
    refine ⟨h.loaded, h.returned, ?_, h.alone⟩
    intro j denied hj
    cases error with
    | none => exact h.unread j denied hj
    | some w => exact hwrite w rfl j denied hj

theorem clear_allowed_iff (h : Clear s) :
    Clear (s.setCall k (.entered false)) ↔ s.lastError = .ok := by
  constructor
  · exact fun hafter => hafter.unread k false setCall_self
  · intro hok
    have hnone {j : ℕ} (hj : s.call j = some (.entered true)) : False := by
      have herror := h.unread j true hj
      rw [hok] at herror
      cases herror
    constructor
    · exact fun j denied tmpError hj => h.loaded j denied tmpError (call_of_setCall hj (by simp)).2
    · exact fun j denied error hj => h.returned j denied error (call_of_setCall hj (by simp)).2
    · intro j denied hj
      cases denied with
      | true => exact (hnone (call_of_setCall hj (by simp)).2).elim
      | false => exact hok
    · exact fun j hj => (hnone (call_of_setCall hj (by simp)).2).elim

theorem clear_denied_iff (h : Clear s) (hfree : s.call k = none) :
    Clear ((s.write (some .systemApiDenied)).setCall k (.entered true)) ↔
      ∀ j, ¬ s.UnderWay j := by
  constructor
  · intro hafter j hj
    by_cases hjk : j = k
    · subst hjk
      obtain ⟨denied, hentered | ⟨tmpError, hloaded⟩⟩ := hj
      · exact absurd (hfree.symm.trans hentered) (by simp)
      · exact absurd (hfree.symm.trans hloaded) (by simp)
    · exact hafter.alone k setCall_self j hjk ((underWay_setCall hjk).mpr hj)
  · intro hidle
    constructor
    · exact fun j denied tmpError hj => h.loaded j denied tmpError (call_of_setCall hj (by simp)).2
    · exact fun j denied error hj => h.returned j denied error (call_of_setCall hj (by simp)).2
    · intro j denied hj
      cases denied with
      | true => rfl
      | false => exact (hidle j (UnderWay.entered (call_of_setCall hj (by simp)).2)).elim
    · intro j hj i hij hi
      by_cases hjk : j = k
      · exact hidle i ((underWay_setCall (hjk ▸ hij)).mp hi)
      · exact hidle j (UnderWay.entered ((setCall_other hjk).symm.trans hj))

theorem step_clear_iff (h : Clear s) (e : CallErrorsEvent) :
    s.Undisturbed e ↔ ∀ t, step s e = some t → Clear t := by
  cases e with
  | enter k isSystem r =>
    rw [Undisturbed, step]
    cases hreports : r.reports with
    | false =>
      simp only [Bool.not_false, if_true, Bool.false_eq_true, if_false, Option.some.injEq,
        forall_eq']
      exact (clear_write_iff h _).symm
    | true =>
      by_cases hfree : s.call k = none
      · simp only [hfree, outcome_reports isSystem hreports, Bool.not_true, Bool.false_eq_true,
          if_false, if_true, forall_const, ne_eq, not_true_eq_false, Option.some.injEq, forall_eq']
        cases isSystem with
        | true => exact (clear_allowed_iff h).symm
        | false => exact (clear_denied_iff h hfree).symm
      · simp [hfree]
  | load k => exact iff_of_true trivial fun t ht => clear_load h ht
  | reset k => exact iff_of_true trivial fun t ht => clear_reset h ht

/-- In every state of a run, and in those that its calls under way may still lead to, each call
that reports has reported the error it earned by itself, exactly if no step of the run disturbs
another call. -/
theorem reports_own_iff (es : List CallErrorsEvent) :
    Runs.Always step (fun s e => ∀ t, step s e = some t → Runs.Whatever step GoesOn ReportsOwn t)
        {} es ↔
      Runs.Always step Undisturbed {} es := by
  simp only [whatever_reportsOwn_iff]
  apply Runs.always_keeps_iff (J := fun _ => True) (P := fun _ => True)
  · exact fun _ _ _ _ _ _ => trivial
  · exact fun s e _ h _ => step_clear_iff h e
  · trivial
  · exact clear_start
  · exact fun _ _ => trivial

/-- A denied `WaitDimmingDone` of one client, and then a brightness call of another that is
allowed. -/
theorem denial_of_another :
    ∃ s, Runs.run step {} [.enter 0 false .waitDimmingDone, .enter 0 true .setBrightness, .load 0,
      .reset 0] = some s ∧ s.call 0 = some (.returned false .systemApiDenied) ∧
      ¬ ReportsOwn s := by
  refine ⟨_, rfl, rfl, ?_⟩
  intro hown
  have herror := hown 0 false .systemApiDenied rfl
  cases herror

end CallErrors

end DisplayPowerMgr
