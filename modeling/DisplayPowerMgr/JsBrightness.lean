import DisplayPowerMgr.Library.History
import DisplayPowerMgr.Library.Tasks
import DisplayPowerMgr.MultiScreen
import Mathlib.Data.Rat.Floor

/-! The JavaScript module `brightness`: calls with an options object are answered later, through
its callbacks, by an event that the call sends to the event loop; `setValue` also takes a number at
once. -/
namespace DisplayPowerMgr

/-- A value of the engine: a number that is not finite is none, a function is known by its id. -/
inductive JsValue where
  | undefined
  | null
  | boolean (b : Bool)
  | number (n : Option ℚ)
  | string (s : String)
  | function (id : ℕ)
  | object (properties : List (String × JsValue))

inductive NapiValueType where
  | undefined | null | boolean | number | string | function | object
  deriving DecidableEq, Repr

inductive JsApi where
  | getValue | setValue | getMode | setMode | setKeepScreenOn
  deriving DecidableEq, Repr

structure JsLimits where
  minBrightness : ℕ
  maxBrightness : ℕ
  min_lt : minBrightness < 2 ^ 31
  max_lt : maxBrightness < 2 ^ 31

/-- What the client answers while one call or one event is handled. -/
structure ClientAnswers where
  brightness : ℕ := 0
  isAuto : Bool := false
  setBrightness : Bool := true
  autoAdjustBrightness : Bool := true
  error : DisplayErrors := .ok
  hasRunningLock : Bool := true
  isSent : Bool := true
  deriving DecidableEq, Repr

inductive ClientCall where
  | setBrightness (value : ℕ) (continuous : Bool)
  | autoAdjustBrightness (enable : Bool)
  | lock
  | unLock
  deriving DecidableEq, Repr

/-- A function of the caller that is called, and with what. -/
structure JsCallback where
  function : ℕ
  args : List JsValue

/-- What the object `Brightness` holds for one call. -/
structure Brightness where
  successRef : Option ℕ := none
  failRef : Option ℕ := none
  completeRef : Option ℕ := none
  napiValRef : Option JsValue := none
  runningLock : Bool := false
  code : ℤ := 0
  msg : String := ""
  mapResult : List (String × ℤ) := []

namespace JsValue

def typeof : JsValue → NapiValueType
  | undefined => .undefined
  | null => .null
  | boolean _ => .boolean
  | number _ => .number
  | string _ => .string
  | function _ => .function
  | object _ => .object

end JsValue

/-- The getters of the engine. What is relied on is that those of a type read the values of that
type and no others. -/
class Napi where
  getNamedProperty : JsValue → String → JsValue
  getValueInt32 : JsValue → Option ℤ
  getValueBool : JsValue → Option Bool
  getValueInt32_isSome : ∀ v, (getValueInt32 v).isSome = true ↔ v.typeof = .number
  getValueBool_boolean : ∀ b, getValueBool (.boolean b) = some b

namespace Brightness

def MAX_ARGC : ℕ := 2
def COMMON_ERROR_COED : ℤ := 200
def INPUT_ERROR_CODE : ℤ := 202
def SET_VALUE_ERROR_MGR : String := "value is not an available number"
def GET_VALUE_ERROR_MGR : String := "get system screen brightness fail"
def SET_MODE_ERROR_MGR : String := "value is not an available number"
def SET_MODE_NOT_SUPPORTED_ERROR_MGR : String := "Auto adjusting brightness is not supported"
def SET_KEEP_SCREENON_ERROR_MGR : String := "value is not an available boolean"
def BRIGHTNESS_VALUE : String := "value"
def BRIGHTNESS_MODE : String := "mode"
def KEEP_SCREENON : String := "keepScreenOn"

def codeOf : DisplayErrors → ℤ
  | .ok => 0
  | .permissionDenied => 201
  | .systemApiDenied => 202
  | .paramInvalid => 401
  | .connectionFail => 4700101
  | .stateChangeFailed => 4700102
  | .registrationFailed => 4700103

def errorTable : DisplayErrors → Option String
  | .connectionFail => some "Failed to connect to the service."
  | .permissionDenied => some "Permission is denied"
  | .systemApiDenied => some "System permission is denied"
  | .paramInvalid => some "Invalid input parameter."
  | _ => none

/-- What `ThrowError` throws. -/
def thrownError (error : DisplayErrors) : ℤ × String :=
  (codeOf error, (errorTable error).getD "")

def getOptions [Napi] (options : JsValue) (name : String) (checkType : NapiValueType) :
    Option JsValue :=
  let property := Napi.getNamedProperty options name
  if property.typeof = checkType then some property else none

/-- A function that is an option, as a reference. -/
def getFunction [Napi] (options : JsValue) (name : String) : Option ℕ :=
  match getOptions options name .function with
  | some (.function id) => some id
  | _ => none

def getCallbackInfo (args : List JsValue) (index : ℕ) (checkType : NapiValueType) :
    Option JsValue :=
  if args.length > MAX_ARGC ∨ index ≥ args.length then none
  else args[index]?.filter fun options => options.typeof = checkType

/-- Unlike the function above this one throws, but only at a type that does not fit. -/
def getCallbackInfoWithThrow (args : List JsValue) (index : ℕ) (checkType : NapiValueType) :
    Option JsValue × List (ℤ × String) :=
  if args.length > MAX_ARGC ∨ index ≥ args.length then (none, [])
  else
    match args[index]? with
    | some options =>
      if options.typeof = checkType then (some options, [])
      else (none, [thrownError .paramInvalid])
    | none => (none, [])

/-- The level that `BrightnessInfo::SetBrightness` hands to the client. -/
def clampValue (limits : JsLimits) (value : ℤ) : ℕ :=
  let value := if value > limits.maxBrightness then (limits.maxBrightness : ℤ) else value
  let value := if value < limits.minBrightness then (limits.minBrightness : ℤ) else value
  value.toNat

/-- `SetValue` with the arguments of the call: what is called, and what is thrown. -/
def setValue [Napi] (limits : JsLimits) (args : List JsValue) (answers : ClientAnswers) :
    List ClientCall × List (ℤ × String) :=
  let napiBrightness := getCallbackInfo args 0 .number
  let napiUndefined := getCallbackInfo args 0 .undefined
  if napiBrightness.isNone ∧ napiUndefined.isNone then ([], [thrownError .paramInvalid])
  else
    match napiBrightness.bind Napi.getValueInt32 with
    | none => if napiUndefined.isSome then ([], []) else ([], [thrownError .paramInvalid])
    | some value =>
      let (napiContinuous, thrown) := getCallbackInfoWithThrow args 1 .boolean
      let continuous := (napiContinuous.bind Napi.getValueBool).getD false
      let failed := !answers.setBrightness && decide (answers.error ≠ .ok)
      ([.setBrightness (clampValue limits value) continuous],
        thrown ++ if failed then [thrownError answers.error] else [])

/-! ## What an event does -/

def error (b : Brightness) (code : ℤ) (msg : String) : Brightness :=
  { b with code := code, msg := msg }

def setResult (b : Brightness) (key : String) (value : ℤ) : Brightness :=
  { b with
    mapResult := if (b.mapResult.lookup key).isSome then b.mapResult
      else b.mapResult ++ [(key, value)] }

def isError (b : Brightness) : Bool := b.code ≠ 0

def callFunction (callbackRef : Option ℕ) (response : List JsValue) : List JsCallback :=
  callbackRef.toList.map fun function => ⟨function, response⟩

def getResult (b : Brightness) : JsValue :=
  .object (b.mapResult.map fun entry => (entry.1, .number (some entry.2)))

def getError (b : Brightness) : List JsValue := [.string b.msg, .number (some b.code)]

def executeCallback (b : Brightness) : List JsCallback :=
  (if b.isError then callFunction b.failRef b.getError
    else callFunction b.successRef [b.getResult]) ++
    callFunction b.completeRef []

def getValue (b : Brightness) (limits : JsLimits) (answers : ClientAnswers) :
    Brightness × List ClientCall :=
  if answers.brightness < limits.minBrightness ∨ answers.brightness > limits.maxBrightness then
    (b.error COMMON_ERROR_COED GET_VALUE_ERROR_MGR, [])
  else (b.setResult BRIGHTNESS_VALUE answers.brightness, [])

/-- The answer of the client is not looked at. -/
def systemSetValue [Napi] (b : Brightness) (limits : JsLimits) : Brightness × List ClientCall :=
  match b.napiValRef with
  | none => (b.error INPUT_ERROR_CODE SET_VALUE_ERROR_MGR, [])
  | some napiVal =>
    let brightness := (Napi.getValueInt32 napiVal).getD limits.minBrightness
    (b, [.setBrightness (clampValue limits brightness) false])

def getMode (b : Brightness) (answers : ClientAnswers) : Brightness × List ClientCall :=
  (b.setResult BRIGHTNESS_MODE (if answers.isAuto then 1 else 0), [])

def setMode [Napi] (b : Brightness) (answers : ClientAnswers) : Brightness × List ClientCall :=
  match b.napiValRef with
  | none => (b.error INPUT_ERROR_CODE SET_MODE_ERROR_MGR, [])
  | some napiMode =>
    let mode := (Napi.getValueInt32 napiMode).getD 0
    let b := if answers.autoAdjustBrightness then b
      else b.error COMMON_ERROR_COED SET_MODE_NOT_SUPPORTED_ERROR_MGR
    (b, [.autoAdjustBrightness (decide (mode ≠ 0))])

def setKeepScreenOn [Napi] (b : Brightness) : Brightness × List ClientCall :=
  match b.napiValRef with
  | none => (b.error INPUT_ERROR_CODE SET_KEEP_SCREENON_ERROR_MGR, [])
  | some napiKeep =>
    let screenOn := (Napi.getValueBool napiKeep).getD false
    (b, if b.runningLock then [if screenOn then .lock else .unLock] else [])

def handle [Napi] (limits : JsLimits) (api : JsApi) (b : Brightness) (answers : ClientAnswers) :
    Brightness × List ClientCall :=
  match api with
  | .getValue => b.getValue limits answers
  | .setValue => b.systemSetValue limits
  | .getMode => b.getMode answers
  | .setMode => b.setMode answers
  | .setKeepScreenOn => b.setKeepScreenOn

/-! ## The calls -/

def valueOption : JsApi → Option (String × NapiValueType)
  | .setValue => some (BRIGHTNESS_VALUE, .number)
  | .setMode => some (BRIGHTNESS_MODE, .number)
  | .setKeepScreenOn => some (KEEP_SCREENON, .boolean)
  | _ => none

/-- The object that a call with options hands to its event. -/
def syncWork [Napi] (api : JsApi) (args : List JsValue) (hasRunningLock : Bool) :
    Option Brightness :=
  (getCallbackInfo args 0 .object).map fun options =>
    { successRef := getFunction options "success"
      failRef := getFunction options "fail"
      completeRef := getFunction options "complete"
      napiValRef := (valueOption api).bind fun entry => getOptions options entry.1 entry.2
      runningLock := decide (api = .setKeepScreenOn) && hasRunningLock }

end Brightness

/-- The module: the events not yet run, with what each of them answers, and all that was done. -/
structure JsModule where
  events : Tasks (JsApi × Brightness) := .empty
  clientCalls : List ClientCall := []
  thrown : List (ℤ × String) := []
  callbacks : List (ℕ × JsCallback) := []

inductive JsEvent where
  | call (api : JsApi) (args : List JsValue) (answers : ClientAnswers)
  | run (id : ℕ) (answers : ClientAnswers)

namespace JsModule

open Brightness Runs

def sends [Napi] : JsEvent → Option (JsApi × Brightness)
  | .call api args answers =>
    if answers.isSent then
      (syncWork api args answers.hasRunningLock).map fun b => (api, b)
    else none
  | .run _ _ => none

/-- A call without an options object does nothing more, but for `setValue`. -/
def handleCall [Napi] (limits : JsLimits) (m : JsModule) (api : JsApi) (args : List JsValue)
    (answers : ClientAnswers) : JsModule :=
  match syncWork api args answers.hasRunningLock with
  | some b => if answers.isSent then { m with events := m.events.submit (api, b) } else m
  | none =>
    if api = .setValue then
      let (clientCalls, thrown) := setValue limits args answers
      { m with clientCalls := m.clientCalls ++ clientCalls, thrown := m.thrown ++ thrown }
    else m

def handleEvent [Napi] (limits : JsLimits) (m : JsModule) (id : ℕ) (api : JsApi) (b : Brightness)
    (answers : ClientAnswers) : JsModule :=
  let (b, clientCalls) := b.handle limits api answers
  { m with
    events := m.events.remove id
    clientCalls := m.clientCalls ++ clientCalls
    callbacks := m.callbacks ++ b.executeCallback.map fun callback => (id, callback) }

/-- The events that were sent run in any order. -/
def step [Napi] (limits : JsLimits) (m : JsModule) : JsEvent → Option JsModule
  | .call api args answers => some (m.handleCall limits api args answers)
  | .run id answers =>
    (m.events.find? id).map fun entry => m.handleEvent limits id entry.1 entry.2 answers

/-! ## What a call with options is to answer -/

def callbacksOf (m : JsModule) (id : ℕ) : List JsCallback :=
  (m.callbacks.filter fun entry => entry.1 = id).map Prod.snd

/-- Whether the answer is a success; a brightness that the service refused still counts as one. -/
def Succeeds (limits : JsLimits) (api : JsApi) (b : Brightness) (answers : ClientAnswers) : Prop :=
  match api with
  | .getValue =>
    limits.minBrightness ≤ answers.brightness ∧ answers.brightness ≤ limits.maxBrightness
  | .setValue => b.napiValRef.isSome
  | .getMode => True
  | .setMode => b.napiValRef.isSome ∧ answers.autoAdjustBrightness
  | .setKeepScreenOn => b.napiValRef.isSome

def resultOf (api : JsApi) (answers : ClientAnswers) : JsValue :=
  match api with
  | .getValue => .object [("value", .number (some answers.brightness))]
  | .getMode => .object [("mode", .number (some (if answers.isAuto then 1 else 0 : ℤ)))]
  | _ => .object []

/-- A failure is 202 where the options lack the value of the call, and else 200. -/
def failureCode (api : JsApi) (b : Brightness) : ℤ :=
  if (valueOption api).isSome ∧ b.napiValRef = none then 202 else 200

/-- One answer, to the function that it is for, and then the notice that the call is complete. -/
inductive Completes (limits : JsLimits) (api : JsApi) (b : Brightness) (answers : ClientAnswers) :
    List JsCallback → Prop
  | success (succeeds : Succeeds limits api b answers) :
    Completes limits api b answers
      (callFunction b.successRef [resultOf api answers] ++ callFunction b.completeRef [])
  | fail (msg : String) (fails : ¬ Succeeds limits api b answers) :
    Completes limits api b answers
      (callFunction b.failRef [.string msg, .number (some (failureCode api b))] ++
        callFunction b.completeRef [])

def runsOf (id : ℕ) (es : List JsEvent) : List ClientAnswers :=
  es.filterMap fun e =>
    match e with
    | .run other answers => if other = id then some answers else none
    | .call _ _ _ => none

theorem runsOf_snoc_call {past : List JsEvent} {api : JsApi} (id : ℕ) (args : List JsValue)
    (answers : ClientAnswers) :
    runsOf id (past ++ [.call api args answers]) = runsOf id past := by
  simp [runsOf]

theorem runsOf_snoc_run {past : List JsEvent} (id other : ℕ) (answers : ClientAnswers) :
    runsOf id (past ++ [.run other answers]) =
      runsOf id past ++ if other = id then [answers] else [] := by
  by_cases h : other = id <;> simp [runsOf, h]

section Answers

variable [Napi] {limits : JsLimits} {m : JsModule} {past : List JsEvent} {api : JsApi}
  {b : Brightness}

structure Fresh (b : Brightness) : Prop where
  code : b.code = 0
  mapResult : b.mapResult = []

/-! ## One event -/

theorem handle_completes (hb : Fresh b) (answers : ClientAnswers) :
    Completes limits api b answers (b.handle limits api answers).1.executeCallback := by
  have hwrong (msg : String) {code : ℤ} (hcode : code ≠ 0) :
      (b.error code msg).executeCallback =
        callFunction b.failRef [.string msg, .number (some code)] ++
          callFunction b.completeRef [] := by
    have herror : (b.error code msg).isError = true := decide_eq_true hcode
    rw [executeCallback, if_pos herror]
    rfl
  have hright (key : String) (value : ℤ) : (b.setResult key value).executeCallback =
      callFunction b.successRef [.object [(key, .number (some value))]] ++
        callFunction b.completeRef [] := by
    have hok : ¬ (b.setResult key value).isError = true := by simp [isError, setResult, hb.code]
    rw [executeCallback, if_neg hok, getResult, setResult, hb.mapResult]
    rfl
  have hdone : b.executeCallback =
      callFunction b.successRef [.object []] ++ callFunction b.completeRef [] := by
    have hok : ¬ b.isError = true := by simp [isError, hb.code]
    rw [executeCallback, if_neg hok, getResult, hb.mapResult]
    rfl
  have hlacks (hval : b.napiValRef = none) (hoption : (valueOption api).isSome) :
      failureCode api b = INPUT_ERROR_CODE := if_pos ⟨hoption, hval⟩
  cases api with
  | getValue =>
    rw [handle, getValue]
    split
    · rename_i hout
      rw [hwrong _ (by decide)]
      exact .fail _ (by simp only [Succeeds]; omega)
    · rename_i hin
      rw [hright]
      exact .success (by simp only [Succeeds]; omega)
  | setValue =>
    rw [handle, systemSetValue]
    cases hval : b.napiValRef with
    | none =>
      dsimp only
      rw [hwrong _ (by decide), ← hlacks hval rfl]
      exact .fail _ (by simp [Succeeds, hval])
    | some napiVal =>
      dsimp only
      rw [hdone]
      exact .success (by simp [Succeeds, hval])
  | getMode =>
    rw [handle, getMode, hright]
    have hsucceeds : Succeeds limits .getMode b answers := trivial
    exact .success hsucceeds
  | setMode =>
    rw [handle, setMode]
    cases hval : b.napiValRef with
    | none =>
      dsimp only
      rw [hwrong _ (by decide), ← hlacks hval rfl]
      exact .fail _ (by simp [Succeeds, hval])
    | some napiMode =>
      dsimp only
      split
      · rename_i hauto
        rw [hdone]
        exact .success (by simp [Succeeds, hval, hauto])
      · rename_i hauto
        have hcode : failureCode .setMode b = COMMON_ERROR_COED := if_neg (by simp [hval])
        rw [hwrong _ (by decide), ← hcode]
        exact .fail _ (by simp [Succeeds, hauto])
  | setKeepScreenOn =>
    rw [handle, setKeepScreenOn]
    cases hval : b.napiValRef with
    | none =>
      dsimp only
      rw [hwrong _ (by decide), ← hlacks hval rfl]
      exact .fail _ (by simp [Succeeds, hval])
    | some napiKeep =>
      dsimp only
      rw [hdone]
      exact .success (by simp [Succeeds, hval])

theorem sends_fresh {e : JsEvent} (h : sends e = some (api, b)) : Fresh b := by
  cases e with
  | run id answers => cases h
  | call other args answers =>
    rw [sends] at h
    split at h
    · obtain ⟨c, hc, hpair⟩ := Option.map_eq_some_iff.mp h
      obtain ⟨_, rfl⟩ := Prod.mk.inj hpair
      obtain ⟨options, _, rfl⟩ := Option.map_eq_some_iff.mp hc
      exact ⟨rfl, rfl⟩
    · cases h

theorem callbacksOf_handleEvent (id other : ℕ) (answers : ClientAnswers) :
    callbacksOf (m.handleEvent limits other api b answers) id =
      callbacksOf m id ++
        if other = id then (b.handle limits api answers).1.executeCallback else [] := by
  have hmap (l : List JsCallback) :
      ((l.map fun callback => (other, callback)).filter fun entry => entry.1 = id).map Prod.snd =
        if other = id then l else [] := by
    induction l with
    | nil => simp
    | cons callback l ih =>
      rw [List.map_cons, List.filter_cons]
      by_cases h : other = id
      · rw [if_pos (by simpa using h), List.map_cons, ih, if_pos h, if_pos h]
      · rw [if_neg (by simpa using h), ih, if_neg h, if_neg h]
  rw [callbacksOf, handleEvent]
  dsimp only
  rw [List.filter_append, List.map_append, hmap]
  rfl

/-! ## Whole runs -/

/-- How the events sent so far stand: each is still to run and has called nothing, or has run once
and answered its call. -/
structure Answered [Napi] (limits : JsLimits) (past : List JsEvent) (m : JsModule) : Prop where
  next : m.events.next = (past.filterMap sends).length
  sent : ∀ id entry, (id, entry) ∈ m.events.pending → (past.filterMap sends)[id]? = some entry
  waits : ∀ id entry, (id, entry) ∈ m.events.pending →
    runsOf id past = [] ∧ callbacksOf m id = []
  done : ∀ id api b, (past.filterMap sends)[id]? = some (api, b) →
    (id, (api, b)) ∈ m.events.pending ∨ (∀ entry, (id, entry) ∉ m.events.pending) ∧
      ∃ answers, runsOf id past = [answers] ∧ Completes limits api b answers (callbacksOf m id)
  unsent : ∀ id, m.events.next ≤ id → runsOf id past = [] ∧ callbacksOf m id = []

theorem Answered.unsentCall (h : Answered limits past m) {args : List JsValue}
    {answers : ClientAnswers} (hsends : sends (.call api args answers) = none) {t : JsModule}
    (hevents : t.events = m.events) (hcallbacks : t.callbacks = m.callbacks) :
    Answered limits (past ++ [.call api args answers]) t := by
  have hposted :
      (past ++ [JsEvent.call api args answers]).filterMap sends = past.filterMap sends := by
    rw [List.filterMap_append, List.filterMap_cons, hsends]
    exact List.append_nil _
  have hcalled (id : ℕ) : callbacksOf t id = callbacksOf m id := by
    rw [callbacksOf, callbacksOf, hcallbacks]
  constructor
  · rw [hevents, hposted]
    exact h.next
  · rw [hevents, hposted]
    exact h.sent
  · intro id entry hp
    rw [runsOf_snoc_call, hcalled]
    exact h.waits id entry (hevents ▸ hp)
  · intro id api' b' hp
    rw [runsOf_snoc_call, hcalled, hevents]
    exact h.done id api' b' (hposted ▸ hp)
  · intro id hid
    rw [runsOf_snoc_call, hcalled]
    exact h.unsent id (hevents ▸ hid)

theorem Answered.sentCall (h : Answered limits past m) {args : List JsValue}
    {answers : ClientAnswers} (hsends : sends (.call api args answers) = some (api, b)) :
    Answered limits (past ++ [.call api args answers])
      { m with events := m.events.submit (api, b) } := by
  have hposted : (past ++ [JsEvent.call api args answers]).filterMap sends =
      past.filterMap sends ++ [(api, b)] := by
    rw [List.filterMap_append, List.filterMap_cons, hsends]
    rfl
  have hbefore {id : ℕ} (hid : id < m.events.next) :
      (past.filterMap sends ++ [(api, b)])[id]? = (past.filterMap sends)[id]? :=
    List.getElem?_append_left (h.next ▸ hid)
  have hlast : (past.filterMap sends ++ [(api, b)])[m.events.next]? = some (api, b) := by
    rw [h.next]
    exact List.getElem?_concat_length ..
  constructor
  · rw [hposted, List.length_append]
    exact congrArg (· + 1) h.next
  · intro id entry hp
    rw [hposted]
    rcases List.mem_append.mp hp with hp | hp
    · rw [hbefore (m.events.fresh _ hp)]
      exact h.sent id entry hp
    · obtain ⟨rfl, rfl⟩ := Prod.mk.inj (List.mem_singleton.mp hp)
      exact hlast
  · intro id entry hp
    rw [runsOf_snoc_call]
    rcases List.mem_append.mp hp with hp | hp
    · exact h.waits id entry hp
    · obtain ⟨rfl, rfl⟩ := Prod.mk.inj (List.mem_singleton.mp hp)
      exact h.unsent m.events.next le_rfl
  · intro id api' b' hp
    rw [runsOf_snoc_call]
    rw [hposted] at hp
    rcases Nat.lt_trichotomy id m.events.next with hlt | rfl | hgt
    · rw [hbefore hlt] at hp
      rcases h.done id api' b' hp with hwait | ⟨hrun, hanswer⟩
      · exact Or.inl (List.mem_append_left _ hwait)
      · refine Or.inr ⟨?_, hanswer⟩
        intro entry hmem
        rcases List.mem_append.mp hmem with hmem | hmem
        · exact hrun entry hmem
        · have := (Prod.mk.inj (List.mem_singleton.mp hmem)).1
          omega
    · rw [hlast] at hp
      obtain ⟨rfl, rfl⟩ := Prod.mk.inj (Option.some.inj hp)
      exact Or.inl (List.mem_append_right _ (List.mem_singleton_self _))
    · have hlen := h.next
      rw [List.getElem?_eq_none (by rw [List.length_append, List.length_singleton]; omega)] at hp
      cases hp
  · intro id hid
    rw [runsOf_snoc_call]
    exact h.unsent id (Nat.le_of_succ_le hid)

theorem Answered.ran (h : Answered limits past m) {id : ℕ}
    (hpending : (id, (api, b)) ∈ m.events.pending) (hfresh : Fresh b)
    (answers : ClientAnswers) :
    Answered limits (past ++ [.run id answers]) (m.handleEvent limits id api b answers) := by
  have hposted : (past ++ [JsEvent.run id answers]).filterMap sends = past.filterMap sends := by
    rw [List.filterMap_append]
    exact List.append_nil _
  have hother {other : ℕ} (hne : other ≠ id) :
      runsOf other (past ++ [.run id answers]) = runsOf other past ∧
        callbacksOf (m.handleEvent limits id api b answers) other = callbacksOf m other := by
    rw [runsOf_snoc_run, callbacksOf_handleEvent, if_neg (Ne.symm hne), if_neg (Ne.symm hne)]
    exact ⟨List.append_nil _, List.append_nil _⟩
  have hgone : ∀ entry, (id, entry) ∉ (m.handleEvent limits id api b answers).events.pending := by
    intro entry hmem
    exact (Tasks.mem_remove.mp hmem).2 rfl
  have hstays {other : ℕ} {entry : JsApi × Brightness} (hne : other ≠ id) :
      (other, entry) ∈ (m.handleEvent limits id api b answers).events.pending ↔
        (other, entry) ∈ m.events.pending :=
    ⟨fun hmem => (Tasks.mem_remove.mp hmem).1, fun hmem => Tasks.mem_remove.mpr ⟨hmem, hne⟩⟩
  constructor
  · rw [hposted]
    exact h.next
  · intro other entry hmem
    rw [hposted]
    exact h.sent other entry (Tasks.mem_remove.mp hmem).1
  · intro other entry hmem
    obtain ⟨hmem, hne⟩ := Tasks.mem_remove.mp hmem
    rw [(hother hne).1, (hother hne).2]
    exact h.waits other entry hmem
  · intro other api' b' hp
    rw [hposted] at hp
    by_cases hne : other = id
    · subst hne
      have hsame := (h.sent other (api, b) hpending).symm.trans hp
      obtain ⟨rfl, rfl⟩ := Prod.mk.inj (Option.some.inj hsame)
      obtain ⟨hruns, hcalled⟩ := h.waits other _ hpending
      refine Or.inr ⟨hgone, answers, ?_, ?_⟩
      · rw [runsOf_snoc_run, hruns, if_pos rfl]
        rfl
      · rw [callbacksOf_handleEvent, hcalled, if_pos rfl]
        exact handle_completes hfresh answers
    · rw [(hother hne).1, (hother hne).2]
      rcases h.done other api' b' hp with hwait | ⟨hrun, hanswer⟩
      · exact Or.inl ((hstays hne).mpr hwait)
      · exact Or.inr ⟨fun entry hmem => hrun entry ((hstays hne).mp hmem), hanswer⟩
  · intro other hnext
    have hne : other ≠ id := by
      have hfresh : id < m.events.next := m.events.fresh _ hpending
      have hle : m.events.next ≤ other := hnext
      omega
    rw [(hother hne).1, (hother hne).2]
    exact h.unsent other hnext

theorem posted_fresh {id : ℕ} (h : (past.filterMap sends)[id]? = some (api, b)) : Fresh b := by
  obtain ⟨e, _, he⟩ := List.mem_filterMap.mp (List.mem_of_getElem? h)
  exact sends_fresh he

theorem Answered.step (h : Answered limits past m) {e : JsEvent} {t : JsModule}
    (ht : step limits m e = some t) : Answered limits (past ++ [e]) t := by
  cases e with
  | call api args answers =>
    obtain rfl := Option.some.inj ht
    rw [handleCall]
    cases hwork : syncWork api args answers.hasRunningLock with
    | some b =>
      dsimp only
      split
      · rename_i hsent
        apply h.sentCall
        rw [sends, if_pos hsent, hwork]
        rfl
      · rename_i hsent
        exact h.unsentCall (if_neg hsent) rfl rfl
    | none =>
      have hsends : sends (.call api args answers) = none := by
        rw [sends, hwork]
        split <;> rfl
      dsimp only
      split
      · exact h.unsentCall hsends rfl rfl
      · exact h.unsentCall hsends rfl rfl
  | run id answers =>
    obtain ⟨⟨api, b⟩, hfind, rfl⟩ := Option.map_eq_some_iff.mp ht
    have hpending := Tasks.find?_eq_some.mp hfind
    exact h.ran hpending (posted_fresh (h.sent id _ hpending)) answers

end Answers

/-- The getters as ECMAScript has them: a number that is not finite counts as 0, the fraction of
another one is cut off, and the lowest 32 bits are kept. -/
instance standardNapi : Napi where
  getNamedProperty
    | .object properties, name => (properties.lookup name).getD .undefined
    | _, _ => .undefined
  getValueInt32
    | .number none => some 0
    | .number (some q) => some (Int.bmod (if 0 ≤ q then q.floor else q.ceil) (2 ^ 32))
    | _ => none
  getValueBool
    | .boolean b => some b
    | _ => none
  getValueInt32_isSome v := by
    cases v with
    | number n => cases n <;> simp [JsValue.typeof]
    | _ => simp [JsValue.typeof]
  getValueBool_boolean _ := rfl

/-- What the arguments of `setValue` are: an options object, a number with a continuous flag that
is given, left out or no flag, nothing to set, or none of these. -/
inductive SetValueForm where
  | later
  | value (n : Option ℚ) (continuous : Option Bool)
  | nothing
  | invalid

def calledBy [Napi] (limits : JsLimits) : SetValueForm → List ClientCall
  | .value n continuous =>
    [.setBrightness (clampValue limits ((Napi.getValueInt32 (.number n)).getD 0))
      (continuous.getD false)]
  | _ => []

end JsModule

end DisplayPowerMgr
