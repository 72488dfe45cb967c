import Mathlib.Data.Rat.Floor
import DisplayPowerMgr.Library.Codec
import DisplayPowerMgr.Library.History
import DisplayPowerMgr.Library.Tasks

/-! The callbacks of the clients as messages: what the proxies of the service write, what the stubs
of the clients read from any message, and what the clients are told over a whole run. -/
namespace DisplayPowerMgr

/-- The answers of `OnRemoteRequest`, by the names of their codes. -/
inductive RequestResult where
  | ERR_OK
  | E_READ_PARCEL_ERROR
  | E_GET_POWER_SERVICE_FAILED
  | ipcObjectStub (code : ℤ)
  deriving DecidableEq, Repr

inductive CallbackInterface where
  | displayPowerCallback
  | displayBrightnessCallback
  | displayBrightnessListener
  | multiScreenDisplayStateCallback
  deriving DecidableEq, Repr

/-- The enumerations have 32 bits, and a stub casts to them whatever it reads. -/
inductive CallbackCall where
  | onDisplayStateChanged (displayId state reason : UInt32)
  | onNotifyApsLightBrightnessChange (type : UInt32) (state : Int32)
  | onDataChanged (params : String)
  | onMultiScreenDisplayStateChanged (displayId : UInt64) (screenName : String)
      (state reason : UInt32)
  deriving DecidableEq

def CallbackInterface.descriptor : CallbackInterface → String
  | .displayPowerCallback => "ohos.powermgr.IDisplayPowerCallback"
  | .displayBrightnessCallback => "ohos.powermgr.IDisplayBrightnessCallback"
  | .displayBrightnessListener => "ohos.powermgr.IDisplayBrightnessListener"
  | .multiScreenDisplayStateCallback => "ohos.powermgr.IMultiScreenDisplayStateCallback"

def ON_DISPLAY_STATE_CHANGED : UInt32 := 0
def ON_NOTIFY_APS_LIGHT_BRIGHTNESS_CHANGE : UInt32 := 0
def ON_DATA_CHANGED : UInt32 := 0
def ON_MULTI_SCREEN_DISPLAY_STATE_CHANGED : UInt32 := 0

/-- How a parcel holds the values of each kind. -/
structure ParcelFormat (β : Type) where
  interfaceToken : Codec β String
  uint32 : Codec β UInt32
  int32 : Codec β Int32
  uint64 : Codec β UInt64
  string : Codec β String

/-- A parcel that is written, and how much it can hold; a writer gives up at the first write that
fails, so any one failure is a parcel with less room. -/
structure MessageParcel (β : Type) where
  room : ℕ
  data : List β := []

structure Request (β : Type) where
  object : ℕ
  code : UInt32
  data : List β

structure Handled where
  result : RequestResult
  called : Option CallbackCall := none
  deriving DecidableEq

variable {α β γ : Type}

def MessageParcel.write (parcel : MessageParcel β) (c : Codec β α) (a : α) :
    Option (MessageParcel β) :=
  if parcel.data.length + (c.encode a).length ≤ parcel.room then
    some { parcel with data := parcel.data ++ c.encode a }
  else none

/-- A proxy sends nothing without its remote object, nor a parcel that was not written in full. -/
def DisplayPowerCallbackProxy.onDisplayStateChanged (fmt : ParcelFormat β) (remote : Option ℕ)
    (room : ℕ) (displayId state reason : UInt32) : Option (Request β) := do
  let object ← remote
  let data : MessageParcel β := { room }
  let data ← data.write fmt.interfaceToken CallbackInterface.displayPowerCallback.descriptor
  let data ← data.write fmt.uint32 displayId
  let data ← data.write fmt.uint32 state
  let data ← data.write fmt.uint32 reason
  some { object, code := ON_DISPLAY_STATE_CHANGED, data := data.data }

def DisplayBrightnessCallbackProxy.onNotifyApsLightBrightnessChange (fmt : ParcelFormat β)
    (remote : Option ℕ) (room : ℕ) (type : UInt32) (state : Int32) : Option (Request β) := do
  let object ← remote
  let data : MessageParcel β := { room }
  let data ← data.write fmt.interfaceToken CallbackInterface.displayBrightnessCallback.descriptor
  let data ← data.write fmt.uint32 type
  let data ← data.write fmt.int32 state
  some { object, code := ON_NOTIFY_APS_LIGHT_BRIGHTNESS_CHANGE, data := data.data }

def IDisplayBrightnessListenerProxy.onDataChanged (fmt : ParcelFormat β) (remote : Option ℕ)
    (room : ℕ) (params : String) : Option (Request β) := do
  let object ← remote
  let data : MessageParcel β := { room }
  let data ← data.write fmt.interfaceToken CallbackInterface.displayBrightnessListener.descriptor
  let data ← data.write fmt.string params
  some { object, code := ON_DATA_CHANGED, data := data.data }

def MultiScreenDisplayStateCallbackProxy.onMultiScreenDisplayStateChanged (fmt : ParcelFormat β)
    (remote : Option ℕ) (room : ℕ) (displayId : UInt64) (screenName : String)
    (state reason : UInt32) : Option (Request β) := do
  let object ← remote
  let data : MessageParcel β := { room }
  let data ←
    data.write fmt.interfaceToken CallbackInterface.multiScreenDisplayStateCallback.descriptor
  let data ← data.write fmt.uint64 displayId
  let data ← data.write fmt.string screenName
  let data ← data.write fmt.uint32 state
  let data ← data.write fmt.uint32 reason
  some { object, code := ON_MULTI_SCREEN_DISPLAY_STATE_CHANGED, data := data.data }

def calledWith : Option CallbackCall → Handled
  | none => { result := .E_READ_PARCEL_ERROR }
  | some call => { result := .ERR_OK, called := some call }

def DisplayPowerCallbackStub.onDisplayStateChangedStub (fmt : ParcelFormat β) (data : List β) :
    Handled :=
  calledWith do
    let (id, data) ← fmt.uint32.decode data
    let (state, data) ← fmt.uint32.decode data
    let (reason, _) ← fmt.uint32.decode data
    some (.onDisplayStateChanged id state reason)

def DisplayBrightnessCallbackStub.onNotifyApsLightBrightnessChangeStub (fmt : ParcelFormat β)
    (data : List β) : Handled :=
  calledWith do
    let (type, data) ← fmt.uint32.decode data
    let (state, _) ← fmt.int32.decode data
    some (.onNotifyApsLightBrightnessChange type state)

/-- A text that cannot be read is taken for the empty one. -/
def DisplayBrightnessListenerStub.onDataChangedStub (fmt : ParcelFormat β) (data : List β) :
    Handled where
  result := .ERR_OK
  called := some (.onDataChanged (((fmt.string.decode data).map Prod.fst).getD ""))

def MultiScreenDisplayStateCallbackStub.onMultiScreenDisplayStateChangedStub
    (fmt : ParcelFormat β) (data : List β) : Handled :=
  calledWith do
    let (displayId, data) ← fmt.uint64.decode data
    let (screenName, data) ← fmt.string.decode data
    let (state, data) ← fmt.uint32.decode data
    let (reason, _) ← fmt.uint32.decode data
    some (.onMultiScreenDisplayStateChanged displayId screenName state reason)

/-- What the stubs do alike; a token that cannot be read is taken for the empty one. -/
def onRemoteRequest (fmt : ParcelFormat β) (descriptor : String) (expected : UInt32)
    (stub : List β → Handled) (ipcObjectStub : UInt32 → List β → ℤ) (code : UInt32)
    (data : List β) : Handled :=
  let token := (fmt.interfaceToken.decode data).getD ("", data)
  if token.1 ≠ descriptor then { result := .E_GET_POWER_SERVICE_FAILED }
  else if code = expected then stub token.2
  else { result := .ipcObjectStub (ipcObjectStub code token.2) }

def DisplayPowerCallbackStub.onRemoteRequest (fmt : ParcelFormat β) :=
  DisplayPowerMgr.onRemoteRequest fmt CallbackInterface.displayPowerCallback.descriptor
    ON_DISPLAY_STATE_CHANGED (onDisplayStateChangedStub fmt)

def DisplayBrightnessCallbackStub.onRemoteRequest (fmt : ParcelFormat β) :=
  DisplayPowerMgr.onRemoteRequest fmt CallbackInterface.displayBrightnessCallback.descriptor
    ON_NOTIFY_APS_LIGHT_BRIGHTNESS_CHANGE (onNotifyApsLightBrightnessChangeStub fmt)

def DisplayBrightnessListenerStub.onRemoteRequest (fmt : ParcelFormat β) :=
  DisplayPowerMgr.onRemoteRequest fmt CallbackInterface.displayBrightnessListener.descriptor
    ON_DATA_CHANGED (onDataChangedStub fmt)

def MultiScreenDisplayStateCallbackStub.onRemoteRequest (fmt : ParcelFormat β) :=
  DisplayPowerMgr.onRemoteRequest fmt CallbackInterface.multiScreenDisplayStateCallback.descriptor
    ON_MULTI_SCREEN_DISPLAY_STATE_CHANGED (onMultiScreenDisplayStateChangedStub fmt)

def CallbackInterface.onRemoteRequest (fmt : ParcelFormat β) :
    CallbackInterface → (UInt32 → List β → ℤ) → UInt32 → List β → Handled
  | .displayPowerCallback => DisplayPowerCallbackStub.onRemoteRequest fmt
  | .displayBrightnessCallback => DisplayBrightnessCallbackStub.onRemoteRequest fmt
  | .displayBrightnessListener => DisplayBrightnessListenerStub.onRemoteRequest fmt
  | .multiScreenDisplayStateCallback => MultiScreenDisplayStateCallbackStub.onRemoteRequest fmt

namespace CallbackCall

def interface : CallbackCall → CallbackInterface
  | onDisplayStateChanged .. => .displayPowerCallback
  | onNotifyApsLightBrightnessChange .. => .displayBrightnessCallback
  | onDataChanged _ => .displayBrightnessListener
  | onMultiScreenDisplayStateChanged .. => .multiScreenDisplayStateCallback

def send (fmt : ParcelFormat β) (remote : Option ℕ) (room : ℕ) : CallbackCall → Option (Request β)
  | onDisplayStateChanged displayId state reason =>
    DisplayPowerCallbackProxy.onDisplayStateChanged fmt remote room displayId state reason
  | onNotifyApsLightBrightnessChange type state =>
    DisplayBrightnessCallbackProxy.onNotifyApsLightBrightnessChange fmt remote room type state
  | onDataChanged params =>
    IDisplayBrightnessListenerProxy.onDataChanged fmt remote room params
  | onMultiScreenDisplayStateChanged displayId screenName state reason =>
    MultiScreenDisplayStateCallbackProxy.onMultiScreenDisplayStateChanged fmt remote room
      displayId screenName state reason

def body (fmt : ParcelFormat β) : CallbackCall → List β
  | onDisplayStateChanged displayId state reason =>
    fmt.uint32.encode displayId ++ (fmt.uint32.encode state ++ fmt.uint32.encode reason)
  | onNotifyApsLightBrightnessChange type state => fmt.uint32.encode type ++ fmt.int32.encode state
  | onDataChanged params => fmt.string.encode params
  | onMultiScreenDisplayStateChanged displayId screenName state reason =>
    fmt.uint64.encode displayId ++ (fmt.string.encode screenName ++
      (fmt.uint32.encode state ++ fmt.uint32.encode reason))

def token (fmt : ParcelFormat β) (call : CallbackCall) : List β :=
  fmt.interfaceToken.encode call.interface.descriptor

def message (fmt : ParcelFormat β) (call : CallbackCall) : List β :=
  call.token fmt ++ call.body fmt

theorem write_write (parcel : MessageParcel β) (c : Codec β α) (d : Codec β γ) (a : α) (b : γ)
    {δ : Type} (next : MessageParcel β → Option δ) :
    ((parcel.write c a).bind fun p => (p.write d b).bind next) =
      (parcel.write (c.pair d) (a, b)).bind next := by
  have hpair : ((c.pair d).encode (a, b)).length = (c.encode a).length + (d.encode b).length :=
    List.length_append
  simp only [MessageParcel.write, hpair]
  by_cases hfirst : parcel.data.length + (c.encode a).length ≤ parcel.room
  · rw [if_pos hfirst, Option.bind_some]
    simp only [List.length_append, Nat.add_assoc]
    split
    · rw [Option.bind_some, Option.bind_some, List.append_assoc]
      rfl
    · rfl
  · rw [if_neg hfirst, if_neg (by omega)]
    rfl

theorem send_eq (fmt : ParcelFormat β) (remote : Option ℕ) (room : ℕ) (call : CallbackCall) :
    call.send fmt remote room = remote.bind fun object =>
      if (call.message fmt).length ≤ room then some ⟨object, 0, call.message fmt⟩ else none := by
  cases remote with
  | none => cases call <;> rfl
  | some object =>
    have hwrite {α : Type} (c : Codec β α) (a : α) : ((({ room } : MessageParcel β).write c a).bind
        fun p => some (⟨object, 0, p.data⟩ : Request β)) =
          if (c.encode a).length ≤ room then some ⟨object, 0, c.encode a⟩ else none := by
      simp only [MessageParcel.write, List.length_nil, Nat.zero_add]
      split
      · rfl
      · rfl
    cases call <;>
      simp only [send, DisplayPowerCallbackProxy.onDisplayStateChanged,
        DisplayBrightnessCallbackProxy.onNotifyApsLightBrightnessChange,
        IDisplayBrightnessListenerProxy.onDataChanged,
        MultiScreenDisplayStateCallbackProxy.onMultiScreenDisplayStateChanged,
        Option.bind_eq_bind, Option.bind_some, write_write, ON_DISPLAY_STATE_CHANGED,
        ON_NOTIFY_APS_LIGHT_BRIGHTNESS_CHANGE, ON_DATA_CHANGED,
        ON_MULTI_SCREEN_DISPLAY_STATE_CHANGED, hwrite] <;>
      rfl

end CallbackCall

theorem uint64_of_words (v : UInt64) :
    UInt64.ofNat ((UInt32.ofNat (v.toNat % 2 ^ 32)).toNat +
      2 ^ 32 * (UInt32.ofNat (v.toNat / 2 ^ 32)).toNat) = v := by
  have hlow : (UInt32.ofNat (v.toNat % 2 ^ 32)).toNat = v.toNat % 2 ^ 32 :=
    UInt32.toNat_ofNat_of_lt (Nat.mod_lt _ (by decide))
  have hhigh : (UInt32.ofNat (v.toNat / 2 ^ 32)).toNat = v.toNat / 2 ^ 32 := by
    have hv := v.toNat_lt
    apply UInt32.toNat_ofNat_of_lt
    change v.toNat / 2 ^ 32 < 2 ^ 32
    omega
  rw [hlow, hhigh, Nat.mod_add_div, UInt64.ofNat_toNat]

/-- A parcel of words: a number of 64 bits is two of them, the lower one first, and a text its
length and then its characters. -/
def ParcelFormat.words : ParcelFormat ℕ where
  interfaceToken := text
  uint32 := word
  int32 := word.via Int32.toUInt32 (fun w => some w.toInt32) (by simp)
  uint64 := (word.pair word).via
    (fun v => (UInt32.ofNat (v.toNat % 2 ^ 32), UInt32.ofNat (v.toNat / 2 ^ 32)))
    (fun p => some (UInt64.ofNat (p.1.toNat + 2 ^ 32 * p.2.toNat)))
    (fun v => congrArg some (uint64_of_words v))
  string := text
where
  word : Codec ℕ UInt32 :=
    (Codec.unit ℕ).via UInt32.toNat (fun n => some (UInt32.ofNat n)) (by simp)
  text : Codec ℕ String :=
    (Codec.counted (Codec.unit ℕ) ((Codec.unit ℕ).via Char.toNat (fun n => some (Char.ofNat n))
      (by simp))).via String.toList (fun cs => some (String.ofList cs)) (by simp)

def CallbackInterface.stub (fmt : ParcelFormat β) : CallbackInterface → List β → Handled
  | .displayPowerCallback => DisplayPowerCallbackStub.onDisplayStateChangedStub fmt
  | .displayBrightnessCallback =>
    DisplayBrightnessCallbackStub.onNotifyApsLightBrightnessChangeStub fmt
  | .displayBrightnessListener => DisplayBrightnessListenerStub.onDataChangedStub fmt
  | .multiScreenDisplayStateCallback =>
    MultiScreenDisplayStateCallbackStub.onMultiScreenDisplayStateChangedStub fmt

namespace CallbackCall

variable (fmt : ParcelFormat β)

/-- A stub that reads its values one behind the other as one. -/
def calledBy (c : Codec β α) (make : α → CallbackCall) (data : List β) : Handled :=
  calledWith ((c.decode data).map fun p => make p.1)

theorem calledBy_whole (c : Codec β α) (make : α → CallbackCall) (a : α) :
    calledBy c make (c.encode a) = { result := .ERR_OK, called := some (make a) } := by
  rw [calledBy, c.decode_whole]
  rfl

theorem calledBy_cut (c : Codec β α) (make : α → CallbackCall) (a : α) {n : ℕ}
    (hn : n < (c.encode a).length) :
    calledBy c make ((c.encode a).take n) = { result := .E_READ_PARCEL_ERROR } := by
  rw [calledBy, c.decode_cut a n hn]
  rfl

theorem onDisplayStateChangedStub_eq :
    DisplayPowerCallbackStub.onDisplayStateChangedStub fmt =
      calledBy (fmt.uint32.pair (fmt.uint32.pair fmt.uint32)) fun v =>
        .onDisplayStateChanged v.1 v.2.1 v.2.2 := by
  funext data
  simp only [calledBy, Option.map_eq_bind, Codec.decode_pair_bind]
  rfl

theorem onNotifyApsLightBrightnessChangeStub_eq :
    DisplayBrightnessCallbackStub.onNotifyApsLightBrightnessChangeStub fmt =
      calledBy (fmt.uint32.pair fmt.int32) fun v => .onNotifyApsLightBrightnessChange v.1 v.2 := by
  funext data
  simp only [calledBy, Option.map_eq_bind, Codec.decode_pair_bind]
  rfl

theorem onMultiScreenDisplayStateChangedStub_eq :
    MultiScreenDisplayStateCallbackStub.onMultiScreenDisplayStateChangedStub fmt =
      calledBy (fmt.uint64.pair (fmt.string.pair (fmt.uint32.pair fmt.uint32))) fun v =>
        .onMultiScreenDisplayStateChanged v.1 v.2.1 v.2.2.1 v.2.2.2 := by
  funext data
  simp only [calledBy, Option.map_eq_bind, Codec.decode_pair_bind]
  rfl

theorem stub_body (call : CallbackCall) :
    call.interface.stub fmt (call.body fmt) = { result := .ERR_OK, called := some call } := by
  cases call with
  | onDisplayStateChanged displayId state reason =>
    simp only [interface, CallbackInterface.stub, onDisplayStateChangedStub_eq]
    exact calledBy_whole _ _ (displayId, state, reason)
  | onNotifyApsLightBrightnessChange type state =>
    simp only [interface, CallbackInterface.stub, onNotifyApsLightBrightnessChangeStub_eq]
    exact calledBy_whole _ _ (type, state)
  | onDataChanged params =>
    simp only [interface, CallbackInterface.stub, DisplayBrightnessListenerStub.onDataChangedStub,
      body, fmt.string.decode_whole]
    rfl
  | onMultiScreenDisplayStateChanged displayId screenName state reason =>
    simp only [interface, CallbackInterface.stub, onMultiScreenDisplayStateChangedStub_eq]
    exact calledBy_whole _ _ (displayId, screenName, state, reason)

/-- What a stub does when its values are cut off. -/
def cutOff : CallbackInterface → Handled
  | .displayBrightnessListener => { result := .ERR_OK, called := some (.onDataChanged "") }
  | _ => { result := .E_READ_PARCEL_ERROR }

theorem stub_cut (call : CallbackCall) {n : ℕ} (hn : n < (call.body fmt).length) :
    call.interface.stub fmt ((call.body fmt).take n) = cutOff call.interface := by
  cases call with
  | onDisplayStateChanged displayId state reason =>
    simp only [interface, CallbackInterface.stub, onDisplayStateChangedStub_eq]
    exact calledBy_cut _ _ (displayId, state, reason) hn
  | onNotifyApsLightBrightnessChange type state =>
    simp only [interface, CallbackInterface.stub, onNotifyApsLightBrightnessChangeStub_eq]
    exact calledBy_cut _ _ (type, state) hn
  | onDataChanged params =>
    have hcut : fmt.string.decode ((fmt.string.encode params).take n) = none :=
      fmt.string.decode_cut params n hn
    simp only [interface, CallbackInterface.stub, DisplayBrightnessListenerStub.onDataChangedStub,
      body, hcut]
    rfl
  | onMultiScreenDisplayStateChanged displayId screenName state reason =>
    simp only [interface, CallbackInterface.stub, onMultiScreenDisplayStateChangedStub_eq]
    exact calledBy_cut _ _ (displayId, screenName, state, reason) hn

theorem descriptor_injective : Function.Injective CallbackInterface.descriptor := by
  intro i j h
  cases i <;> cases j <;> first | rfl | exact absurd h (by decide)

theorem descriptor_ne_empty (i : CallbackInterface) : i.descriptor ≠ "" := by
  cases i <;> decide

theorem onRemoteRequest_eq (i : CallbackInterface) :
    i.onRemoteRequest fmt = onRemoteRequest fmt i.descriptor 0 (i.stub fmt) := by
  cases i <;> rfl

section Stub

variable {fmt} (i : CallbackInterface) (ipcObjectStub : UInt32 → List β → ℤ) {code : UInt32}
  {data rest : List β}

theorem refused_unread (h : fmt.interfaceToken.decode data = none) :
    i.onRemoteRequest fmt ipcObjectStub code data = { result := .E_GET_POWER_SERVICE_FAILED } := by
  rw [onRemoteRequest_eq, onRemoteRequest, h, Option.getD_none,
    if_pos (descriptor_ne_empty i).symm]

theorem refused_foreign {other : CallbackInterface} (hother : other ≠ i)
    (h : fmt.interfaceToken.decode data = some (other.descriptor, rest)) :
    i.onRemoteRequest fmt ipcObjectStub code data = { result := .E_GET_POWER_SERVICE_FAILED } := by
  rw [onRemoteRequest_eq, onRemoteRequest, h, Option.getD_some,
    if_pos (descriptor_injective.ne hother)]

theorem admitted (h : fmt.interfaceToken.decode data = some (i.descriptor, rest)) :
    i.onRemoteRequest fmt ipcObjectStub code data =
      if code = 0 then i.stub fmt rest
      else { result := .ipcObjectStub (ipcObjectStub code rest) } := by
  rw [onRemoteRequest_eq, onRemoteRequest, h, Option.getD_some, if_neg (not_not_intro rfl)]

end Stub

/-- A whole message calls back its interface with what was sent, and no other one. -/
theorem handle_message (i : CallbackInterface) (ipcObjectStub : UInt32 → List β → ℤ)
    (call : CallbackCall) :
    i.onRemoteRequest fmt ipcObjectStub 0 (call.message fmt) =
      if call.interface = i then { result := .ERR_OK, called := some call }
      else { result := .E_GET_POWER_SERVICE_FAILED } := by
  have htoken : fmt.interfaceToken.decode (call.message fmt) =
      some (call.interface.descriptor, call.body fmt) :=
    fmt.interfaceToken.decode_encode call.interface.descriptor (call.body fmt)
  by_cases hi : call.interface = i
  · subst hi
    rw [if_pos rfl, admitted _ _ htoken, if_pos rfl, stub_body]
  · rw [if_neg hi, refused_foreign i _ hi htoken]

/-- A message cut off within it is refused: its token, its code, or its values. Only the listener
of the brightness data is called, with an empty text, when the text alone is cut off. -/
theorem cut_message_refused (call : CallbackCall) (n : ℕ) (hn : n < (call.message fmt).length)
    (i : CallbackInterface) (ipcObjectStub : UInt32 → List β → ℤ) (code : UInt32) :
    i.onRemoteRequest fmt ipcObjectStub code ((call.message fmt).take n) =
      if n < (call.token fmt).length ∨ call.interface ≠ i then
        { result := .E_GET_POWER_SERVICE_FAILED }
      else if code = 0 then cutOff i
      else
        { result := .ipcObjectStub
            (ipcObjectStub code ((call.body fmt).take (n - (call.token fmt).length))) } := by
  rcases fmt.interfaceToken.decode_take call.interface.descriptor hn with
    ⟨hshort, hnone⟩ | ⟨k, hk, hlength, hsome⟩
  · have hshort : n < (call.token fmt).length := hshort
    rw [if_pos (Or.inl hshort)]
    exact refused_unread i _ hnone
  · have htoken : n = (call.token fmt).length + k := hlength
    by_cases hi : call.interface = i
    · subst hi
      have hrest : n - (call.token fmt).length = k := by omega
      rw [if_neg (not_or_intro (by omega) (not_not_intro rfl)), hrest]
      refine (admitted _ _ hsome).trans ?_
      by_cases hcode : code = 0
      · rw [if_pos hcode, if_pos hcode, stub_cut fmt call hk]
      · rw [if_neg hcode, if_neg hcode]
    · rw [if_pos (Or.inr hi)]
      exact refused_foreign i _ hi hsome

/-- The brightness listener hears of a text that was cut off, as of an empty one. -/
theorem cut_text_taken_for_empty :
    CallbackInterface.displayBrightnessListener.onRemoteRequest .words (fun _ _ => 0)
      ON_DATA_CHANGED (((onDataChanged "lux").message .words).take 43) =
        { result := .ERR_OK, called := some (.onDataChanged "") } := by
  refine (cut_message_refused .words (.onDataChanged "lux") 43 (by decide)
    .displayBrightnessListener (fun _ _ => 0) ON_DATA_CHANGED).trans ?_
  decide

end CallbackCall

structure Invocation where
  object : ℕ
  call : CallbackCall
  deriving DecidableEq

/-- The objects of the clients, each of one interface, and the base class of their stubs. -/
structure CallbackObjects (β : Type) where
  fmt : ParcelFormat β
  kind : ℕ → CallbackInterface
  ipcObjectStub : UInt32 → List β → ℤ := fun _ _ => 0

/-- The requests under way, the calls made, and the requests that never arrived. -/
structure CallbackTraffic (β : Type) where
  requests : Tasks (Request β) := .empty
  invoked : List Invocation := []
  lost : List (Request β) := []

/-- The service calls a proxy, any process sends what it likes, a request is handled, or it is lost
with its object. Requests are handled in any order. -/
inductive TrafficEvent (β : Type) where
  | notify (remote : Option ℕ) (call : CallbackCall) (room : ℕ)
  | foreign (request : Request β)
  | handle (id : ℕ)
  | lose (id : ℕ)

namespace CallbackTraffic

open Runs CallbackCall

variable (peers : CallbackObjects β)

def invocation (r : Request β) : Option Invocation :=
  (((peers.kind r.object).onRemoteRequest peers.fmt peers.ipcObjectStub r.code r.data).called).map
    fun call => ⟨r.object, call⟩

def step (m : CallbackTraffic β) : TrafficEvent β → Option (CallbackTraffic β)
  | .notify remote call room =>
    match call.send peers.fmt remote room with
    | none => some m
    | some r => some { m with requests := m.requests.submit r }
  | .foreign r => some { m with requests := m.requests.submit r }
  | .handle id => (m.requests.find? id).map fun r =>
    { m with
      requests := m.requests.remove id
      invoked := m.invoked ++ (invocation peers r).toList }
  | .lose id => (m.requests.find? id).map fun r =>
    { m with requests := m.requests.remove id, lost := m.lost ++ [r] }

/-- The call that an event asks for: a notification asks its object for just this call if its
message fits into a parcel, and no object of another interface for any. -/
def asked : TrafficEvent β → Option Invocation
  | .notify remote call room => remote.bind fun object =>
    if peers.kind object = call.interface ∧ (call.message peers.fmt).length ≤ room then
      some ⟨object, call⟩
    else none
  | .foreign r => invocation peers r
  | _ => none

/-- The requests that were sent and not handled. -/
def unhandled (m : CallbackTraffic β) : List (Request β) :=
  m.requests.pending.map Prod.snd ++ m.lost

/-- The calls still to be made by requests under way, and those that never will be. -/
def outstanding (m : CallbackTraffic β) : List Invocation :=
  m.unhandled.filterMap (invocation peers)

theorem invocation_sent {remote : Option ℕ} {call : CallbackCall} {room : ℕ} {r : Request β}
    (h : call.send peers.fmt remote room = some r) :
    invocation peers r = asked peers (.notify remote call room) := by
  rw [send_eq] at h
  obtain ⟨object, hremote, hr⟩ := Option.bind_eq_some_iff.mp h
  by_cases hroom : (call.message peers.fmt).length ≤ room
  · rw [if_pos hroom] at hr
    obtain rfl := Option.some.inj hr
    subst hremote
    rw [invocation, handle_message, asked, Option.bind_some]
    by_cases hkind : call.interface = peers.kind object
    · rw [if_pos hkind, if_pos ⟨hkind.symm, hroom⟩]
      rfl
    · rw [if_neg hkind, if_neg fun hboth => hkind hboth.1.symm]
      rfl
  · rw [if_neg hroom] at hr
    cases hr

theorem asked_unsent {remote : Option ℕ} {call : CallbackCall} {room : ℕ}
    (h : call.send peers.fmt remote room = none) :
    asked peers (.notify remote call room) = none := by
  rw [send_eq] at h
  cases remote with
  | none => rfl
  | some object =>
    rw [Option.bind_some] at h
    have hroom : ¬ (call.message peers.fmt).length ≤ room := by
      intro hroom
      rw [if_pos hroom] at h
      cases h
    rw [asked, Option.bind_some, if_neg fun hboth => hroom hboth.2]

theorem unhandled_submit (m : CallbackTraffic β) (r : Request β) :
    ({ m with requests := m.requests.submit r } : CallbackTraffic β).unhandled.Perm
      (r :: m.unhandled) := by
  simp only [unhandled, Tasks.submit_pending, List.map_append, List.map_cons, List.map_nil,
    List.append_assoc, List.singleton_append]
  exact List.perm_middle

theorem unhandled_handle {m : CallbackTraffic β} {id : ℕ} {r : Request β}
    (h : (id, r) ∈ m.requests.pending) :
    m.unhandled.Perm (r :: ((m.requests.remove id).pending.map Prod.snd ++ m.lost)) :=
  ((Tasks.pending_perm h).map Prod.snd).append_right m.lost

theorem unhandled_lose {m : CallbackTraffic β} {id : ℕ} {r : Request β}
    (h : (id, r) ∈ m.requests.pending) :
    m.unhandled.Perm ((m.requests.remove id).pending.map Prod.snd ++ (m.lost ++ [r])) := by
  refine (unhandled_handle h).trans ?_
  rw [← List.append_assoc]
  exact (List.perm_append_singleton r _).symm

theorem step_accounts {m m' : CallbackTraffic β} {e : TrafficEvent β}
    (h : step peers m e = some m') :
    (m'.invoked ++ outstanding peers m').Perm
      (m.invoked ++ outstanding peers m ++ (asked peers e).toList) := by
  have hsubmit (r : Request β) : (m.invoked ++ outstanding peers
      { m with requests := m.requests.submit r }).Perm
        (m.invoked ++ outstanding peers m ++ (invocation peers r).toList) := by
    have hmore := (unhandled_submit m r).filterMap (invocation peers)
    rw [List.append_assoc]
    apply List.Perm.append_left
    refine hmore.trans ?_
    rw [← List.singleton_append, List.filterMap_append]
    refine List.perm_append_comm.trans ?_
    apply List.Perm.append_left
    cases hr : invocation peers r <;> simp [hr]
  cases e with
  | notify remote call room =>
    cases hsend : call.send peers.fmt remote room with
    | none =>
      simp only [step, hsend, Option.some.injEq] at h
      subst h
      rw [asked_unsent peers hsend, Option.toList_none, List.append_nil]
    | some r =>
      simp only [step, hsend, Option.some.injEq] at h
      subst h
      rw [← invocation_sent peers hsend]
      exact hsubmit r
  | foreign r =>
    simp only [step, Option.some.injEq] at h
    subst h
    exact hsubmit r
  | handle id =>
    obtain ⟨r, hr, rfl⟩ := Option.map_eq_some_iff.mp h
    have hpending := Tasks.find?_eq_some.mp hr
    have hrest := (unhandled_handle hpending).filterMap (invocation peers)
    simp only [asked, Option.toList_none, List.append_nil, List.append_assoc]
    apply List.Perm.append_left
    refine List.Perm.trans ?_ hrest.symm
    cases hi : invocation peers r <;> simp [hi, outstanding, unhandled]
  | lose id =>
    obtain ⟨r, hr, rfl⟩ := Option.map_eq_some_iff.mp h
    have hpending := Tasks.find?_eq_some.mp hr
    have hrest := (unhandled_lose hpending).filterMap (invocation peers)
    simp only [asked, Option.toList_none, List.append_nil]
    exact List.Perm.append_left _ hrest.symm

/-- In every run the calls made, with those that requests under way will make or lost ones would
have made, are the calls asked for: none is made twice, changed, or made up. -/
theorem notified_exactly {es : List (TrafficEvent β)} {m : CallbackTraffic β}
    (hm : run (step peers) {} es = some m) :
    (m.invoked ++ outstanding peers m).Perm (es.filterMap (asked peers)) := by
  have hstart : (({} : CallbackTraffic β).invoked ++ outstanding peers {}).Perm
      (([] : List (TrafficEvent β)).filterMap (asked peers)) := List.Perm.nil
  apply run_history (J := fun past m =>
    (m.invoked ++ outstanding peers m).Perm (past.filterMap (asked peers))) hstart ?_ hm
  intro past u e v hu _ huv
  have hlast : List.filterMap (asked peers) [e] = (asked peers e).toList := by
    cases he : asked peers e <;> simp [he]
  rw [List.filterMap_append, hlast]
  exact (step_accounts peers huv).trans (hu.append_right _)

def twoClients : CallbackObjects ℕ where
  fmt := .words
  kind := fun object =>
    if object = 0 then .multiScreenDisplayStateCallback else .displayBrightnessListener

/-- Both are told something, a text too long for its parcel is not sent, and the second answer
comes first. -/
def twoNotices : List (TrafficEvent ℕ) :=
  [.notify (some 0) (.onMultiScreenDisplayStateChanged 7 "HDMI" 2 0) 100,
    .notify (some 1) (.onDataChanged "lux") 100,
    .notify (some 1) (.onDataChanged "scene") 40,
    .handle 1, .handle 0]

theorem two_notified_exactly :
    ∃ m, run (step twoClients) {} twoNotices = some m ∧ (m.invoked ++ outstanding twoClients m).Perm
      [⟨0, .onMultiScreenDisplayStateChanged 7 "HDMI" 2 0⟩, ⟨1, .onDataChanged "lux"⟩] := by
  cases h : run (step twoClients) {} twoNotices with
  | none =>
    have hruns : (run (step twoClients) {} twoNotices).isSome = true := by decide
    rw [h] at hruns
    cases hruns
  | some m =>
    have hasked : twoNotices.filterMap (asked twoClients) =
        [⟨0, .onMultiScreenDisplayStateChanged 7 "HDMI" 2 0⟩, ⟨1, .onDataChanged "lux"⟩] := by
      decide
    refine ⟨m, rfl, ?_⟩
    rw [← hasked]
    exact notified_exactly twoClients h

end CallbackTraffic

end DisplayPowerMgr
