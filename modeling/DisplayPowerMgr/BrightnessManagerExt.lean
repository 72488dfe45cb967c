import Mathlib.Data.Rat.Defs
import DisplayPowerMgr.DisplayPowerInfo
import DisplayPowerMgr.Library.History

/-! The wrapper library that takes over the brightness where it is built in: its functions are
looked up by name as it is opened, and called through the pointers found. -/
namespace DisplayPowerMgr.BrightnessWrapper

inductive ExtFunction where
  | init | deInit | getCurrentDisplayId | setDisplayId | setLightBrightnessThreshold
  | setMaxBrightness | setMaxBrightnessNit | setSceneMode | isSupportLightSensor
  | isAutoAdjustBrightness | waitDimmingDone | getFeatureSupport | setForcedBrightness
  | runJsonCommand | registerDataChangeListener | unregisterDataChangeListener
  | setDisplayState | getDisplayState | getDiscount | getScreenOnBrightness
  | cancelBoostBrightness | isBrightnessOverridden | isBrightnessBoosted | getBrightness
  | getDeviceBrightness | autoAdjustBrightness | setBrightness | discountBrightness
  | setScreenOnBrightness | overrideBrightness | restoreBrightness | boostBrightness
  | clearOffset | notifyScreenPowerStatus
  deriving DecidableEq, Repr

def ExtFunction.symbol : ExtFunction → String
  | init => "Init"
  | deInit => "DeInit"
  | getCurrentDisplayId => "GetCurrentDisplayId"
  | setDisplayId => "SetDisplayId"
  | setLightBrightnessThreshold => "SetLightBrightnessThreshold"
  | setMaxBrightness => "SetMaxBrightness"
  | setMaxBrightnessNit => "SetMaxBrightnessNit"
  | setSceneMode => "SetSceneMode"
  | isSupportLightSensor => "IsSupportLightSensor"
  | isAutoAdjustBrightness => "IsAutoAdjustBrightness"
  | waitDimmingDone => "WaitDimmingDone"
  | getFeatureSupport => "GetFeatureSupport"
  | setForcedBrightness => "SetForcedBrightness"
  | runJsonCommand => "RunJsonCommand"
  | registerDataChangeListener => "RegisterDataChangeListener"
  | unregisterDataChangeListener => "UnregisterDataChangeListener"
  | setDisplayState => "SetDisplayState"
  | getDisplayState => "GetDisplayState"
  | getDiscount => "GetDiscount"
  | getScreenOnBrightness => "GetScreenOnBrightness"
  | cancelBoostBrightness => "CancelBoostBrightness"
  | isBrightnessOverridden => "IsBrightnessOverridden"
  | isBrightnessBoosted => "IsBrightnessBoosted"
  | getBrightness => "GetBrightness"
  | getDeviceBrightness => "GetDeviceBrightness"
  | autoAdjustBrightness => "AutoAdjustBrightness"
  | setBrightness => "SetBrightness"
  | discountBrightness => "DiscountBrightness"
  | setScreenOnBrightness => "SetScreenOnBrightness"
  | overrideBrightness => "OverrideBrightness"
  | restoreBrightness => "RestoreBrightness"
  | boostBrightness => "BoostBrightness"
  | clearOffset => "ClearOffset"
  | notifyScreenPowerStatus => "NotifyScreenPowerStatus"

inductive ExtValue where
  | unit
  | bool (value : Bool)
  | int (value : ℤ)
  | double (value : ℚ)
  | state (value : DisplayState)
  | text (value : String)
  deriving DecidableEq, Repr

/-- A function found in a library that was opened. -/
structure Pointer where
  handle : String
  name : String
  deriving DecidableEq, Repr

/-- The linker, by what was opened: in each namespace a library is mapped once, under a handle that
stands for the namespace, and stays mapped until it was closed as often as it was opened. -/
structure Linker where
  opened : List String := []

abbrev Exports := String → Bool

/-- What `dlopen` finds: a library, and the namespace that it is mapped in. -/
structure Library where
  handle : String
  exports : Exports

namespace Linker

def dlopen (l : Linker) (handle : String) : Linker := { opened := handle :: l.opened }

def dlclose (l : Linker) (handle : String) : Linker := { opened := l.opened.erase handle }

end Linker

/-- A call through a pointer: null, or into what may no longer be mapped. -/
structure LibraryCall where
  function : ExtFunction
  pointer : Option Pointer
  isMapped : Bool
  deriving DecidableEq, Repr

/-- What a call of the extension gave back, and the call of the library behind it. -/
structure Served where
  function : ExtFunction
  value : ExtValue := .unit
  call : Option LibraryCall := none
  deriving DecidableEq, Repr

/-- A call of the library goes to the function of its name, which is mapped. -/
def Served.ByName (s : Served) : Prop :=
  ∀ c ∈ s.call, ∃ h, c = ⟨s.function, some ⟨h, s.function.symbol⟩, true⟩

structure BrightnessManagerExt where
  mBrightnessManagerExtEnable : Bool := false
  mBrightnessManagerExtHandle : Option String := none
  funcs : ExtFunction → Option Pointer := fun _ => none

namespace BrightnessManagerExt

/-- Functions are looked up one after the other; the first one missing ends it. -/
def lookUp (exports : Exports) (handle : String) : List ExtFunction →
    (ExtFunction → Option Pointer) → Bool × (ExtFunction → Option Pointer)
  | [], funcs => (true, funcs)
  | f :: fs, funcs =>
    let found := if exports f.symbol then some ⟨handle, f.symbol⟩ else none
    let funcs := fun g => if g = f then found else funcs g
    if found.isSome then lookUp exports handle fs funcs else (false, funcs)

def brightnessOps : List ExtFunction :=
  [.init, .deInit, .getCurrentDisplayId, .setDisplayId, .setLightBrightnessThreshold,
    .setMaxBrightness, .setMaxBrightnessNit, .setSceneMode]

def brightnessOpsEx1 : List ExtFunction :=
  [.isSupportLightSensor, .isAutoAdjustBrightness, .waitDimmingDone, .getFeatureSupport,
    .setForcedBrightness, .runJsonCommand, .registerDataChangeListener,
    .unregisterDataChangeListener]

def brightnessStatus : List ExtFunction :=
  [.setDisplayState, .getDisplayState, .getDiscount, .getScreenOnBrightness,
    .cancelBoostBrightness, .isBrightnessOverridden, .isBrightnessBoosted, .getBrightness,
    .getDeviceBrightness]

def brightnessControl : List ExtFunction :=
  [.autoAdjustBrightness, .setBrightness, .discountBrightness, .setScreenOnBrightness,
    .overrideBrightness, .restoreBrightness, .boostBrightness, .clearOffset,
    .notifyScreenPowerStatus]

def loadBrightnessOps (exports : Exports) (handle : String) := lookUp exports handle brightnessOps
def loadBrightnessOpsEx1 (exports : Exports) (handle : String) :=
  lookUp exports handle brightnessOpsEx1
def loadBrightnessStatus (exports : Exports) (handle : String) :=
  lookUp exports handle brightnessStatus
def loadBrightnessControl (exports : Exports) (handle : String) :=
  lookUp exports handle brightnessControl

/-- The pointer to `SetLightBrightnessThreshold` is the one that is not cleared. -/
def closeBrightnessExtLibrary (l : Linker) (e : BrightnessManagerExt) :
    Linker × BrightnessManagerExt :=
  (e.mBrightnessManagerExtHandle.elim l l.dlclose,
    { funcs := fun f => if f = .setLightBrightnessThreshold then e.funcs f else none })

def loadFunctions (exports : Exports) (handle : String) (funcs : ExtFunction → Option Pointer) :
    Bool × (ExtFunction → Option Pointer) :=
  let (ops, funcs) := loadBrightnessOps exports handle funcs
  if ops then
    let (opsEx1, funcs) := loadBrightnessOpsEx1 exports handle funcs
    if opsEx1 then
      let (status, funcs) := loadBrightnessStatus exports handle funcs
      if status then loadBrightnessControl exports handle funcs else (false, funcs)
    else (false, funcs)
  else (false, funcs)

/-- `found` is what `dlopen` finds. The handle is overwritten even when it finds nothing. -/
def loadBrightnessExtLibrary (l : Linker) (e : BrightnessManagerExt) (found : Option Library) :
    Linker × BrightnessManagerExt × Bool :=
  match found with
  | none => (l, { e with mBrightnessManagerExtHandle := none }, false)
  | some library =>
    let (loaded, funcs) := loadFunctions library.exports library.handle e.funcs
    let e : BrightnessManagerExt := ⟨loaded, some library.handle, funcs⟩
    if loaded then (l.dlopen library.handle, e, true)
    else
      let (l, e) := closeBrightnessExtLibrary (l.dlopen library.handle) e
      (l, e, false)

def callFunction (l : Linker) (e : BrightnessManagerExt) (f : ExtFunction) : LibraryCall :=
  ⟨f, e.funcs f, (e.funcs f).any fun p => l.opened.contains p.handle⟩

def init (l : Linker) (e : BrightnessManagerExt) (found : Option Library) :
    Linker × BrightnessManagerExt × List Served :=
  let (l, e, loaded) := loadBrightnessExtLibrary l e found
  (l, e, if loaded then [{ function := .init, call := callFunction l e .init }] else [])

/-- The one function that is called for a pointer that is not null, not for the flag. -/
def deInit (l : Linker) (e : BrightnessManagerExt) : Linker × BrightnessManagerExt × List Served :=
  let called : List Served :=
    if (e.funcs .deInit).isSome then [{ function := .deInit, call := callFunction l e .deInit }]
    else []
  let (l, e) := closeBrightnessExtLibrary l e
  (l, e, called)

def disabled (defaultId : ℕ) : ExtFunction → ExtValue
  | .getDisplayState => .state .unknown
  | .getDiscount => .double 1
  | .getScreenOnBrightness | .getBrightness | .getDeviceBrightness
  | .setLightBrightnessThreshold => .int 0
  | .getCurrentDisplayId => .int defaultId
  | .registerDataChangeListener | .unregisterDataChangeListener | .notifyScreenPowerStatus =>
    .int (-1)
  | .runJsonCommand => .text "\x7b\"ret\": -1, \"error\": \"BrightnessManagerExt init fail\"\x7d"
  | .init | .deInit | .setDisplayState | .setScreenOnBrightness | .clearOffset
  | .waitDimmingDone | .setDisplayId => .unit
  | .getFeatureSupport | .isSupportLightSensor | .isAutoAdjustBrightness
  | .autoAdjustBrightness | .setForcedBrightness | .setBrightness | .discountBrightness
  | .overrideBrightness | .restoreBrightness | .boostBrightness | .cancelBoostBrightness
  | .isBrightnessOverridden | .isBrightnessBoosted | .setMaxBrightness | .setMaxBrightnessNit
  | .setSceneMode => .bool false

/-- The member function for `f`, where the library would give back `answer`. -/
def serve (l : Linker) (e : BrightnessManagerExt) (f : ExtFunction) (defaultId : ℕ)
    (answer : ExtValue) : Served :=
  if ¬ e.mBrightnessManagerExtEnable then { function := f, value := disabled defaultId f }
  else if f = .setLightBrightnessThreshold ∧ (e.funcs f).isNone then
    { function := f, value := .int 0 }
  else { function := f, value := answer, call := callFunction l e f }

theorem lookUp_append (exports : Exports) (handle : String) (fs gs : List ExtFunction)
    (funcs : ExtFunction → Option Pointer) :
    lookUp exports handle (fs ++ gs) funcs =
      if (lookUp exports handle fs funcs).1 then
        lookUp exports handle gs (lookUp exports handle fs funcs).2
      else (false, (lookUp exports handle fs funcs).2) := by
  induction fs generalizing funcs with
  | nil => rfl
  | cons f fs ih =>
    by_cases hf : exports f.symbol = true
    · simp only [List.cons_append, lookUp, hf, if_true, Option.isSome_some]
      exact ih _
    · simp only [List.cons_append, lookUp, hf, Bool.false_eq_true, if_false, Option.isSome_none]

theorem lookUp_fst (exports : Exports) (handle : String) (fs : List ExtFunction)
    (funcs : ExtFunction → Option Pointer) :
    (lookUp exports handle fs funcs).1 = fs.all fun f => exports f.symbol := by
  induction fs generalizing funcs with
  | nil => rfl
  | cons f fs ih =>
    by_cases hf : exports f.symbol = true
    · simp only [lookUp, hf, if_true, Option.isSome_some, List.all_cons, Bool.true_and]
      exact ih _
    · simp only [lookUp, hf, Bool.false_eq_true, if_false, Option.isSome_none, List.all_cons,
        Bool.false_and]

theorem lookUp_found {exports : Exports} {handle : String} {fs : List ExtFunction}
    {funcs : ExtFunction → Option Pointer}
    (h : (fs.all fun f => exports f.symbol) = true) (g : ExtFunction)
    (hg : g ∈ fs ∨ funcs g = some ⟨handle, g.symbol⟩) :
    (lookUp exports handle fs funcs).2 g = some ⟨handle, g.symbol⟩ := by
  induction fs generalizing funcs with
  | nil =>
    rcases hg with hg | hg
    · cases hg
    · exact hg
  | cons f fs ih =>
    rw [List.all_cons, Bool.and_eq_true] at h
    simp only [lookUp, h.1, if_true, Option.isSome_some]
    apply ih h.2
    by_cases hgf : g = f
    · right
      rw [if_pos hgf, hgf]
    · rcases hg with hg | hg
      · left
        exact (List.mem_cons.mp hg).resolve_left hgf
      · right
        rw [if_neg hgf]
        exact hg

def allFunctions : List ExtFunction :=
  brightnessOps ++ (brightnessOpsEx1 ++ (brightnessStatus ++ brightnessControl))

theorem mem_allFunctions (f : ExtFunction) : f ∈ allFunctions := by
  cases f <;> decide

theorem loadFunctions_eq (exports : Exports) (handle : String)
    (funcs : ExtFunction → Option Pointer) :
    loadFunctions exports handle funcs = lookUp exports handle allFunctions funcs := by
  rw [allFunctions, lookUp_append, lookUp_append, lookUp_append]
  rfl

def isComplete (exports : Exports) : Bool := allFunctions.all fun f => exports f.symbol

section Operations

variable {l : Linker} {e : BrightnessManagerExt} {handle : String} {exports : Exports}

theorem lookUp_all : (lookUp exports handle allFunctions e.funcs).1 = isComplete exports :=
  lookUp_fst exports handle allFunctions e.funcs

theorem init_none :
    init l e none = (l, { e with mBrightnessManagerExtHandle := none }, []) := rfl

theorem init_complete (h : isComplete exports = true) :
    init l e (some ⟨handle, exports⟩) =
      (l.dlopen handle, ⟨true, some handle, (lookUp exports handle allFunctions e.funcs).2⟩,
        [{ function := .init, call := some ⟨.init, some ⟨handle, "Init"⟩, true⟩ }]) := by
  have hinit := @lookUp_found exports handle allFunctions e.funcs h .init
    (Or.inl (mem_allFunctions .init))
  simp only [init, loadBrightnessExtLibrary, loadFunctions_eq, lookUp_all, h, if_true,
    callFunction]
  rw [hinit]
  simp [Linker.dlopen, ExtFunction.symbol]

/-- A library that misses a function is closed again. -/
theorem init_incomplete (h : isComplete exports = false) :
    init l e (some ⟨handle, exports⟩) =
      (l, { funcs := fun f => if f = .setLightBrightnessThreshold then
            (lookUp exports handle allFunctions e.funcs).2 f else none }, []) := by
  have hclosed : (l.dlopen handle).dlclose handle = l := by
    simp [Linker.dlclose, Linker.dlopen]
  simp only [init, loadBrightnessExtLibrary, loadFunctions_eq, lookUp_all, h,
    closeBrightnessExtLibrary]
  simp [hclosed]

end Operations

/-- An enabled extension points with each function to the one of that name in a library that is
open; the handle may be lost by then, but is of no other library. -/
structure Sound (l : Linker) (e : BrightnessManagerExt) : Prop where
  enabled : e.mBrightnessManagerExtEnable = true → ∃ h ∈ l.opened,
    (∀ k ∈ e.mBrightnessManagerExtHandle, k = h) ∧ ∀ f, e.funcs f = some ⟨h, f.symbol⟩
  closed : e.mBrightnessManagerExtEnable = false →
    e.mBrightnessManagerExtHandle = none ∧ e.funcs .deInit = none

section Operations

variable {l : Linker} {e : BrightnessManagerExt}

theorem Sound.callFunction (hs : Sound l e) (he : e.mBrightnessManagerExtEnable = true)
    (f : ExtFunction) : ∃ h, callFunction l e f = ⟨f, some ⟨h, f.symbol⟩, true⟩ := by
  obtain ⟨h, hopen, -, hfuncs⟩ := hs.enabled he
  refine ⟨h, ?_⟩
  simp [BrightnessManagerExt.callFunction, hfuncs, hopen]

theorem Sound.deInit_isSome (hs : Sound l e) :
    (e.funcs .deInit).isSome = e.mBrightnessManagerExtEnable := by
  cases he : e.mBrightnessManagerExtEnable with
  | true =>
    obtain ⟨h, -, -, hfuncs⟩ := hs.enabled he
    rw [hfuncs]
    rfl
  | false => rw [(hs.closed he).2, Option.isSome_none]

theorem sound_closed (l : Linker) (e : BrightnessManagerExt) :
    Sound (closeBrightnessExtLibrary l e).1 (closeBrightnessExtLibrary l e).2 where
  enabled := by
    intro h
    cases h
  closed := fun _ => ⟨rfl, rfl⟩

theorem init_sound (hs : Sound l e) (found : Option Library) :
    Sound (init l e found).1 (init l e found).2.1 := by
  cases found with
  | none =>
    rw [init_none]
    refine ⟨fun he => ?_, fun he => ⟨rfl, (hs.closed he).2⟩⟩
    obtain ⟨h, hopen, -, hfuncs⟩ := hs.enabled he
    exact ⟨h, hopen, by simp, hfuncs⟩
  | some library =>
    obtain ⟨handle, exports⟩ := library
    cases hcomplete : isComplete exports with
    | true =>
      rw [init_complete hcomplete]
      refine ⟨fun _ => ⟨handle, by simp [Linker.dlopen], by simp, ?_⟩, nofun⟩
      intro f
      exact lookUp_found hcomplete f (Or.inl (mem_allFunctions f))
    | false =>
      rw [init_incomplete hcomplete]
      exact ⟨nofun, fun _ => ⟨rfl, rfl⟩⟩

theorem init_enable (found : Option Library) :
    (init l e found).2.1.mBrightnessManagerExtEnable =
      (found.map fun library => isComplete library.exports).getD e.mBrightnessManagerExtEnable := by
  cases found with
  | none => rfl
  | some library =>
    obtain ⟨handle, exports⟩ := library
    cases hcomplete : isComplete exports with
    | true =>
      rw [init_complete hcomplete, Option.map_some, hcomplete]
      rfl
    | false =>
      rw [init_incomplete hcomplete, Option.map_some, hcomplete]
      rfl

theorem init_byName (found : Option Library) : ∀ s ∈ (init l e found).2.2, s.ByName := by
  intro s hmem
  cases found with
  | none => cases hmem
  | some library =>
    obtain ⟨handle, exports⟩ := library
    cases hcomplete : isComplete exports with
    | true =>
      rw [init_complete hcomplete, List.mem_singleton] at hmem
      subst hmem
      intro c hc
      obtain rfl := Option.some.inj hc
      exact ⟨handle, rfl⟩
    | false =>
      rw [init_incomplete hcomplete] at hmem
      cases hmem

theorem deInit_byName (hs : Sound l e) : ∀ s ∈ (deInit l e).2.2, s.ByName := by
  intro s hmem
  rw [deInit, hs.deInit_isSome] at hmem
  cases he : e.mBrightnessManagerExtEnable with
  | true =>
    simp only [he, if_true, List.mem_singleton] at hmem
    subst hmem
    intro c hc
    obtain ⟨h, hcall⟩ := hs.callFunction he .deInit
    obtain rfl := Option.some.inj hc
    exact ⟨h, hcall⟩
  | false =>
    simp [he] at hmem

/-- An enabled extension passes each call on, and another one none. -/
theorem serve_eq (hs : Sound l e) (f : ExtFunction) (defaultId : ℕ) (answer : ExtValue) :
    ∃ h, serve l e f defaultId answer =
      if e.mBrightnessManagerExtEnable then
        { function := f, value := answer, call := some ⟨f, some ⟨h, f.symbol⟩, true⟩ }
      else { function := f, value := disabled defaultId f } := by
  cases he : e.mBrightnessManagerExtEnable with
  | true =>
    obtain ⟨h, hcall⟩ := hs.callFunction he f
    obtain ⟨k, -, -, hfuncs⟩ := hs.enabled he
    refine ⟨h, ?_⟩
    simp [serve, he, hfuncs, hcall]
  | false => exact ⟨"", by simp [serve, he]⟩

end Operations

end BrightnessManagerExt

/-- The extension in its process, and all it gave back. With one screen it opens the library in the
namespace of the process. -/
structure ExtProcess where
  linker : Linker := {}
  ext : BrightnessManagerExt := {}
  served : List Served := []

inductive ExtEvent where
  | init (found : Option Exports)
  | deInit
  | call (f : ExtFunction) (defaultId : ℕ) (answer : ExtValue)

namespace ExtProcess

open Runs DisplayPowerMgr.BrightnessWrapper.BrightnessManagerExt

def step (p : ExtProcess) : ExtEvent → Option ExtProcess
  | .init found =>
    let (linker, ext, served) :=
      init p.linker p.ext (found.map fun exports => ⟨"default", exports⟩)
    some ⟨linker, ext, p.served ++ served⟩
  | .deInit =>
    let (linker, ext, served) := deInit p.linker p.ext
    some ⟨linker, ext, p.served ++ served⟩
  | .call f defaultId answer =>
    some { p with served := p.served ++ [serve p.linker p.ext f defaultId answer] }

/-- Whether the library is in use from an event on; an `Init` that finds none leaves that open. -/
def decides : ExtEvent → Option Bool
  | .init found => found.map isComplete
  | .deInit => some false
  | .call .. => none

/-- What the events so far made of the extension. -/
structure Follows (past : List ExtEvent) (p : ExtProcess) : Prop where
  sound : Sound p.linker p.ext
  enable : p.ext.mBrightnessManagerExtEnable = (latest decides past).getD false
  byName : ∀ s ∈ p.served, s.ByName

theorem follows_start : Follows [] {} where
  sound := ⟨nofun, fun _ => ⟨rfl, rfl⟩⟩
  enable := rfl
  byName := by
    intro s hs
    cases hs

theorem served_append {p q : List Served} (hp : ∀ s ∈ p, s.ByName) (hq : ∀ s ∈ q, s.ByName) :
    ∀ s ∈ p ++ q, s.ByName := by
  intro s hs
  rcases List.mem_append.mp hs with hs | hs
  · exact hp s hs
  · exact hq s hs

theorem Follows.step {past : List ExtEvent} {p q : ExtProcess} {e : ExtEvent}
    (hp : Follows past p) (h : step p e = some q) : Follows (past ++ [e]) q := by
  cases e with
  | init found =>
    obtain rfl := Option.some.inj h
    refine ⟨init_sound hp.sound _, ?_, served_append hp.byName (init_byName _)⟩
    refine (init_enable _).trans ?_
    rw [hp.enable, latest_snoc, decides]
    cases found <;> rfl
  | deInit =>
    obtain rfl := Option.some.inj h
    refine ⟨sound_closed _ _, ?_, served_append hp.byName (deInit_byName hp.sound)⟩
    have hlast : latest decides (past ++ [.deInit]) = some false := latest_of_some rfl
    rw [hlast]
    rfl
  | call f defaultId answer =>
    obtain rfl := Option.some.inj h
    refine ⟨hp.sound, ?_, served_append hp.byName ?_⟩
    · rw [latest_of_none rfl]
      exact hp.enable
    · intro s hs
      obtain ⟨h, heq⟩ := serve_eq hp.sound f defaultId answer
      rw [List.mem_singleton.mp hs, heq]
      intro c hc
      by_cases he : p.ext.mBrightnessManagerExtEnable = true
      · rw [if_pos he] at hc
        obtain rfl := Option.some.inj hc
        exact ⟨h, by rw [if_pos he]⟩
      · rw [if_neg he] at hc
        cases hc

/-- In every run each call of the library, of its `Init` and `DeInit` too, goes to the function of
its name in a library that is open. The library is called if and only if the latest of the `Init`s
that found one and the `DeInit`s was an `Init` with all of the functions there. -/
theorem library_served {es : List ExtEvent} {p : ExtProcess} (hp : run step {} es = some p) :
    (∀ s ∈ p.served, s.ByName) ∧
      ∀ f defaultId answer, ∃ h, serve p.linker p.ext f defaultId answer =
        if latest decides es = some true then
          { function := f, value := answer, call := some ⟨f, some ⟨h, f.symbol⟩, true⟩ }
        else { function := f, value := disabled defaultId f } := by
  have hfollows : Follows es p :=
    run_history (J := Follows) follows_start (fun _ _ _ _ hu _ hv => hu.step hv) hp
  refine ⟨hfollows.byName, ?_⟩
  intro f defaultId answer
  obtain ⟨h, heq⟩ := serve_eq hfollows.sound f defaultId answer
  refine ⟨h, heq.trans ?_⟩
  rw [hfollows.enable]
  cases latest decides es with
  | none => rfl
  | some enabled => cases enabled <;> rfl

/-- A library without `ClearOffset` is not used, the one after it is, and a vanished file changes
nothing. -/
def reloaded : List ExtEvent :=
  [.init (some fun name => name ≠ "ClearOffset"), .call .getBrightness 0 (.int 7),
    .init (some fun _ => true), .init none]

theorem reloaded_served :
    ∃ p, run step {} reloaded = some p ∧ (∀ s ∈ p.served, s.ByName) ∧
      ∃ h, serve p.linker p.ext .getBrightness 0 (.int 7) =
        { function := .getBrightness, value := .int 7
          call := some ⟨.getBrightness, some ⟨h, "GetBrightness"⟩, true⟩ } := by
  have hruns : (run step {} reloaded).isSome = true := rfl
  obtain ⟨p, hp⟩ := Option.isSome_iff_exists.mp hruns
  obtain ⟨hserved, hcalls⟩ := library_served hp
  obtain ⟨h, hcall⟩ := hcalls .getBrightness 0 (.int 7)
  have hlatest : latest decides reloaded = some true := by decide +kernel
  rw [if_pos hlatest] at hcall
  exact ⟨p, hp, hserved, h, hcall⟩

end ExtProcess

end DisplayPowerMgr.BrightnessWrapper
