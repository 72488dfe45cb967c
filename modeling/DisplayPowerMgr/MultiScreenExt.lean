import Mathlib.Data.List.Nodup
import DisplayPowerMgr.BrightnessManagerExt
import DisplayPowerMgr.MultiScreen

/-! The brightness manager with the wrapper library for several screens: one extension a screen,
made as the screen is first seen and kept from then on. -/
namespace DisplayPowerMgr.BrightnessWrapper

open DisplayPowerMgr.BrightnessWrapper.BrightnessManagerExt

/-- The manager in its process, and what it gave back for which screen. -/
structure BrightnessManager where
  linker : Linker := {}
  mMultiBrtMgrExt : List (ℕ × BrightnessManagerExt) := []
  served : List (ℕ × Served) := []

inductive ManagerEvent where
  | init (screenIds : List ℕ) (found : String → Option Exports)
  | onConnect (screenId : ℕ) (found : String → Option Exports)
  | deInit
  | call (id : ℕ) (f : ExtFunction) (answer : ExtValue)

namespace BrightnessManager

open Runs

def DEFAULT_DISPLAY_ID : ℕ := 0

def getExt (m : BrightnessManager) (screenId : ℕ) : Option BrightnessManagerExt :=
  m.mMultiBrtMgrExt.lookup screenId

/-- The namespace of a screen, which inherits from `ndk`. -/
def nsName (displayId : ℕ) : String := "bm_ns_" ++ toString displayId

/-- `found` is what the path of a namespace holds. The own one comes before what is inherited. -/
def dlopenNs (found : String → Option Exports) (ns : String) : Option Library :=
  match found ns with
  | some exports => some ⟨ns, exports⟩
  | none => (found "ndk").map fun exports => ⟨"ndk", exports⟩

def createExt (m : BrightnessManager) (screenId : ℕ) (found : String → Option Exports) :
    BrightnessManager :=
  if (m.getExt screenId).isSome then m
  else
    let (linker, ext, served) := init m.linker {} (dlopenNs found (nsName screenId))
    let served := served ++ [serve linker ext .setDisplayId screenId .unit]
    { linker
      mMultiBrtMgrExt := m.mMultiBrtMgrExt ++ [(screenId, ext)]
      served := m.served ++ served.map fun s => (screenId, s) }

/-- The ids of the display manager have 64 bits, those of the extensions 32. -/
def init (m : BrightnessManager) (screenIds : List ℕ) (found : String → Option Exports) :
    BrightnessManager :=
  let screenIds := if screenIds.isEmpty then [DEFAULT_DISPLAY_ID] else screenIds
  screenIds.foldl (fun m id => m.createExt (id % 2 ^ 32) found) m

def deInitAll : Linker → List (ℕ × BrightnessManagerExt) →
    Linker × List (ℕ × BrightnessManagerExt) × List (ℕ × Served)
  | l, [] => (l, [], [])
  | l, (id, e) :: rest =>
    let (l, e, served) := BrightnessManagerExt.deInit l e
    let (l, rest, more) := deInitAll l rest
    (l, (id, e) :: rest, served.map (fun s => (id, s)) ++ more)

/-- The extensions are not taken out. -/
def deInit (m : BrightnessManager) : BrightnessManager :=
  let (linker, exts, served) := deInitAll m.linker m.mMultiBrtMgrExt
  { linker, mMultiBrtMgrExt := exts, served := m.served ++ served }

def noExt (id : ℕ) : ExtFunction → ExtValue
  | .runJsonCommand => .text ""
  | f => disabled id f

def serve (m : BrightnessManager) (id : ℕ) (f : ExtFunction) (answer : ExtValue) : Served :=
  match m.getExt id with
  | none => { function := f, value := noExt id f }
  | some e => BrightnessManagerExt.serve m.linker e f id answer

/-- Nothing calls `Init` and `DeInit` but the manager itself. -/
def step (m : BrightnessManager) : ManagerEvent → Option BrightnessManager
  | .init screenIds found => some (m.init screenIds found)
  | .onConnect screenId found => some (m.createExt (screenId % 2 ^ 32) found)
  | .deInit => some m.deInit
  | .call id f answer =>
    if f = .init ∨ f = .deInit then none
    else some { m with served := m.served ++ [(id, m.serve id f answer)] }

def Served.Of (h : String) (s : Served) : Prop :=
  ∀ c ∈ s.call, c = ⟨s.function, some ⟨h, s.function.symbol⟩, true⟩

/-- An extension that uses no library but the one of this handle. -/
structure Uses (h : String) (l : Linker) (e : BrightnessManagerExt) : Prop where
  enabled : e.mBrightnessManagerExtEnable = true → h ∈ l.opened ∧
    e.mBrightnessManagerExtHandle = some h ∧ ∀ f, e.funcs f = some ⟨h, f.symbol⟩
  closed : e.mBrightnessManagerExtEnable = false →
    e.mBrightnessManagerExtHandle = none ∧ e.funcs .deInit = none

section Uses

variable {h : String} {l l' : Linker} {e : BrightnessManagerExt}

theorem Uses.mono (hu : Uses h l e) (hopen : ∀ k ∈ l.opened, k ∈ l'.opened) : Uses h l' e where
  enabled := by
    intro he
    obtain ⟨hmem, hrest⟩ := hu.enabled he
    exact ⟨hopen h hmem, hrest⟩
  closed := hu.closed

theorem Uses.dlclose (hu : Uses h l e) {k : String} (hne : h ≠ k) : Uses h (l.dlclose k) e where
  enabled := by
    intro he
    obtain ⟨hmem, hrest⟩ := hu.enabled he
    exact ⟨(List.mem_erase_of_ne hne).mpr hmem, hrest⟩
  closed := hu.closed

theorem Uses.callFunction (hu : Uses h l e) (he : e.mBrightnessManagerExtEnable = true)
    (f : ExtFunction) : callFunction l e f = ⟨f, some ⟨h, f.symbol⟩, true⟩ := by
  obtain ⟨hopen, -, hfuncs⟩ := hu.enabled he
  simp [BrightnessManagerExt.callFunction, hfuncs, hopen]

theorem Uses.serve (hu : Uses h l e) (f : ExtFunction) (id : ℕ) (answer : ExtValue) :
    Served.Of h (BrightnessManagerExt.serve l e f id answer) := by
  intro c hc
  cases he : e.mBrightnessManagerExtEnable with
  | true =>
    have hfuncs := (hu.enabled he).2.2 f
    simp only [BrightnessManagerExt.serve, he, hfuncs, Option.isNone_some, Bool.false_eq_true,
      and_false, if_false, not_true, hu.callFunction he f] at hc ⊢
    exact (Option.some.inj hc).symm
  | false => simp [BrightnessManagerExt.serve, he] at hc

theorem init_uses (l : Linker) {found : Option Library} (hfound : ∀ lib ∈ found, lib.handle = h) :
    (∀ k ∈ l.opened, k ∈ (BrightnessManagerExt.init l {} found).1.opened) ∧
      Uses h (BrightnessManagerExt.init l {} found).1
        (BrightnessManagerExt.init l {} found).2.1 ∧
        ∀ s ∈ (BrightnessManagerExt.init l {} found).2.2, Served.Of h s := by
  cases found with
  | none =>
    refine ⟨fun _ hk => hk, ⟨nofun, fun _ => ⟨rfl, rfl⟩⟩, ?_⟩
    intro s hs
    cases hs
  | some library =>
    obtain ⟨handle, exports⟩ := library
    obtain rfl : handle = h := hfound _ rfl
    cases hcomplete : isComplete exports with
    | true =>
      rw [init_complete hcomplete]
      refine ⟨fun k hk => List.mem_cons_of_mem _ hk, ⟨fun _ => ?_, nofun⟩, ?_⟩
      · refine ⟨List.mem_cons_self, rfl, ?_⟩
        intro f
        exact lookUp_found hcomplete f (Or.inl (mem_allFunctions f))
      · intro s hs c hc
        rw [List.mem_singleton] at hs
        subst hs
        exact (Option.some.inj hc).symm
    | false =>
      rw [init_incomplete hcomplete]
      refine ⟨fun _ hk => hk, ⟨nofun, fun _ => ⟨rfl, rfl⟩⟩, ?_⟩
      intro s hs
      cases hs

theorem deInit_uses (hu : Uses h l e) :
    (∀ s ∈ (BrightnessManagerExt.deInit l e).2.2, Served.Of h s) ∧
      ∀ k e', k ≠ h → Uses k l e' → Uses k (BrightnessManagerExt.deInit l e).1 e' := by
  cases he : e.mBrightnessManagerExtEnable with
  | true =>
    obtain ⟨-, hhandle, hfuncs⟩ := hu.enabled he
    constructor
    · intro s hs c hc
      have hs : s = { function := .deInit, call := some (callFunction l e .deInit) } := by
        simpa [BrightnessManagerExt.deInit, hfuncs] using hs
      subst hs
      rw [hu.callFunction he .deInit] at hc
      exact (Option.some.inj hc).symm
    · intro k e' hne hk
      have hlinker : (BrightnessManagerExt.deInit l e).1 = l.dlclose h := by
        simp [BrightnessManagerExt.deInit, closeBrightnessExtLibrary, hhandle]
      rw [hlinker]
      exact hk.dlclose hne
  | false =>
    obtain ⟨hhandle, hfunc⟩ := hu.closed he
    constructor
    · intro s hs
      simp [BrightnessManagerExt.deInit, hfunc] at hs
    · intro k e' _ hk
      have hlinker : (BrightnessManagerExt.deInit l e).1 = l := by
        simp [BrightnessManagerExt.deInit, closeBrightnessExtLibrary, hhandle]
      rw [hlinker]
      exact hk

end Uses

def Closed (e : BrightnessManagerExt) : Prop :=
  e.mBrightnessManagerExtEnable = false ∧ e.mBrightnessManagerExtHandle = none ∧
    e.funcs .deInit = none

theorem Closed.uses {e : BrightnessManagerExt} (he : Closed e) (h : String) (l : Linker) :
    Uses h l e where
  enabled := fun henable => by simp [he.1] at henable
  closed := fun _ => he.2

theorem deInit_closed (l : Linker) (e : BrightnessManagerExt) :
    Closed (BrightnessManagerExt.deInit l e).2.1 := ⟨rfl, rfl, rfl⟩

theorem deInitAll_cons (l : Linker) (p : ℕ × BrightnessManagerExt)
    (exts : List (ℕ × BrightnessManagerExt)) :
    (deInitAll l (p :: exts)).2.2 =
      (BrightnessManagerExt.deInit l p.2).2.2.map (fun s => (p.1, s)) ++
        (deInitAll (BrightnessManagerExt.deInit l p.2).1 exts).2.2 := rfl

theorem deInitAll_ids (l : Linker) (exts : List (ℕ × BrightnessManagerExt)) :
    (deInitAll l exts).2.1.map Prod.fst = exts.map Prod.fst := by
  induction exts generalizing l with
  | nil => rfl
  | cons p exts ih =>
    simp only [deInitAll, List.map_cons]
    rw [ih]

theorem deInitAll_closed (l : Linker) (exts : List (ℕ × BrightnessManagerExt)) :
    ∀ p ∈ (deInitAll l exts).2.1, Closed p.2 := by
  induction exts generalizing l with
  | nil => nofun
  | cons q exts ih =>
    intro p hp
    rcases List.mem_cons.mp hp with rfl | hp
    · exact deInit_closed l q.2
    · exact ih _ p hp

/-- The namespaces of two screens have two names. -/
theorem nsName_injective : Function.Injective nsName := by
  intro a b h
  have hrepr : toString a = toString b := by
    apply String.toList_inj.mp
    simpa [nsName] using congrArg String.toList h
  have hdigits : Nat.toDigits 10 a = Nat.toDigits 10 b := by
    rw [← Nat.toList_repr, ← Nat.toList_repr]
    exact congrArg String.toList hrepr
  have hvalue := congrArg (fun l => Nat.ofDigitChars 10 l 0) hdigits
  simpa using hvalue

theorem deInitAll_served (l : Linker) (exts : List (ℕ × BrightnessManagerExt))
    (hids : (exts.map Prod.fst).Nodup) (huses : ∀ p ∈ exts, Uses (nsName p.1) l p.2) :
    ∀ s ∈ (deInitAll l exts).2.2, Served.Of (nsName s.1) s.2 := by
  induction exts generalizing l with
  | nil =>
    intro s hs
    cases hs
  | cons q exts ih =>
    rw [List.map_cons, List.nodup_cons] at hids
    obtain ⟨hserved, hothers⟩ := deInit_uses (huses q List.mem_cons_self)
    have hrest : ∀ p ∈ exts, Uses (nsName p.1) (BrightnessManagerExt.deInit l q.2).1 p.2 := by
      intro p hp
      apply hothers
      · intro heq
        exact hids.1 (List.mem_map.mpr ⟨p, hp, nsName_injective heq⟩)
      · exact huses p (List.mem_cons_of_mem q hp)
    intro s hs
    rw [deInitAll_cons] at hs
    rcases List.mem_append.mp hs with hs | hs
    · obtain ⟨t, ht, rfl⟩ := List.mem_map.mp hs
      exact hserved t ht
    · exact ih _ hids.2 hrest s hs

/-- Each screen that was seen has one extension, which uses the library of its namespace. -/
structure Owned (m : BrightnessManager) : Prop where
  apart : (m.mMultiBrtMgrExt.map Prod.fst).Nodup
  uses : ∀ p ∈ m.mMultiBrtMgrExt, Uses (nsName p.1) m.linker p.2
  served : ∀ s ∈ m.served, Served.Of (nsName s.1) s.2

theorem getExt_mem {m : BrightnessManager} {id : ℕ} {e : BrightnessManagerExt}
    (h : m.getExt id = some e) : (id, e) ∈ m.mMultiBrtMgrExt := by
  obtain ⟨front, back, hsplit, -⟩ := List.lookup_eq_some_iff.mp h
  rw [hsplit]
  simp

theorem getExt_none {m : BrightnessManager} {id : ℕ} (h : m.getExt id = none) :
    id ∉ m.mMultiBrtMgrExt.map Prod.fst := by
  intro hmem
  obtain ⟨p, hp, rfl⟩ := List.mem_map.mp hmem
  have hne := List.lookup_eq_none_iff.mp h p hp
  simp at hne

/-- What is inherited of the library is there under the own path too. -/
def HasOwn (found : String → Option Exports) : Prop :=
  (found "ndk").isSome → ∀ id, (found (nsName id)).isSome

theorem HasOwn.handle {found : String → Option Exports} (h : HasOwn found) (id : ℕ) :
    ∀ lib ∈ dlopenNs found (nsName id), lib.handle = nsName id := by
  intro lib hlib
  rw [dlopenNs] at hlib
  cases hown : found (nsName id) with
  | some exports =>
    rw [hown] at hlib
    obtain rfl := Option.some.inj hlib
    rfl
  | none =>
    rw [hown] at hlib
    cases hndk : found "ndk" with
    | none =>
      rw [hndk] at hlib
      cases hlib
    | some exports =>
      have hsome := h (by rw [hndk]; rfl) id
      rw [hown] at hsome
      cases hsome

/-- A screen that is first seen opens the library in its namespace, the other ones keep theirs. -/
theorem Owned.createExt {m : BrightnessManager} (ho : Owned m) (id : ℕ)
    {found : String → Option Exports} (hfound : HasOwn found) : Owned (m.createExt id found) := by
  cases hext : m.getExt id with
  | some e =>
    rw [BrightnessManager.createExt, hext, Option.isSome_some, if_pos rfl]
    exact ho
  | none =>
    obtain ⟨hopen, huses, hserved⟩ := init_uses m.linker (hfound.handle id)
    rw [BrightnessManager.createExt, hext, Option.isSome_none, if_neg Bool.false_ne_true]
    constructor
    · simp only [List.map_append, List.map_cons, List.map_nil]
      rw [List.nodup_append]
      refine ⟨ho.apart, List.nodup_singleton _, ?_⟩
      intro k hk j hj heq
      obtain rfl := List.mem_singleton.mp hj
      exact getExt_none hext (heq ▸ hk)
    · intro p hp
      rcases List.mem_append.mp hp with hp | hp
      · exact (ho.uses p hp).mono hopen
      · rw [List.mem_singleton.mp hp]
        exact huses
    · intro s hs
      rcases List.mem_append.mp hs with hs | hs
      · exact ho.served s hs
      · obtain ⟨t, ht, rfl⟩ := List.mem_map.mp hs
        rcases List.mem_append.mp ht with ht | ht
        · exact hserved t ht
        · rw [List.mem_singleton.mp ht]
          exact huses.serve _ _ _

theorem Owned.init {m : BrightnessManager} (ho : Owned m) (screenIds : List ℕ)
    {found : String → Option Exports} (hfound : HasOwn found) :
    Owned (screenIds.foldl (fun m id => m.createExt (id % 2 ^ 32) found) m) := by
  induction screenIds generalizing m with
  | nil => exact ho
  | cons id screenIds ih => exact ih (ho.createExt (id % 2 ^ 32) hfound)

theorem Owned.deInit {m : BrightnessManager} (ho : Owned m) : Owned m.deInit := by
  have hids := deInitAll_ids m.linker m.mMultiBrtMgrExt
  constructor
  · change ((deInitAll m.linker m.mMultiBrtMgrExt).2.1.map Prod.fst).Nodup
    rw [hids]
    exact ho.apart
  · intro p hp
    exact (deInitAll_closed m.linker m.mMultiBrtMgrExt p hp).uses _ _
  · intro s hs
    rcases List.mem_append.mp hs with hs | hs
    · exact ho.served s hs
    · exact deInitAll_served m.linker m.mMultiBrtMgrExt ho.apart ho.uses s hs

theorem Owned.call {m : BrightnessManager} (ho : Owned m) (id : ℕ) (f : ExtFunction)
    (answer : ExtValue) : Owned { m with served := m.served ++ [(id, m.serve id f answer)] } where
  apart := ho.apart
  uses := ho.uses
  served := by
    intro s hs
    rcases List.mem_append.mp hs with hs | hs
    · exact ho.served s hs
    · rw [List.mem_singleton.mp hs, BrightnessManager.serve]
      cases hext : m.getExt id with
      | none => nofun
      | some e => exact (ho.uses _ (getExt_mem hext)).serve f id answer

/-- The namespaces of the screens find the library without the one that they inherit from. -/
def FindsOwn : ManagerEvent → Prop
  | .init _ found => HasOwn found
  | .onConnect _ found => HasOwn found
  | _ => True

theorem Owned.step {m m' : BrightnessManager} {e : ManagerEvent} (ho : Owned m)
    (he : FindsOwn e) (h : step m e = some m') : Owned m' := by
  cases e with
  | init screenIds found =>
    obtain rfl := Option.some.inj h
    exact ho.init _ he
  | onConnect screenId found =>
    obtain rfl := Option.some.inj h
    exact ho.createExt _ he
  | deInit =>
    obtain rfl := Option.some.inj h
    exact ho.deInit
  | call id f answer =>
    rw [BrightnessManager.step] at h
    split at h
    · cases h
    · obtain rfl := Option.some.inj h
      exact ho.call id f answer

def twoScreens : List ManagerEvent :=
  [.init [2 ^ 32 + 3] (fun _ => some fun _ => true), .onConnect 5 (fun _ => some fun _ => true),
    .call 3 .setBrightness (.bool true), .call 5 .setBrightness (.bool true), .deInit]

def callsFor (m : BrightnessManager) (id : ℕ) : List (ℕ × Served) :=
  m.served.filter fun s => s.1 = id ∧ s.2.call.isSome

/-- The screen has an extension, which has no library. -/
structure Stopped (id : ℕ) (m : BrightnessManager) : Prop where
  known : (m.getExt id).isSome
  closed : ∀ p ∈ m.mMultiBrtMgrExt, p.1 = id → Closed p.2

theorem Stopped.serve {id : ℕ} {m : BrightnessManager} (hs : Stopped id m) (f : ExtFunction)
    (answer : ExtValue) : m.serve id f answer = { function := f, value := disabled id f } := by
  obtain ⟨e, he⟩ := Option.isSome_iff_exists.mp hs.known
  have henable : e.mBrightnessManagerExtEnable = false :=
    (hs.closed _ (getExt_mem he) rfl).1
  simp [BrightnessManager.serve, he, BrightnessManagerExt.serve, henable]

theorem callsFor_append (m : BrightnessManager) (id : ℕ) {more : List (ℕ × Served)}
    (h : ∀ s ∈ more, s.1 = id → s.2.call = none) :
    (m.served ++ more).filter (fun s => s.1 = id ∧ s.2.call.isSome) = m.callsFor id := by
  have hnone : more.filter (fun s => s.1 = id ∧ s.2.call.isSome) = [] := by
    rw [List.filter_eq_nil_iff]
    intro s hs hboth
    simp only [decide_eq_true_eq] at hboth
    have hcall := h s hs hboth.1
    rw [hcall] at hboth
    cases hboth.2
  rw [List.filter_append, hnone, List.append_nil, callsFor]

theorem Stopped.createExt {id : ℕ} {m : BrightnessManager} (hs : Stopped id m) (screenId : ℕ)
    (found : String → Option Exports) :
    Stopped id (m.createExt screenId found) ∧
      (m.createExt screenId found).callsFor id = m.callsFor id := by
  rw [BrightnessManager.createExt]
  cases hext : m.getExt screenId with
  | some e =>
    rw [Option.isSome_some, if_pos rfl]
    exact ⟨hs, rfl⟩
  | none =>
    have hne : screenId ≠ id := by
      rintro rfl
      have hknown := hs.known
      rw [hext] at hknown
      cases hknown
    rw [Option.isSome_none, if_neg Bool.false_ne_true]
    refine ⟨⟨?_, ?_⟩, ?_⟩
    · obtain ⟨e, he⟩ := Option.isSome_iff_exists.mp hs.known
      have hkept : (m.mMultiBrtMgrExt ++ [(screenId, (BrightnessManagerExt.init m.linker {}
          (dlopenNs found (nsName screenId))).2.1)]).lookup id = some e := by
        rw [List.lookup_append]
        exact Option.or_of_isSome hs.known ▸ he
      exact Option.isSome_iff_exists.mpr ⟨e, hkept⟩
    · intro p hp hid
      rcases List.mem_append.mp hp with hp | hp
      · exact hs.closed p hp hid
      · rw [List.mem_singleton.mp hp] at hid
        exact absurd hid hne
    · apply callsFor_append
      intro s hmem hid
      obtain ⟨t, -, rfl⟩ := List.mem_map.mp hmem
      exact absurd hid hne

theorem deInitAll_stopped (l : Linker) (exts : List (ℕ × BrightnessManagerExt)) {id : ℕ}
    (h : ∀ p ∈ exts, p.1 = id → Closed p.2) :
    ∀ s ∈ (deInitAll l exts).2.2, s.1 ≠ id := by
  induction exts generalizing l with
  | nil =>
    intro s hs
    cases hs
  | cons q exts ih =>
    intro s hs
    rw [deInitAll_cons] at hs
    rcases List.mem_append.mp hs with hs | hs
    · obtain ⟨t, ht, rfl⟩ := List.mem_map.mp hs
      rintro rfl
      have hfunc := (h q List.mem_cons_self rfl).2.2
      simp [BrightnessManagerExt.deInit, hfunc] at ht
    · exact ih _ (fun p hp => h p (List.mem_cons_of_mem q hp)) s hs

theorem deInit_stopped {m : BrightnessManager} {id : ℕ} (h : (m.getExt id).isSome) :
    Stopped id m.deInit where
  known := by
    have hids := deInitAll_ids m.linker m.mMultiBrtMgrExt
    obtain ⟨e, he⟩ := Option.isSome_iff_exists.mp h
    have hmem : id ∈ (deInitAll m.linker m.mMultiBrtMgrExt).2.1.map Prod.fst :=
      hids ▸ List.mem_map_of_mem (getExt_mem he)
    cases hext : m.deInit.getExt id with
    | none => exact absurd hmem (getExt_none hext)
    | some e => rfl
  closed := fun p hp _ => deInitAll_closed m.linker m.mMultiBrtMgrExt p hp

theorem Stopped.step {id : ℕ} {m m' : BrightnessManager} {e : ManagerEvent} (hs : Stopped id m)
    (h : step m e = some m') : Stopped id m' ∧ m'.callsFor id = m.callsFor id := by
  cases e with
  | init screenIds found =>
    obtain rfl := Option.some.inj h
    rw [BrightnessManager.init]
    generalize (if screenIds.isEmpty then [DEFAULT_DISPLAY_ID] else screenIds) = ids
    induction ids generalizing m with
    | nil => exact ⟨hs, rfl⟩
    | cons screenId ids ih =>
      obtain ⟨hnext, hcalls⟩ := hs.createExt (screenId % 2 ^ 32) found
      obtain ⟨hend, hrest⟩ := ih hnext rfl
      exact ⟨hend, hrest.trans hcalls⟩
  | onConnect screenId found =>
    obtain rfl := Option.some.inj h
    exact hs.createExt _ found
  | deInit =>
    obtain rfl := Option.some.inj h
    refine ⟨deInit_stopped hs.known, callsFor_append m id ?_⟩
    intro s hmem hid
    exact absurd hid (deInitAll_stopped m.linker m.mMultiBrtMgrExt hs.closed s hmem)
  | call screenId f answer =>
    rw [BrightnessManager.step] at h
    split at h
    · cases h
    · obtain rfl := Option.some.inj h
      refine ⟨⟨hs.known, hs.closed⟩, callsFor_append m id ?_⟩
      intro s hmem hid
      rw [List.mem_singleton.mp hmem] at hid ⊢
      obtain rfl : screenId = id := hid
      rw [hs.serve]

/-- A screen that had its extension ended is stopped for good: in no run after that, whatever
`Init`s and reconnections it holds, is its library called again, and each of its functions gives
back what it gives back without the library. -/
theorem stopped_for_good {m n : BrightnessManager} {es : List ManagerEvent} {id : ℕ}
    (hid : (m.getExt id).isSome) (hn : run step m (.deInit :: es) = some n) :
    n.callsFor id = m.deInit.callsFor id ∧
      ∀ f answer, n.serve id f answer = { function := f, value := disabled id f } := by
  have hafter : run step m.deInit es = some n := hn
  have hrun : Stopped id n ∧ n.callsFor id = m.deInit.callsFor id := by
    apply run_history (J := fun _ n => Stopped id n ∧ n.callsFor id = m.deInit.callsFor id)
      ⟨deInit_stopped hid, rfl⟩ ?_ hafter
    rintro past u e v ⟨hs, hcalls⟩ _ huv
    obtain ⟨hnext, hkept⟩ := hs.step huv
    exact ⟨hnext, hkept.trans hcalls⟩
  exact ⟨hrun.2, fun f answer => hrun.1.serve f answer⟩

theorem restarted_screen_stopped :
    ∃ n, run step (BrightnessManager.init {} [0] fun _ => some fun _ => true)
        [.deInit, .init [0] (fun _ => some fun _ => true), .call 0 .getBrightness (.int 120)] =
          some n ∧
      n.serve 0 .getBrightness (.int 120) = { function := .getBrightness, value := .int 0 } := by
  have hruns : (run step (BrightnessManager.init {} [0] fun _ => some fun _ => true)
      [.deInit, .init [0] (fun _ => some fun _ => true),
        .call 0 .getBrightness (.int 120)]).isSome = true := rfl
  obtain ⟨n, hn⟩ := Option.isSome_iff_exists.mp hruns
  have hid : ((BrightnessManager.init {} [0] fun _ => some fun _ => true).getExt 0).isSome :=
    rfl
  exact ⟨n, hn, (stopped_for_good hid hn).2 .getBrightness (.int 120)⟩

end BrightnessManager

end DisplayPowerMgr.BrightnessWrapper
