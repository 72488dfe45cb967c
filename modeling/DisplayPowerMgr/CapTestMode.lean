import DisplayPowerMgr.Library.History
import DisplayPowerMgr.CallErrors
import DisplayPowerMgr.CapInNits

/-! The test mode of the two cap calls of `DisplayPowerMgrService`. The error that a refused call
leaves is modelled with the calls that report errors. -/
namespace DisplayPowerMgr

def TEST_MODE : ℕ := 1
def NORMAL_MODE : ℕ := 2

structure CapService where
  isInTestMode : Bool := false
  brightness : BrightnessService

/-- The cap calls with the caller's permission, and anything else that happens to the brightness
service. -/
inductive CapCall where
  | setMaxBrightness (isSystem : Bool) (value : ℚ) (mode : ℕ)
  | setMaxBrightnessNit (isSystem : Bool) (maxNit mode : ℕ)
  | other (e : BrightnessEvent)
  deriving DecidableEq, Repr

namespace CapService

open BrightnessService ServiceRequest Runs

def changeMode (s : CapService) (mode : ℕ) : CapService :=
  let s := if mode = TEST_MODE then { s with isInTestMode := true } else s
  if mode = NORMAL_MODE then { s with isInTestMode := false } else s

def setMaxBrightnessInner (s : CapService) (isSystem : Bool) (value : ℚ) (mode : ℕ) :
    CapService × Bool :=
  if !isSystem then (s, false)
  else if isOutRange value 0 1 then (s, false)
  else
    let s := s.changeMode mode
    let maxBrightness := 1
    let (brightness, ret) :=
      if s.isInTestMode then s.brightness.setMaxBrightness maxBrightness
      else s.brightness.setMaxBrightness value
    ({ s with brightness := brightness }, ret)

def setMaxBrightnessNitInner (s : CapService) (isSystem : Bool) (maxNit mode : ℕ) :
    CapService × Bool :=
  if !isSystem then (s, false)
  else if maxNit > 100 * 1000 then (s, false)
  else
    let s := s.changeMode mode
    let defaultMaxNit := 600
    let (brightness, ret) :=
      if s.isInTestMode then s.brightness.setMaxBrightnessNit defaultMaxNit
      else s.brightness.setMaxBrightnessNit maxNit
    ({ s with brightness := brightness }, ret)

def step (s : CapService) : CapCall → Option CapService
  | .setMaxBrightness isSystem value mode => some (s.setMaxBrightnessInner isSystem value mode).1
  | .setMaxBrightnessNit isSystem maxNit mode =>
    some (s.setMaxBrightnessNitInner isSystem maxNit mode).1
  | .other e =>
    if SetsCap e then none
    else (s.brightness.step e).map fun brightness => { s with brightness := brightness }

def admitted : CapCall → Bool
  | .setMaxBrightness isSystem value _ => isSystem && !isOutRange value 0 1
  | .setMaxBrightnessNit isSystem maxNit _ => isSystem && decide (maxNit ≤ 100 * 1000)
  | .other _ => false

def modeOf (mode : ℕ) : Option Bool :=
  if mode = TEST_MODE then some true else if mode = NORMAL_MODE then some false else none

/-- The level that a share of the range stands for: its product in `double` is rounded to the
nearest level, and nothing of it stands for the lowest level. -/
def levelOfShare (lowest : ℕ) (value : ℚ) : ℕ :=
  if double (value * 255) < 1 / 2 then lowest else toUint32 (double (value * 255) + 1 / 2)

def modeSet : CapCall → Option Bool
  | .setMaxBrightness isSystem value mode =>
    if admitted (.setMaxBrightness isSystem value mode) then modeOf mode else none
  | .setMaxBrightnessNit isSystem maxNit mode =>
    if admitted (.setMaxBrightnessNit isSystem maxNit mode) then modeOf mode else none
  | .other _ => none

/-- The level that a call asks for as the cap. -/
def capAsked (lowest : ℕ) : CapCall → Option ℕ
  | .setMaxBrightness isSystem value mode =>
    if admitted (.setMaxBrightness isSystem value mode) then some (levelOfShare lowest value)
    else none
  | .setMaxBrightnessNit isSystem maxNit mode =>
    if admitted (.setMaxBrightnessNit isSystem maxNit mode) then
      some (getBrightnessLevelFromNit maxNit)
    else none
  | .other _ => none

/-- The cap that the calls so far are to leave: none but 255 in the test mode, else that of the
latest call that was let in, wherever it came from. -/
def capDue (param : BrightnessParam) (calls : List CapCall) : ℕ :=
  if (latest modeSet calls).getD false then 255
  else min ((latest (capAsked param.minBrightness) calls).getD param.maxBrightness) 255

theorem changeMode_brightness (s : CapService) (mode : ℕ) :
    (s.changeMode mode).brightness = s.brightness := by
  rw [changeMode]
  repeat' split
  all_goals rfl

theorem changeMode_isInTestMode (s : CapService) (mode : ℕ) :
    (s.changeMode mode).isInTestMode =
      if mode = TEST_MODE then true else if mode = NORMAL_MODE then false else s.isInTestMode := by
  rw [changeMode]
  by_cases htest : mode = TEST_MODE
  · subst htest
    rfl
  · rw [if_neg htest, if_neg htest]
    split <;> rfl

theorem changeMaxBrightness_max {bs : BrightnessService} (h : bs.brightnessValueMax ≤ 255)
    (maxValue : ℕ) :
    (bs.changeMaxBrightness maxValue).1.brightnessValueMax = min maxValue 255 := by
  have hlimits := congrArg Limits.brightnessValueMax (changeMaxBrightness_limits bs maxValue)
  refine hlimits.trans ?_
  split
  · rename_i hsame
    rw [hsame]
    exact (min_eq_left h).symm
  · rfl

theorem changeMaxBrightness_min (bs : BrightnessService) (maxValue : ℕ) :
    (bs.changeMaxBrightness maxValue).1.brightnessValueMin = bs.brightnessValueMin := by
  have hlimits := congrArg Limits.brightnessValueMin (changeMaxBrightness_limits bs maxValue)
  refine hlimits.trans ?_
  split <;> rfl

theorem step_brightnessValueMin {bs t : BrightnessService} {e : BrightnessEvent}
    (ht : bs.step e = some t) : t.brightnessValueMin = bs.brightnessValueMin := by
  rcases step_limits ht with hsame | ⟨discount, duration, _, hsame⟩ | ⟨maxValue, _, rfl⟩
  · exact congrArg Limits.brightnessValueMin hsame
  · exact congrArg Limits.brightnessValueMin hsame
  · exact changeMaxBrightness_min bs maxValue

theorem maxValueOf_share (bs : BrightnessService) {value : ℚ} (h : isOutRange value 0 1 = false) :
    bs.maxValueOf value = levelOfShare bs.brightnessValueMin value := by
  have hnonneg : 0 ≤ value := by
    by_contra hneg
    rw [isOutRange, decide_eq_false_iff_not, not_or] at h
    exact hneg (not_lt.mp h.1)
  have hproduct : 0 ≤ double (value * 255) := double_nonneg (by linarith)
  have hround : 0 ≤ double (value * 255) + 1 / 2 := by linarith
  have hone := @le_toUint32 1 _ hround
  have hshare : ((MAX_DEFAULT_BRGIHTNESS_LEVEL : ℕ) : ℚ) = 255 := by
    norm_num [MAX_DEFAULT_BRGIHTNESS_LEVEL]
  rw [Nat.cast_one] at hone
  rw [maxValueOf, levelOfShare, hshare]
  by_cases hsmall : double (value * 255) < 1 / 2
  · have hzero : toUint32 (double (value * 255) + 1 / 2) = 0 := by
      by_contra hne
      have := hone.mp (by omega)
      linarith
    rw [if_pos (Or.inl hzero), if_pos hsmall]
  · have hpos : 1 ≤ toUint32 (double (value * 255) + 1 / 2) := by
      apply hone.mpr
      linarith
    rw [if_neg hsmall, if_neg]
    rintro (hzero | hneg)
    · omega
    · linarith

theorem maxValueOf_one (bs : BrightnessService) : bs.maxValueOf 1 = 255 := by
  rw [maxValueOf_share bs (by decide), levelOfShare, if_neg (by decide +kernel)]
  decide +kernel

/-- What the mode and the limits are, as the calls so far decide. -/
structure AsAsked (param : BrightnessParam) (calls : List CapCall) (s : CapService) : Prop where
  mode : s.isInTestMode = (latest modeSet calls).getD false
  valueMax : s.brightness.brightnessValueMax = capDue param calls
  valueMin : s.brightness.brightnessValueMin = param.minBrightness

variable {param : BrightnessParam} {calls : List CapCall} {s t : CapService} {call : CapCall}

theorem capDue_le (param : BrightnessParam) (calls : List CapCall) :
    capDue param calls ≤ 255 := by
  rw [capDue]
  split <;> omega

theorem AsAsked.silent (h : AsAsked param calls s) (hcall : admitted call = false)
    (hmode : t.isInTestMode = s.isInTestMode)
    (hmax : t.brightness.brightnessValueMax = s.brightness.brightnessValueMax)
    (hmin : t.brightness.brightnessValueMin = s.brightness.brightnessValueMin) :
    AsAsked param (calls ++ [call]) t := by
  have hset : modeSet call = none := by
    cases call with
    | other e => rfl
    | _ => rw [modeSet, hcall]; rfl
  have hasked : capAsked param.minBrightness call = none := by
    cases call with
    | other e => rfl
    | _ => rw [capAsked, hcall]; rfl
  refine ⟨?_, ?_, hmin.trans h.valueMin⟩
  · rw [hmode, h.mode, latest_of_none hset]
  · rw [hmax, h.valueMax, capDue, capDue, latest_of_none hset, latest_of_none hasked]

theorem AsAsked.asked (h : AsAsked param calls s) (mode : ℕ) {asked maxValue : ℕ}
    (hset : modeSet call = modeOf mode)
    (hasked : capAsked param.minBrightness call = some asked)
    (hvalue : min maxValue 255 = if (s.changeMode mode).isInTestMode then 255 else min asked 255)
    (hbound : s.brightness.brightnessValueMax ≤ 255) :
    AsAsked param (calls ++ [call])
      { s.changeMode mode with
        brightness := (s.brightness.changeMaxBrightness maxValue).1 } := by
  have hmode : (s.changeMode mode).isInTestMode =
      (latest modeSet (calls ++ [call])).getD false := by
    rw [changeMode_isInTestMode, latest_snoc, hset, h.mode, modeOf]
    by_cases htest : mode = TEST_MODE
    · rw [if_pos htest, if_pos htest]
      rfl
    · rw [if_neg htest, if_neg htest]
      split <;> rfl
  refine ⟨hmode, ?_, (changeMaxBrightness_min _ _).trans h.valueMin⟩
  rw [capDue, latest_of_some hasked, ← hmode]
  exact (changeMaxBrightness_max hbound maxValue).trans hvalue

theorem AsAsked.step (h : AsAsked param calls s) (ht : s.step call = some t) :
    AsAsked param (calls ++ [call]) t := by
  have hbound : s.brightness.brightnessValueMax ≤ 255 := h.valueMax ▸ capDue_le param calls
  cases call with
  | other e =>
    rw [CapService.step] at ht
    split at ht
    · cases ht
    · rename_i hcap
      obtain ⟨bs, hbs, rfl⟩ := Option.map_eq_some_iff.mp ht
      refine h.silent rfl rfl ?_ (step_brightnessValueMin hbs)
      exact step_keepsCap (Bool.eq_false_iff.mpr hcap) hbs
  | setMaxBrightness isSystem value mode =>
    obtain rfl := Option.some.inj ht
    by_cases hin : isSystem = true ∧ isOutRange value 0 1 = false
    · obtain ⟨rfl, hrange⟩ := hin
      have hadmitted : admitted (.setMaxBrightness true value mode) = true := by
        rw [admitted, hrange]
        rfl
      have hasked : s.brightness.maxValueOf value = levelOfShare param.minBrightness value :=
        h.valueMin ▸ maxValueOf_share s.brightness hrange
      have hcall : (s.setMaxBrightnessInner true value mode).1 =
          { s.changeMode mode with
            brightness := (s.brightness.changeMaxBrightness
              (if (s.changeMode mode).isInTestMode then 255
              else levelOfShare param.minBrightness value)).1 } := by
        rw [setMaxBrightnessInner, if_neg (by simp), if_neg (by simp [hrange]), ← hasked,
          ← maxValueOf_one s.brightness]
        dsimp only
        rw [changeMode_brightness]
        split <;> rfl
      rw [hcall]
      refine h.asked mode ?_ (if_pos hadmitted) ?_ hbound
      · exact if_pos hadmitted
      · split <;> rfl
    · have hrefused : admitted (.setMaxBrightness isSystem value mode) = false := by
        rw [admitted]
        simpa using hin
      have hcall : s.setMaxBrightnessInner isSystem value mode = (s, false) := by
        rw [setMaxBrightnessInner]
        cases isSystem with
        | false => rfl
        | true =>
          have hout : isOutRange value 0 1 = true := by simpa using hin
          rw [if_neg (by simp), if_pos hout]
      rw [hcall]
      exact h.silent hrefused rfl rfl rfl
  | setMaxBrightnessNit isSystem maxNit mode =>
    obtain rfl := Option.some.inj ht
    by_cases hin : isSystem = true ∧ maxNit ≤ 100 * 1000
    · obtain ⟨rfl, hrange⟩ := hin
      have hadmitted : admitted (.setMaxBrightnessNit true maxNit mode) = true := by
        rw [admitted]
        simpa using hrange
      have hcall : (s.setMaxBrightnessNitInner true maxNit mode).1 =
          { s.changeMode mode with
            brightness := (s.brightness.changeMaxBrightness
              (if (s.changeMode mode).isInTestMode then getBrightnessLevelFromNit 600
              else getBrightnessLevelFromNit maxNit)).1 } := by
        rw [setMaxBrightnessNitInner, if_neg (by simp), if_neg (by omega)]
        dsimp only
        rw [changeMode_brightness]
        split <;> rfl
      have hdefault : getBrightnessLevelFromNit 600 = 255 := by
        decide +kernel
      rw [hcall, hdefault]
      refine h.asked mode ?_ (if_pos hadmitted) ?_ hbound
      · exact if_pos hadmitted
      · split <;> rfl
    · have hrefused : admitted (.setMaxBrightnessNit isSystem maxNit mode) = false := by
        rw [admitted]
        simpa using hin
      have hcall : s.setMaxBrightnessNitInner isSystem maxNit mode = (s, false) := by
        rw [setMaxBrightnessNitInner]
        cases isSystem with
        | false => rfl
        | true =>
          have hout : ¬ maxNit ≤ 100 * 1000 := by simpa using hin
          rw [if_neg (by simp), if_pos (by omega)]
      rw [hcall]
      exact h.silent hrefused rfl rfl rfl

/-- In every run the mode is the one that the latest call that set it left, the cap is 255 in the
test mode, and else the one that the latest call asked for; calls that are refused count for
neither, and leaving the test mode brings no earlier cap back. -/
theorem cap_follows_calls {boot : BrightnessBoot} (hmax : boot.param.maxBrightness ≤ 255)
    {calls : List CapCall} {t : CapService}
    (ht : Runs.run step { brightness := boot.start } calls = some t) :
    t.isInTestMode = (latest modeSet calls).getD false ∧
      t.brightness.brightnessValueMax = capDue boot.param calls := by
  have hstart : AsAsked boot.param [] { brightness := boot.start } := by
    refine ⟨rfl, ?_, rfl⟩
    exact (min_eq_left hmax).symm
  have hend := run_history (J := fun calls s => AsAsked boot.param calls s) hstart
    (fun past u call v hu _ hv => hu.step hv) ht
  exact ⟨hend.mode, hend.valueMax⟩

def testedCalls : List CapCall :=
  [.setMaxBrightnessNit true 300 0, .setMaxBrightness true (1 / 2) TEST_MODE,
    .setMaxBrightness false (1 / 5) NORMAL_MODE, .setMaxBrightnessNit true 100 0]

def underTest : CapService :=
  ((({ brightness := onBoot.start : CapService }.setMaxBrightnessNitInner true 300
    0).1.setMaxBrightnessInner true (1 / 2) TEST_MODE).1.setMaxBrightnessInner false (1 / 5)
    NORMAL_MODE).1

def tested : CapService := (underTest.setMaxBrightnessNitInner true 100 0).1

theorem tested_follows_calls :
    tested.isInTestMode = (latest modeSet testedCalls).getD false ∧
      tested.brightness.brightnessValueMax = capDue onBoot.param testedCalls :=
  cap_follows_calls (by decide) (rfl : Runs.run step { brightness := onBoot.start } testedCalls =
    some tested)

end CapService

end DisplayPowerMgr
