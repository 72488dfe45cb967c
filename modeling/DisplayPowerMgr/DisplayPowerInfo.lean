import DisplayPowerMgr.Library.BinaryFloat

/-! The values the display power manager passes around: display states, the reasons of a
state change, and what the display manager below answers to a power command. -/
namespace DisplayPowerMgr

inductive DisplayState where
  | off | dim | on | suspend | delayOff | doze | dozeSuspend | unknown
  deriving DecidableEq, Repr

/-- The reasons the service treats specially; `other` stands for every other code. -/
inductive StateChangeReason where
  | preBright
  | preBrightAuthFailScreenOn
  | preBrightAuthSuccess
  | preBrightAuthFailScreenOff
  | other (code : ℕ)
  deriving DecidableEq, Repr

def StateChangeReason.isPreBright : StateChangeReason → Bool
  | .other _ => false
  | _ => true

/-- Whether the display manager accepts the two power commands of one state change. -/
structure HwAnswer where
  setDisplayState : Bool := true
  setDisplayPower : Bool := true
  deriving DecidableEq, Repr

def HwAnswer.Succeeds (hw : HwAnswer) : Prop :=
  hw.setDisplayState = true ∧ hw.setDisplayPower = true

instance (hw : HwAnswer) : Decidable hw.Succeeds := inferInstanceAs (Decidable (_ ∧ _))

/-- `DISPLAY_ON` or `DISPLAY_DIM`, the test that both layers repeat under several names. -/
def DisplayState.isScreenOn (state : DisplayState) : Bool := state = .on || state = .dim

@[simp] theorem isScreenOn_on : DisplayState.on.isScreenOn = true := rfl
@[simp] theorem isScreenOn_dim : DisplayState.dim.isScreenOn = true := rfl
@[simp] theorem isScreenOn_off : DisplayState.off.isScreenOn = false := rfl
@[simp] theorem isScreenOn_suspend : DisplayState.suspend.isScreenOn = false := rfl
@[simp] theorem isScreenOn_delayOff : DisplayState.delayOff.isScreenOn = false := rfl
@[simp] theorem isScreenOn_doze : DisplayState.doze.isScreenOn = false := rfl
@[simp] theorem isScreenOn_dozeSuspend : DisplayState.dozeSuspend.isScreenOn = false := rfl
@[simp] theorem isScreenOn_unknown : DisplayState.unknown.isScreenOn = false := rfl

/-- `static_cast<uint32_t>` of a non-negative floating-point number. -/
def toUint32 (x : ℚ) : ℕ := x.floor.toNat

theorem toUint32_lt {x : ℚ} {n : ℕ} (hn : 0 < n) (hx : x < n) : toUint32 x < n := by
  have hfloor : x.floor < (n : ℤ) := Int.floor_lt.mpr (by exact_mod_cast hx)
  rw [toUint32]
  omega

theorem le_toUint32 {m : ℕ} {x : ℚ} (hx : 0 ≤ x) : m ≤ toUint32 x ↔ (m : ℚ) ≤ x := by
  have hfloor : (m : ℤ) ≤ ⌊x⌋ ↔ ((m : ℤ) : ℚ) ≤ x := Int.le_floor
  have hnonneg : 0 ≤ ⌊x⌋ := Int.floor_nonneg.mpr hx
  rw [← Int.cast_natCast, ← hfloor]
  show m ≤ ⌊x⌋.toNat ↔ _
  omega

@[simp] theorem toUint32_natCast (n : ℕ) : toUint32 (n : ℚ) = n := by
  show ⌊(n : ℚ)⌋.toNat = n
  rw [Int.floor_natCast, Int.toNat_natCast]

/-- What an operation on `double` values answers for its exact result. -/
def double (x : ℚ) : ℚ := FloatFormat.binary64.round x

theorem double_mono {x y : ℚ} (h : x ≤ y) : double x ≤ double y := FloatFormat.round_mono h

theorem double_nonneg {x : ℚ} (h : 0 ≤ x) : 0 ≤ double x := FloatFormat.round_nonneg h

theorem double_natCast {n : ℕ} (h : n ≤ 2 ^ 53) : double n = n := by
  apply FloatFormat.round_of_representable
  rw [← Int.cast_natCast]
  apply FloatFormat.representable_intCast
  · rw [abs_of_nonneg (Int.natCast_nonneg n)]
    exact_mod_cast h
  · decide

theorem double_le_natCast {x : ℚ} {n : ℕ} (hn : n ≤ 2 ^ 53) (h : x ≤ n) : double x ≤ n :=
  double_natCast hn ▸ double_mono h

theorem natCast_le_double {x : ℚ} {n : ℕ} (hn : n ≤ 2 ^ 53) (h : n ≤ x) : n ≤ double x := by
  have hmono := double_mono h
  rwa [double_natCast hn] at hmono

/-! The functions on `float` are written for any type with its arithmetic: for `Single`, and for the
exact rationals. -/

/-- `float`. -/
abbrev Single := BinaryFloat FloatFormat.binary32

structure PointXy (F : Type := ℚ) [FloatArithmetic F] where
  x : F := float (-1)
  y : F := float (-1)
  deriving DecidableEq, Repr

def PointXy.of {F : Type} [FloatArithmetic F] (x y : ℚ) : PointXy F := ⟨float x, float y⟩

def EPSILON : ℚ := 1 / 10000000

def fabs {F : Type} [FloatArithmetic F] (x : F) : F :=
  if x < float 0 then float 0 - x else x

def isEqualF {F : Type} [FloatArithmetic F] (a b : F) : Bool :=
  fabs (a - b) < float EPSILON

@[simp] theorem fabs_rat (x : ℚ) : fabs x = |x| := by
  rw [fabs, abs_eq_max_neg]
  change (if x < 0 then 0 - x else x) = _
  split
  · rw [max_eq_right (by linarith), zero_sub]
  · rw [max_eq_left (by linarith)]

theorem isEqualF_rat (a b : ℚ) : isEqualF a b = decide (|a - b| < EPSILON) := by
  rw [isEqualF, fabs_rat]
  rfl

end DisplayPowerMgr
