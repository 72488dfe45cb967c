import DisplayPowerMgr.Library.FloatFormat
import Mathlib.Tactic.NormNum

/-! The values of a binary floating-point format, with infinities and NaN, and its arithmetic. Both
zeros are one value here, so a division by zero has no sign to go by and is left as NaN. A program
written over `FloatArithmetic` computes in a format or in exact rationals. -/

/-- What a program does with the numbers of a type: `float` is a literal or a conversion from a
number of another type, `intPart` a conversion to an integer. -/
class FloatArithmetic (F : Type) where
  add : Add F
  sub : Sub F
  mul : Mul F
  div : Div F
  lt : LT F
  le : LE F
  decidableLT : DecidableLT F
  decidableLE : DecidableLE F
  float : ℚ → F
  intPart : F → ℤ

export FloatArithmetic (float intPart)

namespace FloatArithmetic

variable {F : Type} [FloatArithmetic F]

-- the operations that a type has of its own come first
instance (priority := low) : Add F := add
instance (priority := low) : Sub F := sub
instance (priority := low) : Mul F := mul
instance (priority := low) : Div F := div
instance (priority := low) : LT F := lt
instance (priority := low) : LE F := le
instance (priority := low) : DecidableLT F := decidableLT
instance (priority := low) : DecidableLE F := decidableLE

end FloatArithmetic

instance : FloatArithmetic ℚ where
  add := inferInstance
  sub := inferInstance
  mul := inferInstance
  div := inferInstance
  lt := inferInstance
  le := inferInstance
  decidableLT := inferInstance
  decidableLE := inferInstance
  float x := x
  intPart x := if x < 0 then -⌊-x⌋ else ⌊x⌋

@[simp] theorem float_rat (x : ℚ) : (float x : ℚ) = x := rfl

/-- The comparison `==`, in which NaN equals nothing. -/
def FloatArithmetic.equal {F : Type} [FloatArithmetic F] (x y : F) : Bool :=
  decide (x ≤ y) && decide (y ≤ x)

@[simp] theorem FloatArithmetic.equal_rat (x y : ℚ) : equal x y = decide (x = y) := by
  rw [equal, ← Bool.decide_and]
  exact decide_eq_decide.mpr le_antisymm_iff.symm

def FloatFormat.HasNumber (f : FloatFormat) (x : ℚ) : Prop :=
  f.Representable x ∧ |x| < 2 ^ f.maxExponent

theorem FloatFormat.hasNumber_zero (f : FloatFormat) : f.HasNumber 0 :=
  ⟨⟨0, f.minExponent, by simp, le_rfl, by simp⟩, by simpa using two_zpow_pos f.maxExponent⟩

inductive BinaryFloat (f : FloatFormat) where
  | nan
  | infinite (negative : Bool)
  | finite (value : ℚ) (has : f.HasNumber value)
  deriving DecidableEq

namespace BinaryFloat

variable {f : FloatFormat}

/-- The nearest value, an infinity from beyond the largest number on. -/
def ofRat (x : ℚ) : BinaryFloat f :=
  if h : |f.round x| < 2 ^ f.maxExponent then
    finite (f.round x) ⟨FloatFormat.representable_round x, h⟩
  else infinite (x < 0)

def neg : BinaryFloat f → BinaryFloat f
  | nan => nan
  | infinite negative => infinite !negative
  | finite x h => finite (-x) ⟨h.1.neg, by simpa using h.2⟩

def add : BinaryFloat f → BinaryFloat f → BinaryFloat f
  | finite x _, finite y _ => ofRat (x + y)
  | infinite a, infinite b => if a = b then infinite a else nan
  | infinite a, finite _ _ => infinite a
  | finite _ _, infinite b => infinite b
  | _, _ => nan

def mul : BinaryFloat f → BinaryFloat f → BinaryFloat f
  | finite x _, finite y _ => ofRat (x * y)
  | infinite a, infinite b => infinite (a != b)
  | infinite a, finite y _ => if y = 0 then nan else infinite (a != decide (y < 0))
  | finite x _, infinite b => if x = 0 then nan else infinite (decide (x < 0) != b)
  | _, _ => nan

def div : BinaryFloat f → BinaryFloat f → BinaryFloat f
  | finite x _, finite y _ => if y = 0 then nan else ofRat (x / y)
  | infinite a, finite y _ => if y = 0 then nan else infinite (a != decide (y < 0))
  | finite _ _, infinite _ => ofRat 0
  | _, _ => nan

/-- NaN is neither less nor greater than anything. -/
def lt : BinaryFloat f → BinaryFloat f → Bool
  | finite x _, finite y _ => x < y
  | infinite a, infinite b => a && !b
  | infinite a, finite _ _ => a
  | finite _ _, infinite b => !b
  | _, _ => false

def le : BinaryFloat f → BinaryFloat f → Bool
  | finite x _, finite y _ => x ≤ y
  | infinite a, infinite b => a || !b
  | infinite a, finite _ _ => a
  | finite _ _, infinite b => !b
  | _, _ => false

instance : Neg (BinaryFloat f) := ⟨neg⟩
instance : Add (BinaryFloat f) := ⟨add⟩
instance : Sub (BinaryFloat f) := ⟨fun x y => x + -y⟩
instance : Mul (BinaryFloat f) := ⟨mul⟩
instance : Div (BinaryFloat f) := ⟨div⟩
instance : LT (BinaryFloat f) := ⟨fun x y => x.lt y = true⟩
instance : LE (BinaryFloat f) := ⟨fun x y => x.le y = true⟩
instance : DecidableLT (BinaryFloat f) := fun x y => inferInstanceAs (Decidable (x.lt y = true))
instance : DecidableLE (BinaryFloat f) := fun x y => inferInstanceAs (Decidable (x.le y = true))

/-- What has no integer part, or none that fits, is not defined by the conversion. -/
instance : FloatArithmetic (BinaryFloat f) where
  add := inferInstance
  sub := inferInstance
  mul := inferInstance
  div := inferInstance
  lt := inferInstance
  le := inferInstance
  decidableLT := inferInstance
  decidableLE := inferInstance
  float := ofRat
  intPart
    | finite x _ => if x < 0 then -⌊-x⌋ else ⌊x⌋
    | _ => 0

def toRat : BinaryFloat f → Option ℚ
  | finite x _ => some x
  | _ => none

variable {a b delta : BinaryFloat f} {d x y : ℚ}

theorem toRat_eq_some : a.toRat = some x ↔ ∃ h, a = finite x h := by
  cases a with
  | finite value has =>
    simp only [toRat, Option.some.injEq, finite.injEq]
    exact ⟨fun heq => ⟨heq ▸ has, heq⟩, fun h => h.2⟩
  | _ => simp [toRat]

theorem finite_sub_finite (hx : f.HasNumber x) (hy : f.HasNumber y) :
    finite x hx - finite y hy = ofRat (x - y) := by
  rw [sub_eq_add_neg]
  rfl

theorem ofRat_of_hasNumber (hx : f.HasNumber x) : ofRat x = finite x hx := by
  have hround := FloatFormat.round_of_representable hx.1
  have hlt : |f.round x| < 2 ^ f.maxExponent := hround.symm ▸ hx.2
  rw [ofRat, dif_pos hlt]
  simp only [hround]

theorem not_lt_zero (h : ∃ x ∈ a.toRat, 0 ≤ x) : ¬ a < ofRat 0 := by
  obtain ⟨x, ha, hnonneg⟩ := h
  obtain ⟨hx, rfl⟩ := toRat_eq_some.mp ha
  rw [ofRat_of_hasNumber f.hasNumber_zero]
  intro hlt
  exact absurd hnonneg (not_le.mpr (of_decide_eq_true hlt))

theorem ofRat_lt_finite (hd : f.HasNumber d) : ofRat x < finite d hd ↔ f.round x < d := by
  obtain ⟨hlow, hhigh⟩ := abs_lt.mp hd.2
  rw [ofRat]
  split
  · exact decide_eq_true_iff
  · rename_i hlarge
    change decide (x < 0) = true ↔ f.round x < d
    rw [decide_eq_true_iff]
    rcases lt_or_ge x 0 with hneg | hnonneg
    · have hround : f.round x ≤ 0 :=
        FloatFormat.round_zero (f := f) ▸ FloatFormat.round_mono hneg.le
      rw [abs_of_nonpos hround, not_lt] at hlarge
      exact iff_of_true hneg (by linarith)
    · rw [abs_of_nonneg (FloatFormat.round_nonneg hnonneg), not_lt] at hlarge
      exact iff_of_false (not_lt.mpr hnonneg) (by linarith)

theorem ofRat_sub_finite (hx : f.HasNumber x) (hy : f.HasNumber y) (hx0 : 0 ≤ x) (hy0 : 0 ≤ y) :
    ∃ h : f.HasNumber (f.round (x - y)), ofRat (x - y) = finite (f.round (x - y)) h := by
  have hlow : -y ≤ f.round (x - y) :=
    FloatFormat.le_round_of_representable hy.1.neg (by linarith)
  have hhigh : f.round (x - y) ≤ x := FloatFormat.round_le_of_representable hx.1 (by linarith)
  have hlt : |f.round (x - y)| < 2 ^ f.maxExponent := by
    rw [abs_lt]
    have hxlt := (abs_lt.mp hx.2).2
    have hylt := (abs_lt.mp hy.2).2
    constructor <;> linarith
  exact ⟨⟨FloatFormat.representable_round _, hlt⟩, dif_pos hlt⟩

/-- NaN apart, the values are in a line. -/
theorem not_lt_iff : ¬ a < b ↔ a = nan ∨ b = nan ∨ b ≤ a := by
  change ¬ a.lt b = true ↔ _ ∨ _ ∨ b.le a = true
  cases a with
  | nan => simp [lt]
  | infinite p =>
    cases b with
    | nan => simp [lt]
    | infinite q => cases p <;> cases q <;> simp [lt, le]
    | finite y hy => cases p <;> simp [lt, le]
  | finite x hx =>
    cases b with
    | nan => simp [lt]
    | infinite q => cases q <;> simp [lt, le]
    | finite y hy => simp [lt, le]

theorem le_ne_nan (h : a ≤ b) : a ≠ nan ∧ b ≠ nan := by
  change a.le b = true at h
  constructor
  · rintro rfl
    cases b <;> exact absurd h Bool.false_ne_true
  · rintro rfl
    cases a <;> exact absurd h Bool.false_ne_true

theorem finite_lt_finite {hx : f.HasNumber x} {hy : f.HasNumber y} :
    finite x hx < finite y hy ↔ x < y := decide_eq_true_iff

theorem finite_le_finite {hx : f.HasNumber x} {hy : f.HasNumber y} :
    finite x hx ≤ finite y hy ↔ x ≤ y := decide_eq_true_iff

theorem le_antisymm_finite {hx : f.HasNumber x} (hle : a ≤ finite x hx) (hge : finite x hx ≤ a) :
    a = finite x hx := by
  cases a with
  | finite y hy =>
    obtain rfl := le_antisymm (finite_le_finite.mp hle) (finite_le_finite.mp hge)
    rfl
  | nan => exact absurd hle Bool.false_ne_true
  | infinite negative =>
    have hneg : negative = true := hle
    have hpos : (!negative) = true := hge
    rw [hneg] at hpos
    cases hpos

protected theorem lt_of_lt_of_le {c : BinaryFloat f} (hab : a < b) (hbc : b ≤ c) : a < c := by
  change a.lt b = true at hab
  change b.le c = true at hbc
  change a.lt c = true
  cases a <;> cases b <;> cases c
  case finite.finite.finite =>
    rw [lt, decide_eq_true_iff] at hab ⊢
    exact hab.trans_le (of_decide_eq_true hbc)
  all_goals simp_all [lt, le]

def Within (lo hi : ℚ) (a : BinaryFloat f) : Prop := a = nan ∨ ∃ x ∈ a.toRat, lo ≤ x ∧ x ≤ hi

variable {lo hi lo' hi' : ℚ}

theorem within_ofRat (hlo : f.HasNumber lo) (hhi : f.HasNumber hi) (h : lo ≤ x) (h' : x ≤ hi) :
    Within lo hi (ofRat x : BinaryFloat f) := by
  have hle := FloatFormat.le_round_of_representable hlo.1 h
  have hge := FloatFormat.round_le_of_representable hhi.1 h'
  have hlt : |f.round x| < 2 ^ f.maxExponent := by
    have hlow := (abs_lt.mp hlo.2).1
    have hhigh := (abs_lt.mp hhi.2).2
    rw [abs_lt]
    constructor <;> linarith
  exact .inr ⟨f.round x, toRat_eq_some.mpr ⟨_, dif_pos hlt⟩, hle, hge⟩

theorem Within.add (ha : Within lo hi a) (hb : Within lo' hi' b) (hx : f.HasNumber x)
    (hy : f.HasNumber y) (hlow : x ≤ lo + lo') (hhigh : hi + hi' ≤ y) : Within x y (a + b) := by
  rcases ha with rfl | ⟨v, ha, hvlo, hvhi⟩
  · exact .inl (by cases b <;> rfl)
  · obtain ⟨hv, rfl⟩ := toRat_eq_some.mp ha
    rcases hb with rfl | ⟨w, hb, hwlo, hwhi⟩
    · exact .inl rfl
    · obtain ⟨hw, rfl⟩ := toRat_eq_some.mp hb
      exact within_ofRat hx hy (by linarith) (by linarith)

theorem Within.neg (h : Within lo hi a) : Within (-hi) (-lo) (-a) := by
  rcases h with rfl | ⟨x, ha, hlo, hhi⟩
  · exact .inl rfl
  · obtain ⟨hx, rfl⟩ := toRat_eq_some.mp ha
    exact .inr ⟨-x, rfl, by linarith, by linarith⟩

theorem Within.sub (ha : Within lo hi a) (hb : Within lo' hi' b) (hx : f.HasNumber x)
    (hy : f.HasNumber y) (hlow : x ≤ lo - hi') (hhigh : hi - lo' ≤ y) : Within x y (a - b) :=
  ha.add hb.neg hx hy (by linarith) (by linarith)

theorem Within.div (h : Within lo hi a) (hlo : f.HasNumber lo) (hhi : f.HasNumber hi)
    (hlo0 : lo ≤ 0) (hhi0 : 0 ≤ hi) {hd : f.HasNumber d} (hone : 1 ≤ d) :
    Within lo hi (a / finite d hd) := by
  rcases h with rfl | ⟨x, ha, hxlo, hxhi⟩
  · exact .inl rfl
  · obtain ⟨hx, rfl⟩ := toRat_eq_some.mp ha
    have hpos : 0 < d := by linarith
    have heq : (finite x hx / finite d hd : BinaryFloat f) = ofRat (x / d) := if_neg hpos.ne'
    rw [heq]
    apply within_ofRat hlo hhi
    · rw [le_div_iff₀ hpos]
      exact (mul_le_of_one_le_right hlo0 hone).trans hxlo
    · rw [div_le_iff₀ hpos]
      exact hxhi.trans (le_mul_of_one_le_right hhi0 hone)

/-! ## Differences

A program that asks whether `a - b < delta` compares a rounded difference. -/

/-- In exact numbers, `a` is ahead of `b` by `delta` or more. -/
def Ahead (delta a b : BinaryFloat f) : Prop :=
  ∃ d ∈ delta.toRat, ∃ x ∈ a.toRat, ∃ y ∈ b.toRat, y + d ≤ x

/-- The exact difference is less than `delta`, and its nearest number is not. -/
def RoundsUp (delta a b : BinaryFloat f) : Prop :=
  ∃ d ∈ delta.toRat, ∃ x ∈ a.toRat, ∃ y ∈ b.toRat, x - y < d ∧ d ≤ f.round (x - y)

instance : Decidable (Ahead delta a b) :=
  inferInstanceAs (Decidable (∃ d ∈ _, ∃ x ∈ _, ∃ y ∈ _, _))

instance : Decidable (RoundsUp delta a b) :=
  inferInstanceAs (Decidable (∃ d ∈ _, ∃ x ∈ _, ∃ y ∈ _, _))

/-- Rounding never takes a difference below a number that it reaches. -/
theorem Ahead.not_sub_lt (h : Ahead delta a b) : ¬ a - b < delta := by
  obtain ⟨d, hdelta, x, ha, y, hb, hle⟩ := h
  obtain ⟨hd, rfl⟩ := toRat_eq_some.mp hdelta
  obtain ⟨hx, rfl⟩ := toRat_eq_some.mp ha
  obtain ⟨hy, rfl⟩ := toRat_eq_some.mp hb
  rw [finite_sub_finite, ofRat_lt_finite, not_lt]
  exact FloatFormat.le_round_of_representable hd.1 (by linarith)

theorem ahead_of_not_sub_lt (ha : ∃ x ∈ a.toRat, 0 ≤ x) (hb : ∃ y ∈ b.toRat, 0 ≤ y)
    (hdelta : ofRat 0 ≤ delta) (hround : ¬ RoundsUp delta a b) (h : ¬ a - b < delta) :
    Ahead delta a b := by
  obtain ⟨x, ha, hx0⟩ := ha
  obtain ⟨y, hb, hy0⟩ := hb
  obtain ⟨hx, rfl⟩ := toRat_eq_some.mp ha
  obtain ⟨hy, rfl⟩ := toRat_eq_some.mp hb
  rw [finite_sub_finite] at h
  cases delta with
  | nan =>
    rw [ofRat_of_hasNumber f.hasNumber_zero] at hdelta
    exact absurd hdelta Bool.false_ne_true
  | infinite negative =>
    rw [ofRat_of_hasNumber f.hasNumber_zero] at hdelta
    obtain ⟨hfinite, heq⟩ := ofRat_sub_finite hx hy hx0 hy0
    rw [heq] at h
    exact absurd hdelta h
  | finite d hd =>
    rw [ofRat_lt_finite, not_lt] at h
    refine ⟨d, rfl, x, rfl, y, rfl, ?_⟩
    by_contra hnot
    exact hround ⟨d, rfl, x, rfl, y, rfl, by linarith, h⟩

end BinaryFloat
