import Mathlib.Algebra.Order.Round
import Mathlib.Data.Int.Log
import Mathlib.Data.Rat.Floor
import Mathlib.Tactic.Linarith

/-! Binary floating-point formats and rounding to nearest with ties to even. Numbers are exact
rationals, and rounding goes on past the largest number of a format. -/

/-- The width of the significand, the exponent of the smallest positive number, and that of the
power of two at which the numbers end. -/
structure FloatFormat where
  precision : ℕ
  minExponent : ℤ
  maxExponent : ℤ
  precision_pos : 0 < precision := by decide
  deriving DecidableEq

namespace FloatFormat

def binary32 : FloatFormat := { precision := 24, minExponent := -149, maxExponent := 128 }
def binary64 : FloatFormat := { precision := 53, minExponent := -1074, maxExponent := 1024 }

def nearestEven (x : ℚ) : ℤ :=
  if Int.fract x < 1 / 2 then ⌊x⌋
  else if 1 / 2 < Int.fract x then ⌊x⌋ + 1
  else if Even ⌊x⌋ then ⌊x⌋
  else ⌊x⌋ + 1

theorem floor_le_nearestEven (x : ℚ) : ⌊x⌋ ≤ nearestEven x := by
  rw [nearestEven]
  repeat' split
  all_goals omega

theorem nearestEven_le_floor (x : ℚ) : nearestEven x ≤ ⌊x⌋ + 1 := by
  rw [nearestEven]
  repeat' split
  all_goals omega

@[simp] theorem nearestEven_intCast (n : ℤ) : nearestEven n = n := by
  rw [nearestEven, if_pos (by norm_num), Int.floor_intCast]

theorem nearestEven_mono {x y : ℚ} (h : x ≤ y) : nearestEven x ≤ nearestEven y := by
  rcases lt_or_eq_of_le (Int.floor_le_floor h) with hlt | heq
  · exact (nearestEven_le_floor x).trans (hlt.trans_le (floor_le_nearestEven y))
  · -- the same integers are near, and the larger number does not lie nearer to the lower one
    have hfract : Int.fract x ≤ Int.fract y := by
      rw [Int.fract, Int.fract, heq]
      linarith
    rw [nearestEven, nearestEven, heq]
    repeat' split
    all_goals first | omega | (exfalso; linarith)

theorem nearestEven_nonneg {x : ℚ} (h : 0 ≤ x) : 0 ≤ nearestEven x := by
  have hmono := nearestEven_mono h
  rwa [← Int.cast_zero, nearestEven_intCast] at hmono

variable (f : FloatFormat)

/-- The exponent of the last place of the numbers around a positive one. -/
def lastPlace (x : ℚ) : ℤ := max (Int.log 2 x - (f.precision - 1)) f.minExponent

def roundNonneg (x : ℚ) : ℚ := nearestEven (x / 2 ^ f.lastPlace x) * 2 ^ f.lastPlace x

def round (x : ℚ) : ℚ := if x < 0 then -f.roundNonneg (-x) else f.roundNonneg x

/-- The format has the number, were its exponents unbounded above. -/
def Representable (x : ℚ) : Prop :=
  ∃ m e : ℤ, |m| ≤ 2 ^ f.precision ∧ f.minExponent ≤ e ∧ x = m * 2 ^ e

variable {f} {x y : ℚ}

theorem two_zpow_pos (e : ℤ) : (0 : ℚ) < 2 ^ e := zpow_pos two_pos e

theorem roundNonneg_nonneg (h : 0 ≤ x) : 0 ≤ f.roundNonneg x := by
  have hnonneg : (0 : ℚ) ≤ nearestEven (x / 2 ^ f.lastPlace x) := by
    exact_mod_cast nearestEven_nonneg (div_nonneg h (two_zpow_pos _).le)
  exact mul_nonneg hnonneg (two_zpow_pos _).le

theorem zpow_eq_mul {e k : ℤ} (h : e ≤ k) :
    (2 : ℚ) ^ k = ((2 ^ (k - e).toNat : ℤ) : ℚ) * 2 ^ e := by
  rw [Int.cast_pow, Int.cast_ofNat, ← zpow_natCast, ← zpow_add₀ two_ne_zero]
  congr 1
  omega

theorem roundNonneg_le_zpow {k : ℤ} (hk : f.lastPlace x ≤ k) (h : x ≤ 2 ^ k) :
    f.roundNonneg x ≤ 2 ^ k := by
  have hle : x / 2 ^ f.lastPlace x ≤ ((2 ^ (k - f.lastPlace x).toNat : ℤ) : ℚ) := by
    rw [div_le_iff₀ (two_zpow_pos _), ← zpow_eq_mul hk]
    exact h
  have hround : nearestEven (x / 2 ^ f.lastPlace x) ≤ 2 ^ (k - f.lastPlace x).toNat := by
    have hmono := nearestEven_mono hle
    rwa [nearestEven_intCast] at hmono
  rw [roundNonneg, zpow_eq_mul hk]
  exact mul_le_mul_of_nonneg_right (by exact_mod_cast hround) (two_zpow_pos _).le

theorem zpow_le_roundNonneg {k : ℤ} (hk : f.lastPlace x ≤ k) (h : 2 ^ k ≤ x) :
    2 ^ k ≤ f.roundNonneg x := by
  have hle : ((2 ^ (k - f.lastPlace x).toNat : ℤ) : ℚ) ≤ x / 2 ^ f.lastPlace x := by
    rw [le_div_iff₀ (two_zpow_pos _), ← zpow_eq_mul hk]
    exact h
  have hround : 2 ^ (k - f.lastPlace x).toNat ≤ nearestEven (x / 2 ^ f.lastPlace x) := by
    have hmono := nearestEven_mono hle
    rwa [nearestEven_intCast] at hmono
  rw [roundNonneg, zpow_eq_mul hk]
  exact mul_le_mul_of_nonneg_right (by exact_mod_cast hround) (two_zpow_pos _).le

theorem lt_zpow_log_succ (x : ℚ) : x < 2 ^ (Int.log 2 x + 1) := by
  exact_mod_cast Int.lt_zpow_succ_log_self (b := 2) one_lt_two x

theorem zpow_log_le (hx : 0 < x) : 2 ^ Int.log 2 x ≤ x := by
  exact_mod_cast Int.zpow_log_le_self (b := 2) one_lt_two hx

theorem lastPlace_mono (hx : 0 < x) (h : x ≤ y) : f.lastPlace x ≤ f.lastPlace y :=
  max_le_max_right _ (sub_le_sub_right (Int.log_mono_right hx h) _)

theorem roundNonneg_mono (hx : 0 ≤ x) (h : x ≤ y) : f.roundNonneg x ≤ f.roundNonneg y := by
  rcases hx.eq_or_lt with rfl | hx
  · have hzero : f.roundNonneg 0 = 0 := by simp [roundNonneg, nearestEven]
    rw [hzero]
    exact roundNonneg_nonneg h
  · have hy := hx.trans_le h
    rcases (lastPlace_mono (f := f) hx h).eq_or_lt with heq | hlt
    · have hdiv : x / 2 ^ f.lastPlace y ≤ y / 2 ^ f.lastPlace y :=
        div_le_div_of_nonneg_right h (two_zpow_pos _).le
      rw [roundNonneg, roundNonneg, heq]
      exact mul_le_mul_of_nonneg_right (by exact_mod_cast nearestEven_mono hdiv)
        (two_zpow_pos _).le
    · -- a power of two stands between numbers of different last places
      have hlog : Int.log 2 x < Int.log 2 y ∧ f.lastPlace y = Int.log 2 y - (f.precision - 1) := by
        simp only [lastPlace] at *
        omega
      have hpos := f.precision_pos
      have hxplace : f.lastPlace x ≤ Int.log 2 y := by omega
      have hyplace : f.lastPlace y ≤ Int.log 2 y := by omega
      have hbelow : x ≤ 2 ^ Int.log 2 y :=
        (lt_zpow_log_succ x).le.trans (zpow_le_zpow_right₀ one_le_two (by omega))
      exact (roundNonneg_le_zpow hxplace hbelow).trans
        (zpow_le_roundNonneg hyplace (zpow_log_le hy))

theorem round_neg (x : ℚ) : f.round (-x) = -f.round x := by
  rcases lt_trichotomy x 0 with hneg | rfl | hpos
  · rw [round, round, if_neg (by linarith), if_pos hneg, neg_neg]
  · simp [round, roundNonneg, nearestEven]
  · rw [round, round, if_pos (by linarith), if_neg (by linarith), neg_neg]

theorem round_nonneg (h : 0 ≤ x) : 0 ≤ f.round x := by
  rw [round, if_neg (not_lt.mpr h)]
  exact roundNonneg_nonneg h

@[simp] theorem round_zero : f.round 0 = 0 := by
  simp [round, roundNonneg, nearestEven]

theorem round_mono (h : x ≤ y) : f.round x ≤ f.round y := by
  rcases lt_or_ge x 0 with hx | hx
  · rcases lt_or_ge y 0 with hy | hy
    · rw [round, round, if_pos hx, if_pos hy, neg_le_neg_iff]
      exact roundNonneg_mono (by linarith) (by linarith)
    · have hleft : 0 ≤ f.round (-x) := round_nonneg (by linarith)
      have hright : 0 ≤ f.round y := round_nonneg hy
      rw [round_neg] at hleft
      linarith
  · rw [round, round, if_neg (not_lt.mpr hx), if_neg (not_lt.mpr (hx.trans h))]
    exact roundNonneg_mono hx h

theorem Representable.neg (h : f.Representable x) : f.Representable (-x) := by
  obtain ⟨m, e, hm, he, rfl⟩ := h
  refine ⟨-m, e, by rwa [abs_neg], he, ?_⟩
  rw [Int.cast_neg, neg_mul]

theorem representable_intCast {n : ℤ} (h : |n| ≤ 2 ^ f.precision) (hmin : f.minExponent ≤ 0) :
    f.Representable n :=
  ⟨n, 0, h, hmin, by simp⟩

theorem Representable.eq_mul (h : f.Representable x) (hx : 0 < x) :
    ∃ n : ℤ, x = n * 2 ^ f.lastPlace x := by
  obtain ⟨m, e, hm, he, hxe⟩ := h
  rcases le_or_gt (f.lastPlace x) e with hle | hlt
  · refine ⟨m * 2 ^ (e - f.lastPlace x).toNat, ?_⟩
    rw [Int.cast_mul, mul_assoc, ← zpow_eq_mul hle]
    exact hxe
  · -- then it is the power of two at which the last place changes
    have hplace : f.lastPlace x = Int.log 2 x - (f.precision - 1) := by
      simp only [lastPlace] at *
      omega
    have hpos := f.precision_pos
    have hm : (m : ℚ) ≤ 2 ^ (f.precision : ℤ) := by
      rw [zpow_natCast]
      exact_mod_cast (le_abs_self m).trans hm
    have hle : x ≤ 2 ^ Int.log 2 x := by
      calc x = m * 2 ^ e := hxe
        _ ≤ 2 ^ (f.precision : ℤ) * 2 ^ e := mul_le_mul_of_nonneg_right hm (two_zpow_pos _).le
        _ = 2 ^ (f.precision + e) := (zpow_add₀ two_ne_zero _ _).symm
        _ ≤ 2 ^ Int.log 2 x := zpow_le_zpow_right₀ one_le_two (by omega)
    refine ⟨2 ^ (Int.log 2 x - f.lastPlace x).toNat, ?_⟩
    rw [← zpow_eq_mul (by omega)]
    exact hle.antisymm (zpow_log_le hx)

theorem round_of_representable (h : f.Representable x) : f.round x = x := by
  have hpositive {y : ℚ} (hy : f.Representable y) (hpos : 0 < y) : f.round y = y := by
    obtain ⟨n, hn⟩ := hy.eq_mul hpos
    have hdiv : y / 2 ^ f.lastPlace y = n := by
      rw [div_eq_iff (two_zpow_pos _).ne']
      exact hn
    rw [round, if_neg (not_lt.mpr hpos.le), roundNonneg, hdiv, nearestEven_intCast]
    exact hn.symm
  rcases lt_trichotomy x 0 with hneg | rfl | hpos
  · have hround := hpositive h.neg (neg_pos.mpr hneg)
    rw [round_neg] at hround
    exact neg_injective hround
  · simp [round, roundNonneg, nearestEven]
  · exact hpositive h hpos

theorem representable_roundNonneg (hx : 0 ≤ x) : f.Representable (f.roundNonneg x) := by
  refine ⟨nearestEven (x / 2 ^ f.lastPlace x), f.lastPlace x, ?_, le_max_right _ _, rfl⟩
  rw [abs_of_nonneg (nearestEven_nonneg (div_nonneg hx (two_zpow_pos _).le))]
  have hexp : Int.log 2 x + 1 ≤ f.precision + f.lastPlace x := by
    simp only [lastPlace]
    omega
  have hle : x / 2 ^ f.lastPlace x ≤ ((2 ^ f.precision : ℤ) : ℚ) := by
    rw [div_le_iff₀ (two_zpow_pos _), Int.cast_pow, Int.cast_ofNat, ← zpow_natCast,
      ← zpow_add₀ two_ne_zero]
    exact (lt_zpow_log_succ x).le.trans (zpow_le_zpow_right₀ one_le_two hexp)
  have hmono := nearestEven_mono hle
  rwa [nearestEven_intCast] at hmono

theorem representable_round (x : ℚ) : f.Representable (f.round x) := by
  rw [round]
  split
  · exact (representable_roundNonneg (by linarith)).neg
  · exact representable_roundNonneg (by linarith)

/-- Rounding does not take a number past one that the format has. -/
theorem round_le_of_representable (hy : f.Representable y) (h : x ≤ y) : f.round x ≤ y := by
  have hmono := round_mono (f := f) h
  rwa [round_of_representable hy] at hmono

theorem le_round_of_representable (hx : f.Representable x) (h : x ≤ y) : x ≤ f.round y := by
  have hmono := round_mono (f := f) h
  rwa [round_of_representable hx] at hmono

end FloatFormat
