import Mathlib.Algebra.Order.Field.Basic
import Mathlib.Data.Rat.Floor
import Mathlib.Order.Monotone.Basic
import Mathlib.Tactic.FieldSimp
import Mathlib.Tactic.Linarith
import Mathlib.Tactic.Ring

/-! Carrying a number from a scale of `b` steps over to one of `a` steps, to the nearest step, a
half upwards. What is lost on the way to the coarser scale, and that nothing is lost on the way to
the finer one and back. -/
namespace Rescale

variable {a b k l : ℕ}

/-- The step of the scale `0 .. a` nearest to the step `k` of the scale `0 .. b`. -/
def rescale (a b k : ℕ) : ℕ := (2 * (k * a) + b) / (2 * b)

theorem rescale_eq_iff (hb : 0 < b) {m : ℕ} :
    rescale a b k = m ↔ 2 * (b * m) ≤ 2 * (k * a) + b ∧ 2 * (k * a) < 2 * (b * m) + b := by
  rw [rescale, Nat.div_eq_iff (by omega)]
  have hmul : m * (2 * b) = 2 * (b * m) := by ring
  rw [hmul]
  omega

/-- The nearest step is at most half a step away. -/
theorem rescale_spec (hb : 0 < b) :
    2 * (b * rescale a b k) ≤ 2 * (k * a) + b ∧ 2 * (k * a) < 2 * (b * rescale a b k) + b :=
  (rescale_eq_iff hb).mp rfl

theorem rescale_mono (a b : ℕ) : Monotone (rescale a b) := by
  intro k l h
  apply Nat.div_le_div_right
  have := Nat.mul_le_mul_right a h
  omega

@[simp] theorem rescale_self (ha : 0 < a) : rescale a a k = k := by
  rw [rescale_eq_iff ha, mul_comm k a]
  omega

theorem rescale_full (hb : 0 < b) : rescale a b b = a := by
  rw [rescale_eq_iff hb]
  omega

theorem rescale_le (hb : 0 < b) (hk : k ≤ b) : rescale a b k ≤ a :=
  (rescale_mono a b hk).trans (rescale_full hb).le

theorem le_rescale (hb : 0 < b) (hba : b ≤ a) : k ≤ rescale a b k := by
  obtain ⟨_, hhigh⟩ := @rescale_spec a b k hb
  by_contra hless
  have hstep := Nat.mul_le_mul_left b (show rescale a b k + 1 ≤ k by omega)
  have hfiner := Nat.mul_le_mul_left k hba
  rw [Nat.mul_add, mul_comm b k] at hstep
  omega

theorem rescale_rescale (ha : 0 < a) (hab : a ≤ b) : rescale a b (rescale b a k) = k := by
  rcases hab.eq_or_lt with rfl | hlt
  · rw [rescale_self ha, rescale_self ha]
  · obtain ⟨hlow, hhigh⟩ := @rescale_spec b a k ha
    rw [rescale_eq_iff (by omega)]
    rw [mul_comm (rescale b a k) a, mul_comm b k]
    omega

theorem floor_rescale (hb : 0 < b) (c : ℕ) :
    ((k : ℚ) * a / b + c + 1 / 2).floor.toNat = c + rescale a b k := by
  have hq : (0 : ℚ) < b := by exact_mod_cast hb
  obtain ⟨hlow, hhigh⟩ := @rescale_spec a b k hb
  have hlow : (2 : ℚ) * (b * rescale a b k) ≤ 2 * (k * a) + b := by exact_mod_cast hlow
  have hhigh : (2 : ℚ) * (k * a) < 2 * (b * rescale a b k) + b := by exact_mod_cast hhigh
  have hfloor : ⌊(k : ℚ) * a / b + c + 1 / 2⌋ = ((c + rescale a b k : ℕ) : ℤ) := by
    refine Int.floor_eq_iff.mpr ⟨?_, ?_⟩
    · push_cast
      have : (rescale a b k : ℚ) ≤ k * a / b + 1 / 2 := by
        rw [← sub_le_iff_le_add, le_div_iff₀ hq]
        linarith
      linarith
    · push_cast
      have : (k : ℚ) * a / b + 1 / 2 < rescale a b k + 1 := by
        rw [← lt_sub_iff_add_lt, div_lt_iff₀ hq]
        linarith
      linarith
  show ⌊(k : ℚ) * a / b + c + 1 / 2⌋.toNat = _
  rw [hfloor, Int.toNat_natCast]

/-- What a monotone map takes to the same place as `v` it still does when it is clamped to an
interval around `v`. -/
theorem clamp_same {α β : Type*} [LinearOrder α] [PartialOrder β] {f : α → β} (hf : Monotone f)
    {v w lo hi : α} (hlo : lo ≤ v) (hhi : v ≤ hi) (h : f w = f v) :
    f (max lo (min hi w)) = f v := by
  rcases le_total w hi with hw | hw
  · rw [min_eq_right hw]
    rcases le_total lo w with hw' | hw'
    · rw [max_eq_right hw', h]
    · rw [max_eq_left hw']
      exact le_antisymm (hf hlo) (h ▸ hf hw')
  · rw [min_eq_left hw, max_eq_right (hlo.trans hhi)]
    exact le_antisymm (h ▸ hf hw) (hf hhi)

end Rescale
