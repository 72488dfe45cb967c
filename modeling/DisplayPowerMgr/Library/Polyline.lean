import Mathlib.Algebra.Order.Field.Basic
import Mathlib.Data.List.Chain
import Mathlib.Tactic.FieldSimp
import Mathlib.Tactic.Linarith
import Mathlib.Tactic.Ring

/-! The straight line through two points of a plane, and the polygonal curve through a list of
points that goes on at the height of the last one. Nothing here knows any program. -/
namespace Polyline

variable {𝕜 : Type*} [Field 𝕜] [LinearOrder 𝕜] [IsStrictOrderedRing 𝕜]

def line (p q : 𝕜 × 𝕜) (x : 𝕜) : 𝕜 := (q.2 - p.2) / (q.1 - p.1) * (x - p.1) + p.2

variable {p q : 𝕜 × 𝕜} {qs : List (𝕜 × 𝕜)} {x y : 𝕜}

omit [IsStrictOrderedRing 𝕜] [LinearOrder 𝕜] in
@[simp] theorem line_left (p q : 𝕜 × 𝕜) : line p q p.1 = p.2 := by
  simp [line]

theorem line_right (h : p.1 < q.1) : line p q q.1 = q.2 := by
  have hne : q.1 - p.1 ≠ 0 := by linarith
  rw [line, div_mul_cancel₀ _ hne]
  ring

theorem line_mono (h : p.1 < q.1) (hpq : p.2 ≤ q.2) (hxy : x ≤ y) : line p q x ≤ line p q y := by
  have hslope : 0 ≤ (q.2 - p.2) / (q.1 - p.1) := div_nonneg (by linarith) (by linarith)
  have hrise := mul_le_mul_of_nonneg_left (show x - p.1 ≤ y - p.1 by linarith) hslope
  rw [line, line]
  linarith

theorem le_line (h : p.1 < q.1) (hpq : p.2 ≤ q.2) (hx : p.1 ≤ x) : p.2 ≤ line p q x := by
  have hmono := line_mono h hpq hx
  rwa [line_left] at hmono

theorem line_le (h : p.1 < q.1) (hpq : p.2 ≤ q.2) (hx : x ≤ q.1) : line p q x ≤ q.2 := by
  have hmono := line_mono h hpq hx
  rwa [line_right h] at hmono

/-- The height at `x` of the curve from `p` on through the points that follow. -/
def height (p : 𝕜 × 𝕜) (x : 𝕜) : List (𝕜 × 𝕜) → 𝕜
  | [] => p.2
  | q :: qs => if x < q.1 then line p q x else height q x qs

def Rising (p : 𝕜 × 𝕜) (qs : List (𝕜 × 𝕜)) : Prop :=
  List.IsChain (fun p q => p.1 < q.1 ∧ p.2 ≤ q.2) (p :: qs)

omit [Field 𝕜] [IsStrictOrderedRing 𝕜] in
@[simp] theorem rising_nil : Rising p [] := List.IsChain.singleton p

omit [Field 𝕜] [IsStrictOrderedRing 𝕜] in
@[simp] theorem rising_cons :
    Rising p (q :: qs) ↔ (p.1 < q.1 ∧ p.2 ≤ q.2) ∧ Rising q qs :=
  List.isChain_cons_cons

omit [IsStrictOrderedRing 𝕜] in
theorem height_left (h : Rising p qs) : height p p.1 qs = p.2 := by
  cases qs with
  | nil => rfl
  | cons q qs =>
    have hpq := (rising_cons.mp h).1.1
    rw [height, if_pos hpq, line_left]

theorem le_height (h : Rising p qs) (hx : p.1 ≤ x) : p.2 ≤ height p x qs := by
  induction qs generalizing p with
  | nil => exact le_rfl
  | cons q qs ih =>
    obtain ⟨⟨hpq, hle⟩, hrest⟩ := rising_cons.mp h
    rw [height]
    split
    · exact le_line hpq hle hx
    · exact le_trans hle (ih hrest (by linarith))

theorem height_le (h : Rising p qs) : height p x qs ≤ ((p :: qs).getLast (by simp)).2 := by
  induction qs generalizing p x with
  | nil => exact le_rfl
  | cons q qs ih =>
    obtain ⟨⟨hpq, hle⟩, hrest⟩ := rising_cons.mp h
    rw [height, List.getLast_cons (by simp)]
    split
    · rename_i hx
      calc line p q x
          ≤ q.2 := line_le hpq hle (le_of_lt hx)
        _ ≤ height q q.1 qs := le_height hrest le_rfl
        _ ≤ _ := ih hrest
    · exact ih hrest

theorem height_mono (h : Rising p qs) (hxy : x ≤ y) : height p x qs ≤ height p y qs := by
  induction qs generalizing p with
  | nil => exact le_rfl
  | cons q qs ih =>
    obtain ⟨⟨hpq, hle⟩, hrest⟩ := rising_cons.mp h
    rw [height, height]
    by_cases hx : x < q.1
    · rw [if_pos hx]
      split
      · exact line_mono hpq hle hxy
      · rename_i hy
        calc line p q x
            ≤ q.2 := line_le hpq hle (le_of_lt hx)
          _ ≤ height q y qs := le_height hrest (by linarith)
    · rw [if_neg hx, if_neg (by linarith)]
      exact ih hrest

end Polyline
