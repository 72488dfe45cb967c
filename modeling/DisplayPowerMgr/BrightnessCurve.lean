import DisplayPowerMgr.CalculationManager
import DisplayPowerMgr.Library.Polyline

/-! `GetBrightnessCurveLevel` on a curve whose points are in order: from its first point on it is
the polygonal curve through them, before it is the default level. -/
namespace DisplayPowerMgr

def PointXy.toPair (point : PointXy) : ℚ × ℚ := (point.x, point.y)

/-- The abscissas increase by more than `IsEqualF` overlooks, the levels do not decrease. -/
def OrderedPoints (points : List PointXy) : Prop :=
  points.IsChain fun p q => p.x < q.x ∧ isEqualF q.x p.x = false ∧ p.y ≤ q.y

instance (points : List PointXy) : Decidable (OrderedPoints points) :=
  inferInstanceAs (Decidable (List.IsChain _ _))

theorem orderedPoints_cons {p q : PointXy} {points : List PointXy} :
    OrderedPoints (p :: q :: points) ↔
      (p.x < q.x ∧ isEqualF q.x p.x = false ∧ p.y ≤ q.y) ∧ OrderedPoints (q :: points) :=
  List.isChain_cons_cons

theorem OrderedPoints.rising {p : PointXy} {points : List PointXy}
    (h : OrderedPoints (p :: points)) :
    Polyline.Rising p.toPair (points.map PointXy.toPair) := by
  induction points generalizing p with
  | nil => exact Polyline.rising_nil
  | cons q points ih =>
    obtain ⟨⟨hx, _, hy⟩, hrest⟩ := orderedPoints_cons.mp h
    exact Polyline.rising_cons.mpr ⟨⟨hx, hy⟩, ih hrest⟩

namespace BrightnessCalculationCurve

@[simp] theorem isEqualF_self (x : ℚ) : isEqualF x x = true := by
  simp [isEqualF_rat, EPSILON]

theorem curveLevelFrom_eq {p : PointXy} {points : List PointXy} (h : OrderedPoints (p :: points))
    (lux : ℚ) :
    curveLevelFrom lux p p.y points =
      Polyline.height p.toPair lux (points.map PointXy.toPair) := by
  induction points generalizing p with
  | nil => rfl
  | cons q points ih =>
    obtain ⟨⟨hx, hne, _⟩, hrest⟩ := orderedPoints_cons.mp h
    rw [curveLevelFrom, List.map_cons, Polyline.height, ← ih hrest]
    have hguard : (decide (q.x < p.x) || isEqualF q.x p.x) = false := by
      simp [hne, le_of_lt hx]
    rw [hguard]
    rfl

theorem getBrightnessCurveLevel_before {first : PointXy} (rest : List PointXy) {lux : ℚ}
    (h : lux < first.x) : getBrightnessCurveLevel (first :: rest) lux = mDefaultBrightness := by
  rw [getBrightnessCurveLevel, curveLevelFrom, if_pos h]
  simp

theorem getBrightnessCurveLevel_from {first : PointXy} {rest : List PointXy}
    (h : OrderedPoints (first :: rest)) {lux : ℚ} (hlux : first.x ≤ lux) :
    getBrightnessCurveLevel (first :: rest) lux =
      Polyline.height first.toPair lux (rest.map PointXy.toPair) := by
  rw [getBrightnessCurveLevel, curveLevelFrom, if_neg (not_lt.mpr hlux), curveLevelFrom_eq h]

def lastLevel (first : PointXy) (rest : List PointXy) : ℚ := ((first :: rest).getLast (by simp)).y

theorem level_ge {first : PointXy} {rest : List PointXy} (h : OrderedPoints (first :: rest))
    {lux : ℚ} (hlux : first.x ≤ lux) :
    first.y ≤ getBrightnessCurveLevel (first :: rest) lux := by
  rw [getBrightnessCurveLevel_from h hlux]
  exact Polyline.le_height h.rising hlux

theorem level_le {first : PointXy} {rest : List PointXy} (h : OrderedPoints (first :: rest))
    {lux : ℚ} (hlux : first.x ≤ lux) :
    getBrightnessCurveLevel (first :: rest) lux ≤ lastLevel first rest := by
  rw [getBrightnessCurveLevel_from h hlux]
  apply le_of_le_of_eq (Polyline.height_le h.rising)
  have hmap : (first.toPair :: rest.map PointXy.toPair).getLast (by simp) =
      ((first :: rest).getLast (by simp)).toPair :=
    List.getLast_map (f := PointXy.toPair) (l := first :: rest) (by simp)
  rw [hmap]
  rfl

theorem level_mono {first : PointXy} {rest : List PointXy} (h : OrderedPoints (first :: rest))
    {lux lux' : ℚ} (hlux : first.x ≤ lux) (hle : lux ≤ lux') :
    getBrightnessCurveLevel (first :: rest) lux ≤
      getBrightnessCurveLevel (first :: rest) lux' := by
  rw [getBrightnessCurveLevel_from h hlux, getBrightnessCurveLevel_from h (le_trans hlux hle)]
  exact Polyline.height_mono h.rising hle

theorem level_first {first : PointXy} {rest : List PointXy} (h : OrderedPoints (first :: rest)) :
    getBrightnessCurveLevel (first :: rest) first.x = first.y := by
  rw [getBrightnessCurveLevel_from h le_rfl]
  exact Polyline.height_left h.rising

/-- Over every lux that is not negative the level stays between the first and the last one and
does not fall as it gets brighter. -/
structure MonotoneCurve (first : PointXy) (rest : List PointXy) : Prop where
  ge_first : ∀ lux ≥ 0, first.y ≤ getBrightnessCurveLevel (first :: rest) lux
  le_last : ∀ lux ≥ 0, getBrightnessCurveLevel (first :: rest) lux ≤ lastLevel first rest
  mono : ∀ lux ≥ 0, ∀ lux' ≥ lux, getBrightnessCurveLevel (first :: rest) lux ≤
    getBrightnessCurveLevel (first :: rest) lux'

def AllMonotone : Prop :=
  ∀ first rest, OrderedPoints (first :: rest) → MonotoneCurve first rest

theorem monotoneCurve_of_covers {first : PointXy} {rest : List PointXy}
    (h : OrderedPoints (first :: rest)) (hcovers : first.x ≤ 0) : MonotoneCurve first rest where
  ge_first _ hlux := level_ge h (le_trans hcovers hlux)
  le_last _ hlux := level_le h (le_trans hcovers hlux)
  mono _ hlux _ hle := level_mono h (le_trans hcovers hlux) hle

theorem monotoneCurve_of_default {first : PointXy} {rest : List PointXy}
    (h : OrderedPoints (first :: rest)) (hdefault : first.y = mDefaultBrightness) :
    MonotoneCurve first rest := by
  have hge (lux : ℚ) : first.y ≤ getBrightnessCurveLevel (first :: rest) lux := by
    rcases lt_or_ge lux first.x with hlux | hlux
    · rw [getBrightnessCurveLevel_before rest hlux, hdefault]
    · exact level_ge h hlux
  refine ⟨fun lux _ => hge lux, ?_, ?_⟩
  · intro lux _
    rcases lt_or_ge lux first.x with hlux | hlux
    · rw [getBrightnessCurveLevel_before rest hlux, ← hdefault, ← level_first h]
      exact level_le h le_rfl
    · exact level_le h hlux
  · intro lux _ lux' hle
    rcases lt_or_ge lux first.x with hlux | hlux
    · rw [getBrightnessCurveLevel_before rest hlux, ← hdefault]
      exact hge lux'
    · exact level_mono h hlux hle

/-- Darkness has the default level when the curve starts to the right of it, and that level must
fit in front of the first one. -/
theorem MonotoneCurve.covers_or_default {first : PointXy} {rest : List PointXy}
    (hcurve : MonotoneCurve first rest) (h : OrderedPoints (first :: rest)) :
    first.x ≤ 0 ∨ first.y = mDefaultBrightness := by
  rcases le_or_gt first.x 0 with hcovers | hdark
  · exact Or.inl hcovers
  · refine Or.inr (le_antisymm ?_ ?_)
    · have hge := hcurve.ge_first 0 le_rfl
      rwa [getBrightnessCurveLevel_before rest hdark] at hge
    · have hmono := hcurve.mono 0 le_rfl first.x (le_of_lt hdark)
      rwa [getBrightnessCurveLevel_before rest hdark, level_first h] at hmono

/-- From its first point on the curve is monotone, before it the level is the default one; so the
whole curve is monotone exactly if nothing lies before the first point or its level is the default
one. -/
theorem curve_monotone_iff {first : PointXy} {rest : List PointXy}
    (h : OrderedPoints (first :: rest)) :
    (∀ lux < first.x, getBrightnessCurveLevel (first :: rest) lux = mDefaultBrightness) ∧
      (∀ lux ≥ first.x, first.y ≤ getBrightnessCurveLevel (first :: rest) lux ∧
        getBrightnessCurveLevel (first :: rest) lux ≤ lastLevel first rest) ∧
      (∀ lux ≥ first.x, ∀ lux' ≥ lux, getBrightnessCurveLevel (first :: rest) lux ≤
        getBrightnessCurveLevel (first :: rest) lux') ∧
      (MonotoneCurve first rest ↔ first.x ≤ 0 ∨ first.y = mDefaultBrightness) := by
  refine ⟨?_, ?_, ?_, ?_⟩
  · intro lux hlux
    exact getBrightnessCurveLevel_before rest hlux
  · intro lux hlux
    exact ⟨level_ge h hlux, level_le h hlux⟩
  · intro lux hlux lux' hle
    exact level_mono h hlux hle
  · constructor
    · intro hcurve
      exact hcurve.covers_or_default h
    · rintro (hcovers | hdefault)
      · exact monotoneCurve_of_covers h hcovers
      · exact monotoneCurve_of_default h hdefault

theorem defaultPoints_ordered : OrderedPoints ({} : BrightnessCalculationCurve).defaultPoints := by
  decide +kernel

theorem builtIn_monotone :
    MonotoneCurve ⟨0, 5⟩ ({} : BrightnessCalculationCurve).defaultPoints.tail := by
  have hiff := (@curve_monotone_iff ⟨0, 5⟩ _ defaultPoints_ordered).2.2.2
  exact hiff.mpr (Or.inl le_rfl)

/-- A curve for 10 lux and more: darkness gets the level 100, 10 lux the level 20. -/
theorem dark_level_jumps : ¬ AllMonotone := by
  intro h
  have hcurve := h ⟨10, 20⟩ [⟨100, 200⟩] (by decide +kernel)
  exact absurd (hcurve.mono 0 le_rfl 10 (by norm_num)) (by decide +kernel)

end BrightnessCalculationCurve

end DisplayPowerMgr
