import DisplayPowerMgr.BrightnessCurve
import Mathlib.Tactic.NormNum

/-! The offset the user puts on the curve: what `GetOffsetLevel` makes of the user's level when
the light changes, and when the curve gives the level back at the light it was chosen for. -/
namespace DisplayPowerMgr

namespace BrightnessCalculationManager

def InRange (level : ℚ) : Prop := MIN_DEFAULT_BRIGHTNESS ≤ level ∧ level ≤ MAX_DEFAULT_BRIGHTNESS

instance (level : ℚ) : Decidable (InRange level) := inferInstanceAs (Decidable (_ ∧ _))

@[simp] theorem fmax_rat (a b : ℚ) : fmax a b = max a b := by
  rw [fmax, max_def]
  grind

@[simp] theorem fmin_rat (a b : ℚ) : fmin a b = min a b := by
  rw [fmin, min_def]
  grind

variable {s e e' p p' : ℚ}

theorem headroomRatio_nonneg (hs : InRange s) (he : InRange e) : 0 ≤ headroomRatio s e := by
  rw [headroomRatio]
  split
  · norm_num
  · exact div_nonneg (sub_nonneg.mpr he.2) (sub_nonneg.mpr hs.2)

theorem headroomRatio_self (s : ℚ) : headroomRatio s s = 1 := by
  rw [headroomRatio]
  split
  · rfl
  · rename_i hroom
    apply div_self
    intro hzero
    rw [hzero] at hroom
    exact hroom (by norm_num [SMALL_VALUE])

theorem headroomRatio_anti (hs : InRange s) (hee : e ≤ e') :
    headroomRatio s e' ≤ headroomRatio s e := by
  rw [headroomRatio, headroomRatio]
  split
  · exact le_rfl
  · exact div_le_div_of_nonneg_right (by linarith) (sub_nonneg.mpr hs.2)

theorem headroomRatio_le_one (hs : InRange s) (hse : s ≤ e) : headroomRatio s e ≤ 1 :=
  le_of_le_of_eq (headroomRatio_anti hs hse) (headroomRatio_self s)

theorem brightenRaio_eq {delta : ℚ} (hd : SMALL_VALUE ≤ |delta|) (hpos : 0 < delta) :
    getDefaultBrightenOffsetBrightenRaio s e p delta = (max e p - e) / delta := by
  have hnonneg : 0 ≤ (max e p - e) / delta :=
    div_nonneg (sub_nonneg.mpr (le_max_left e p)) (le_of_lt hpos)
  simp only [getDefaultBrightenOffsetBrightenRaio, offsetBrightenAlphaRight, float_rat, fabs_rat,
    fmax_rat, sub_zero, one_mul, zero_mul, add_zero, if_neg (not_lt.mpr hd),
    if_neg (not_lt.mpr hnonneg)]

theorem darkenRatio_eq {delta : ℚ} (hd : SMALL_VALUE ≤ |delta|) (hneg : delta < 0) :
    getDefaultDarkenOffsetDarkenRatio s e p delta = (min e p - e) / delta := by
  have hnonneg : 0 ≤ (min e p - e) / delta :=
    div_nonneg_of_nonpos (sub_nonpos.mpr (min_le_left e p)) (le_of_lt hneg)
  simp only [getDefaultDarkenOffsetDarkenRatio, offsetDarkenAlphaLeft, float_rat, fabs_rat,
    fmin_rat, sub_zero, one_mul, zero_mul, add_zero, if_neg (not_lt.mpr hd),
    if_neg (not_lt.mpr hnonneg)]

theorem headroom_kept (hs : InRange s) (he : InRange e) :
    getDefaultDarkenOffsetBrightenRatio s e = headroomRatio s e := by
  rw [getDefaultDarkenOffsetBrightenRatio]
  exact if_neg (not_lt.mpr (headroomRatio_nonneg hs he))

theorem brightenDarkenRatio_eq (hs : InRange s) :
    getDefaultBrightenOffsetDarkenRatio s e = 1 := by
  have hpos : 0 < s := lt_of_lt_of_le (by norm_num [MIN_DEFAULT_BRIGHTNESS]) hs.1
  have hlarge : ¬ |s| < SMALL_VALUE := by
    rw [abs_of_pos hpos, not_lt]
    exact le_trans (by norm_num [MIN_DEFAULT_BRIGHTNESS, SMALL_VALUE]) hs.1
  simp [getDefaultBrightenOffsetDarkenRatio, hlarge, offsetBrightenAlphaLeft,
    offsetBrightenRatioLeft, fpow]

/-- The user's level `p`, chosen where the default is `s`, at a default of `e`. An offset to the
side the default moves to is used up by the move; one to the other side stays as it is in darker
light and shrinks with the room above in brighter light. -/
def transferred (s e p : ℚ) : ℚ :=
  if s < p then (if s < e then max e p else e + (p - s))
  else if p < s then (if e < s then min e p else e + (p - s) * headroomRatio s e)
  else e

theorem transferred_same (s p : ℚ) : transferred s s p = p := by
  simp only [transferred, lt_irrefl, if_false, headroomRatio_self s, mul_one]
  split
  · ring
  · split
    · ring
    · linarith

theorem transferred_ge (h : s < p) : e ≤ transferred s e p := by
  rw [transferred, if_pos h]
  split
  · exact le_max_left e p
  · linarith

theorem transferred_le (hs : InRange s) (he : InRange e) (h : p < s) : transferred s e p ≤ e := by
  rw [transferred, if_neg (not_lt.mpr (le_of_lt h)), if_pos h]
  split
  · exact min_le_left e p
  · have hshrink := mul_nonpos_of_nonpos_of_nonneg (sub_nonpos.mpr (le_of_lt h))
      (headroomRatio_nonneg hs he)
    linarith

theorem transferred_mono_default (hs : InRange s) (hee : e ≤ e') :
    transferred s e p ≤ transferred s e' p := by
  rw [transferred, transferred]
  split
  · split
    · rw [if_pos (by linarith)]
      exact max_le_max_right p hee
    · split
      · exact le_trans (by linarith) (le_max_right e' p)
      · linarith
  · split
    · rename_i hps
      split
      · split
        · exact min_le_min_right p hee
        · rename_i hse
          -- the darker level is at most `p`, the brighter one at least
          have hshrink := mul_le_mul_of_nonpos_left
            (headroomRatio_le_one hs (not_lt.mp hse)) (sub_nonpos.mpr (le_of_lt hps))
          exact le_trans (min_le_right e p) (by linarith)
      · rw [if_neg (by linarith)]
        have hshrink := mul_le_mul_of_nonpos_left (headroomRatio_anti hs hee)
          (sub_nonpos.mpr (le_of_lt hps))
        linarith
    · exact hee

theorem transferred_mono_user (hs : InRange s) (he : InRange e) (hpp : p ≤ p') :
    transferred s e p ≤ transferred s e p' := by
  rcases lt_trichotomy p' s with hp' | rfl | hp'
  · have hp : p < s := by linarith
    rw [transferred, transferred, if_neg (not_lt.mpr (le_of_lt hp)), if_pos hp,
      if_neg (not_lt.mpr (le_of_lt hp')), if_pos hp']
    split
    · exact min_le_min_left e hpp
    · have hgrow := mul_le_mul_of_nonneg_right (sub_le_sub_right hpp s)
        (headroomRatio_nonneg hs he)
      linarith
  · have hlevel : transferred p' e p' = e := by simp [transferred]
    rw [hlevel]
    rcases lt_or_eq_of_le hpp with hp | rfl
    · exact transferred_le hs he hp
    · exact le_of_eq hlevel
  · rcases lt_trichotomy p s with hp | rfl | hp
    · exact le_trans (transferred_le hs he hp) (transferred_ge hp')
    · have hlevel : transferred p e p = e := by simp [transferred]
      rw [hlevel]
      exact transferred_ge hp'
    · rw [transferred, transferred, if_pos hp, if_pos hp']
      split
      · exact max_le_max_left e hpp
      · linarith

/-- Every transferred level lies between two levels of the range. -/
theorem transferred_inRange (hs : InRange s) (he : InRange e) (hp : InRange p) :
    InRange (transferred s e p) := by
  rw [transferred]
  split
  · split
    · exact ⟨le_trans he.1 (le_max_left e p), max_le he.2 hp.2⟩
    · exact ⟨by linarith [he.1], by linarith [hp.2]⟩
  · split
    · rename_i hps
      split
      · exact ⟨le_min he.1 hp.1, le_trans (min_le_left e p) he.2⟩
      · rename_i hse
        have hnonneg := headroomRatio_nonneg hs he
        have hone := headroomRatio_le_one hs (not_lt.mp hse)
        have hlow := mul_le_mul_of_nonpos_left hone (sub_nonpos.mpr (le_of_lt hps))
        have hhigh := mul_nonpos_of_nonpos_of_nonneg (sub_nonpos.mpr (le_of_lt hps)) hnonneg
        exact ⟨by linarith [hp.1], by linarith [he.2]⟩
    · exact he

theorem clamp_inRange {level : ℚ} (h : InRange level) :
    (if (if level > MIN_DEFAULT_BRIGHTNESS then level else MIN_DEFAULT_BRIGHTNESS) <
        MAX_DEFAULT_BRIGHTNESS then
      (if level > MIN_DEFAULT_BRIGHTNESS then level else MIN_DEFAULT_BRIGHTNESS)
    else MAX_DEFAULT_BRIGHTNESS) = level := by
  have hlow : (if level > MIN_DEFAULT_BRIGHTNESS then level else MIN_DEFAULT_BRIGHTNESS) =
      level := by
    split
    · rfl
    · exact le_antisymm h.1 (by linarith)
  rw [hlow]
  split
  · rfl
  · exact le_antisymm (by linarith) h.2

theorem transferred_eq (hs : InRange s) (he : InRange e)
    (hd : p = s ∨ SMALL_VALUE ≤ |p - s|) :
    e + (p - s) *
        (if s < e ∧ p - s < 0 then getDefaultDarkenOffsetBrightenRatio s e
        else if s > e ∧ p - s > 0 then getDefaultBrightenOffsetDarkenRatio s e else 1) *
        (if s < e ∧ p - s > 0 then getDefaultBrightenOffsetBrightenRaio s e p (p - s)
        else if s > e ∧ p - s < 0 then getDefaultDarkenOffsetDarkenRatio s e p (p - s) else 1) =
      transferred s e p := by
  rcases lt_trichotomy p s with hp | rfl | hp
  · have hneg : p - s < 0 := by linarith
    have hsmall := hd.resolve_left (ne_of_lt hp)
    simp only [transferred, hp, not_lt.mpr (le_of_lt hp), not_lt.mpr (le_of_lt hneg), hneg,
      gt_iff_lt, and_true, and_false, if_false, if_true]
    rcases lt_trichotomy e s with hse | rfl | hse
    · rw [if_neg (by linarith), if_pos hse, if_pos hse, darkenRatio_eq hsmall hneg]
      rw [mul_one, mul_div_cancel₀ _ (ne_of_lt hneg)]
      ring
    · simp only [lt_irrefl, if_false, headroomRatio_self e]
      ring
    · rw [if_pos hse, if_neg (by linarith), if_neg (by linarith), headroom_kept hs he]
      ring
  · simp [transferred]
  · have hpos : 0 < p - s := by linarith
    have hsmall := hd.resolve_left (ne_of_gt hp)
    simp only [transferred, hp, not_lt.mpr (le_of_lt hpos), hpos, gt_iff_lt, and_true, and_false,
      if_false, if_true]
    rcases lt_trichotomy e s with hse | rfl | hse
    · rw [if_pos hse, if_neg (by linarith), if_neg (by linarith), brightenDarkenRatio_eq hs]
      ring
    · simp only [lt_irrefl, if_false]
      ring
    · rw [if_neg (by linarith), if_pos hse, if_pos hse, brightenRaio_eq hsmall hpos]
      rw [mul_one, mul_div_cancel₀ _ (ne_of_gt hpos)]
      ring

theorem getOffsetLevel_eq (hs : InRange s) (he : InRange e) (hp : InRange p)
    (hd : p = s ∨ SMALL_VALUE ≤ |p - s|) : getOffsetLevel s e p (p - s) = transferred s e p := by
  simp only [getOffsetLevel, float_rat, transferred_eq hs he hd]
  exact clamp_inRange (transferred_inRange hs he hp)

/-- The offset level stays in the range, gives the user's level back at its own default and the
default where the user chose it, lies on the user's side of the default, and grows with both. -/
theorem offsetLevel_sane (hs : InRange s) (he : InRange e) (hp : InRange p)
    (hd : p = s ∨ SMALL_VALUE ≤ |p - s|) :
    InRange (getOffsetLevel s e p (p - s)) ∧
      (e = s → getOffsetLevel s e p (p - s) = p) ∧
      (p = s → getOffsetLevel s e p (p - s) = e) ∧
      (s < p → e ≤ getOffsetLevel s e p (p - s)) ∧
      (p < s → getOffsetLevel s e p (p - s) ≤ e) ∧
      (∀ e', InRange e' → e ≤ e' →
        getOffsetLevel s e p (p - s) ≤ getOffsetLevel s e' p (p - s)) ∧
      (∀ p', InRange p' → (p' = s ∨ SMALL_VALUE ≤ |p' - s|) → p ≤ p' →
        getOffsetLevel s e p (p - s) ≤ getOffsetLevel s e p' (p' - s)) := by
  rw [getOffsetLevel_eq hs he hp hd]
  refine ⟨transferred_inRange hs he hp, ?_, ?_, transferred_ge, transferred_le hs he, ?_, ?_⟩
  · rintro rfl
    exact transferred_same e p
  · rintro rfl
    simp [transferred]
  · intro e' he' hee
    rw [getOffsetLevel_eq hs he' hp hd]
    exact transferred_mono_default hs hee
  · intro p' hp' hd' hpp
    rw [getOffsetLevel_eq hs he hp' hd']
    exact transferred_mono_user hs he hpp

/-- The user chose 40 where the default is 100: at a default of 200 it is at most 200. -/
theorem darkened_offset_sane : getOffsetLevel (100 : ℚ) 200 40 (40 - 100) ≤ 200 :=
  (offsetLevel_sane (s := 100) (e := 200) (p := 40) (by decide +kernel) (by decide +kernel)
    (by decide +kernel) (Or.inr (by decide +kernel))).2.2.2.2.1 (by norm_num)

inductive CurveCall where
  | getInterpolatedValue (lux : ℚ)
  | updateBrightnessOffset (posBrightness lux : ℚ)
  deriving DecidableEq, Repr

def ValidLux (lux : ℚ) : Prop := AMBIENT_VALID_MIN_LUX ≤ lux ∧ lux ≤ AMBIENT_VALID_MAX_LUX

instance (lux : ℚ) : Decidable (ValidLux lux) := inferInstanceAs (Decidable (_ ∧ _))

def CurveCall.Valid : CurveCall → Prop
  | .getInterpolatedValue lux => ValidLux lux
  | .updateBrightnessOffset posBrightness lux =>
    (posBrightness = 0 ∨ InRange posBrightness) ∧ ValidLux lux

def call (m : BrightnessCalculationManager) : CurveCall → BrightnessCalculationManager
  | .getInterpolatedValue lux => (m.getInterpolatedValue lux).1
  | .updateBrightnessOffset posBrightness lux => m.updateBrightnessOffset posBrightness lux

def afterCalls (calls : List CurveCall) : BrightnessCalculationManager := calls.foldl call {}

def CurveCall.asked (before : Bool) : CurveCall → Bool
  | .getInterpolatedValue _ => true
  | .updateBrightnessOffset posBrightness _ => if posBrightness = 0 then false else before

/-- Whether a level was asked for since the start or since the offset was last cleared. -/
def askedSinceClear (calls : List CurveCall) : Bool := calls.foldl CurveCall.asked false

theorem builtIn_level_pos {m : BrightnessCalculationManager} (hm : m.curve = {}) {lux : ℚ}
    (hlux : ValidLux lux) : 0 < m.getCurrentBrightness lux := by
  have hfive : (5 : ℚ) ≤ m.getCurrentBrightness lux := by
    rw [getCurrentBrightness, hm]
    exact BrightnessCalculationCurve.level_ge BrightnessCalculationCurve.defaultPoints_ordered
      hlux.1
  linarith

theorem InRange.not_small {level : ℚ} (h : InRange level) : ¬ |level| < SMALL_VALUE := by
  have hfour : 4 ≤ |level| := le_trans h.1 (le_abs_self level)
  rw [not_lt]
  exact le_trans (by norm_num [SMALL_VALUE]) hfour

theorem updateBrightnessOffset_level (m : BrightnessCalculationManager) {level lux : ℚ}
    (hlevel : InRange level) (hlux : ValidLux lux) :
    m.updateBrightnessOffset level lux =
      { m with
        offsetLux := lux
        startLuxDefaultBrightness := m.getCurrentBrightness lux
        posBrightness := level
        delta := level - m.getCurrentBrightness lux } := by
  rw [updateBrightnessOffset, if_neg (by simp [hlux.1, hlux.2]), fabs_rat, float_rat,
    if_neg hlevel.not_small]

theorem updateBrightnessOffset_zero (m : BrightnessCalculationManager) {lux : ℚ}
    (hlux : ValidLux lux) :
    m.updateBrightnessOffset 0 lux = m.resetDefaultBrightnessOffset := by
  rw [updateBrightnessOffset, if_neg (by simp [hlux.1, hlux.2]), if_pos]
  norm_num [SMALL_VALUE]

theorem getInterpolatedBrightenssLevel_fst (m : BrightnessCalculationManager)
    (level lux : ℚ) :
    (m.getInterpolatedBrightenssLevel level lux).1.curve = m.curve ∧
      (m.getInterpolatedBrightenssLevel level lux).1.lastLuxDefaultBrightness =
        m.getCurrentBrightness lux := by
  rw [getInterpolatedBrightenssLevel]
  dsimp only
  split
  · exact ⟨rfl, rfl⟩
  · exact ⟨rfl, rfl⟩

/-- The last default level is positive exactly if a level was asked for since the last clear. -/
structure Tracks (asked : Bool) (m : BrightnessCalculationManager) : Prop where
  builtIn : m.curve = {}
  last : 0 < m.lastLuxDefaultBrightness ↔ asked = true

theorem Tracks.call {asked : Bool} {m : BrightnessCalculationManager} (h : Tracks asked m)
    {c : CurveCall} (hc : c.Valid) : Tracks (c.asked asked) (m.call c) := by
  cases c with
  | getInterpolatedValue lux =>
    obtain ⟨hcurve, hlast⟩ := m.getInterpolatedBrightenssLevel_fst m.posBrightness lux
    refine ⟨hcurve.trans h.builtIn, iff_of_true ?_ rfl⟩
    apply lt_of_lt_of_eq (builtIn_level_pos h.builtIn hc)
    exact hlast.symm
  | updateBrightnessOffset level lux =>
    obtain ⟨rfl | hlevel, hlux⟩ := hc
    · rw [BrightnessCalculationManager.call, updateBrightnessOffset_zero m hlux]
      exact ⟨h.builtIn, iff_of_false (lt_irrefl 0) (by simp [CurveCall.asked])⟩
    · rw [BrightnessCalculationManager.call, updateBrightnessOffset_level m hlevel hlux]
      have hne : level ≠ 0 := by
        rintro rfl
        exact hlevel.not_small (by norm_num [SMALL_VALUE])
      refine ⟨h.builtIn, ?_⟩
      rw [CurveCall.asked, if_neg hne]
      exact h.last

theorem tracks_afterCalls {calls : List CurveCall} (hcalls : ∀ c ∈ calls, c.Valid) :
    Tracks (askedSinceClear calls) (afterCalls calls) := by
  induction calls using List.reverseRecOn with
  | nil => exact ⟨rfl, iff_of_false (lt_irrefl 0) (by decide)⟩
  | append_singleton calls c ih =>
    have hbefore := ih fun d hd => hcalls d (List.mem_append_left _ hd)
    have hstep := hbefore.call (hcalls c (by simp))
    rw [afterCalls, askedSinceClear, List.foldl_append, List.foldl_append]
    exact hstep

/-- At its own light the user's level comes back, or the default level when the offset counts as
older than every light. -/
theorem chosen_level {m : BrightnessCalculationManager} {level lux : ℚ} (hlevel : InRange level)
    (hlux : ValidLux lux) :
    ((m.updateBrightnessOffset level lux).getInterpolatedValue lux).2 =
      (if 0 < m.lastLuxDefaultBrightness then level else m.getCurrentBrightness lux) /
        MAX_DEFAULT_BRIGHTNESS := by
  have hne : level ≠ 0 := by
    rintro rfl
    exact hlevel.not_small (by norm_num [SMALL_VALUE])
  have hgiven : FloatArithmetic.equal level (float 0) = false := by
    rw [FloatArithmetic.equal_rat]
    exact decide_eq_false hne
  rw [updateBrightnessOffset_level m hlevel hlux, getInterpolatedValue,
    getInterpolatedBrightenssLevel]
  dsimp only
  congr 1
  by_cases hlast : 0 < m.lastLuxDefaultBrightness
  · have hkept : (decide (m.lastLuxDefaultBrightness ≤ float 0) &&
        !FloatArithmetic.equal level (float 0)) = false := by
      simp [hlast]
    rw [hkept, if_pos hlast]
    have hmode : isDefaultBrightnessMode level = false := hgiven
    simp only [Bool.false_eq_true, if_false, hmode]
    have hsame : getOffsetLevel (m.getCurrentBrightness lux) (m.getCurrentBrightness lux) level
        (level - m.getCurrentBrightness lux) = level := by
      have hsum (x : ℚ) : x + (level - x) * 1 * 1 = level := by ring
      simp only [getOffsetLevel, lt_irrefl, gt_iff_lt, false_and, if_false, float_rat, hsum]
      exact clamp_inRange hlevel
    exact hsame
  · have hgone : (decide (m.lastLuxDefaultBrightness ≤ float 0) &&
        !FloatArithmetic.equal level (float 0)) = true := by
      rw [hgiven]
      simp [not_lt.mp hlast]
    rw [hgone, if_neg hlast]
    have hmode : isDefaultBrightnessMode (float 0 : ℚ) = true := by
      simp [isDefaultBrightnessMode]
    simp only [if_true, hmode]
    rfl

/-- In every run the level the user chooses comes back at its own light, whatever calls came
before. -/
def AlwaysHonoured : Prop :=
  ∀ calls : List CurveCall, (∀ c ∈ calls, c.Valid) → ∀ level lux, InRange level → ValidLux lux →
    (((afterCalls calls).updateBrightnessOffset level lux).getInterpolatedValue lux).2 =
      level / MAX_DEFAULT_BRIGHTNESS

/-- After a run in which a level was asked for since the last clear the user's level comes back;
otherwise the guard of `GetInterpolatedBrightenssLevel` drops the offset and the level is that of
the curve, which is the user's only by chance. -/
theorem level_honoured_iff {calls : List CurveCall} (hcalls : ∀ c ∈ calls, c.Valid)
    {level lux : ℚ} (hlevel : InRange level) (hlux : ValidLux lux) :
    (askedSinceClear calls = true →
      (((afterCalls calls).updateBrightnessOffset level lux).getInterpolatedValue lux).2 =
        level / MAX_DEFAULT_BRIGHTNESS) ∧
    (askedSinceClear calls = false →
      (((afterCalls calls).updateBrightnessOffset level lux).getInterpolatedValue lux).2 =
        ({} : BrightnessCalculationCurve).getCurrentBrightness lux / MAX_DEFAULT_BRIGHTNESS) ∧
    ((((afterCalls calls).updateBrightnessOffset level lux).getInterpolatedValue lux).2 =
        level / MAX_DEFAULT_BRIGHTNESS ↔
      askedSinceClear calls = true ∨
        ({} : BrightnessCalculationCurve).getCurrentBrightness lux = level) := by
  have htracks := tracks_afterCalls hcalls
  have hdefault : (afterCalls calls).getCurrentBrightness lux =
      ({} : BrightnessCalculationCurve).getCurrentBrightness lux := by
    rw [getCurrentBrightness, htracks.builtIn]
  have hmax : MAX_DEFAULT_BRIGHTNESS ≠ 0 := by norm_num [MAX_DEFAULT_BRIGHTNESS]
  rw [chosen_level hlevel hlux, hdefault]
  cases hasked : askedSinceClear calls with
  | true =>
    rw [if_pos (htracks.last.mpr hasked)]
    simp
  | false =>
    have hlast : ¬ 0 < (afterCalls calls).lastLuxDefaultBrightness := by
      rw [htracks.last, hasked]
      simp
    rw [if_neg hlast, div_left_inj' hmax]
    simp

theorem asked_level_honoured :
    (((afterCalls [.getInterpolatedValue 100]).updateBrightnessOffset 200 30).getInterpolatedValue
      30).2 = 200 / 255 := by
  have hcalls : ∀ c ∈ [CurveCall.getInterpolatedValue 100], c.Valid := by
    intro c hc
    obtain rfl := List.mem_singleton.mp hc
    exact (by decide +kernel : ValidLux 100)
  have hlevel : InRange 200 := by decide +kernel
  have hlux : ValidLux 30 := by decide +kernel
  exact (level_honoured_iff hcalls hlevel hlux).1 rfl

/-- The first choice after the start is dropped at the first light: 100 in darkness becomes the
5 of the curve. -/
theorem first_choice_dropped : ¬ AlwaysHonoured := by
  intro h
  have hvalue := h [] (by simp) 100 0 (by decide +kernel) (by decide +kernel)
  exact absurd hvalue (by decide +kernel)

end BrightnessCalculationManager

end DisplayPowerMgr
