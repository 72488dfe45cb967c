import DisplayPowerMgr.BrightnessRuns
import DisplayPowerMgr.Library.Refinement
import DisplayPowerMgr.LuxRuns

/-! The level that `BrightnessService` chooses for a reading its filter accepts: it is that of the
reading itself, while the filter decided about the smoothed value. -/
namespace DisplayPowerMgr

variable {F : Type} [FloatArithmetic F]

namespace LightLuxManager

variable {m m' : LightLuxManager F} {lux : F} {currentTime : ℤ}

theorem updateParam_spec (h : m.updateParam lux = some m') :
    m'.filteredLux = lux ∧ m'.luxBuffer = m.luxBuffer := by
  obtain ⟨mode, _, hsettled⟩ := Option.bind_eq_some_iff.mp h
  obtain rfl := Option.some.inj hsettled
  dsimp only
  split
  · split
    · exact ⟨rfl, rfl⟩
    · exact ⟨rfl, rfl⟩
  · split
    · exact ⟨rfl, rfl⟩
    · exact ⟨rfl, rfl⟩

theorem isNeedUpdateBrightness_spec {answer : LightLuxManager F × Bool}
    (h : m.isNeedUpdateBrightness lux currentTime = some answer) :
    answer.1.luxBuffer = m.recordLux lux currentTime ∧
      (answer.2 = true → answer.1.filteredLux = m.smoothLux lux currentTime) := by
  by_cases hsmooth : m.smoothLux lux currentTime < float 0
  · rw [isNeedUpdateBrightness_negative hsmooth] at h
    obtain rfl := Option.some.inj h
    exact ⟨rfl, fun haccepted => nomatch haccepted⟩
  · rw [isNeedUpdateBrightness_observe hsmooth] at h
    obtain ⟨nextBrightenTime, _, h⟩ := Option.bind_eq_some_iff.mp h
    obtain ⟨nextDarkenTime, _, h⟩ := Option.bind_eq_some_iff.mp h
    split at h
    · obtain ⟨settled, hsettled, rfl⟩ := Option.map_eq_some_iff.mp h
      obtain ⟨hfiltered, hbuffer⟩ := updateParam_spec hsettled
      exact ⟨hbuffer, fun _ => hfiltered⟩
    · obtain rfl := Option.some.inj h
      exact ⟨rfl, fun haccepted => nomatch haccepted⟩

theorem recordLux_newest_ne_nil (h : m.luxBuffer.WellFormed) (lux : F) (currentTime : ℤ) :
    (m.recordLux lux currentTime).newest ≠ [] := by
  intro hnil
  have hlength := congrArg List.length hnil
  rw [LightLuxBuffer.newest, List.length_reverse, List.length_map,
    LightLuxBuffer.length_entries] at hlength
  exact LightLuxBuffer.record_count_ne_zero h _ _ hlength

end LightLuxManager

namespace BrightnessService

variable {bs t : BrightnessService F} {lux : F} {currentTime : ℤ}

def levelAt (bs : BrightnessService F) (lux : F) : ℕ := (bs.getBrightnessLevel lux).2

/-- The reading is let through to the filter, which answers with a change. -/
def Accepts (bs : BrightnessService F) (lux : F) (currentTime : ℤ) : Prop :=
  bs.canSetBrightness = true ∧
    ∃ m, bs.lightLuxManager.isNeedUpdateBrightness lux currentTime = some (m, true)

instance (bs : BrightnessService F) (lux : F) (currentTime : ℤ) :
    Decidable (bs.Accepts lux currentTime) :=
  decidable_of_iff (bs.canSetBrightness = true ∧
      (bs.lightLuxManager.isNeedUpdateBrightness lux currentTime).map Prod.snd = some true)
    (and_congr_right fun _ => by simp)

theorem storeBrightnessLevel_chosen (bs : BrightnessService F) (brightnessLevel : ℕ)
    (isFastDuration : Bool) :
    (bs.storeBrightnessLevel brightnessLevel isFastDuration).brightnessLevel = brightnessLevel ∧
      (bs.storeBrightnessLevel brightnessLevel isFastDuration).lightLuxManager =
        bs.lightLuxManager := by
  rw [storeBrightnessLevel, cancelWaitFirstLux]
  dsimp only
  split
  · exact ⟨rfl, rfl⟩
  · exact ⟨rfl, rfl⟩

theorem updateCurrentBrightnessLevel_chosen (bs : BrightnessService F) (lux : F)
    (isFastDuration : Bool) :
    (bs.updateCurrentBrightnessLevel lux isFastDuration).brightnessLevel = bs.levelAt lux ∧
      (bs.updateCurrentBrightnessLevel lux isFastDuration).lightLuxManager =
        bs.lightLuxManager := by
  rw [updateCurrentBrightnessLevel]
  dsimp only
  split
  · rw [updateBrightness_sameControl]
    exact storeBrightnessLevel_chosen _ _ _
  · rename_i hsame
    exact ⟨not_ne_iff.mp (not_or.mp hsame).1, rfl⟩

theorem processLightLux_accepted (h : bs.Accepts lux currentTime) :
    ∃ t, bs.processLightLux lux currentTime = some t ∧ t.brightnessLevel = bs.levelAt lux ∧
      t.lightLuxManager.filteredLux = bs.lightLuxManager.smoothLux lux currentTime := by
  obtain ⟨hcan, m, haccepted⟩ := h
  obtain ⟨hlevel, hmanager⟩ := updateCurrentBrightnessLevel_chosen
    { bs with lightLuxManager := m } lux m.isFirstLux
  refine ⟨{ bs with lightLuxManager := m }.updateCurrentBrightnessLevel lux m.isFirstLux, ?_,
    hlevel, ?_⟩
  · rw [processLightLux, hcan, haccepted]
    rfl
  · rw [hmanager]
    exact (LightLuxManager.isNeedUpdateBrightness_spec haccepted).2 rfl

/-- An accepted reading chooses the level of the light that passed the filter. -/
def LevelFollowsFilter (bs : BrightnessService F) : BrightnessEvent F → Prop
  | .processLightLux lux currentTime =>
    bs.Accepts lux currentTime → ∃ t, bs.processLightLux lux currentTime = some t ∧
      t.brightnessLevel = bs.levelAt t.lightLuxManager.filteredLux
  | _ => True

/-- The reading is what the stored readings, newest first, are smoothed to: the newest itself while
there are fewer than five, else the mean of the middle three of the newest five. -/
def IsSmooth (lux : F) (newest : List F) : Prop :=
  (newest.length < LightLuxManager.LIGHT_LUX_BUFFER_MIN → newest.head? = some lux) ∧
    (LightLuxManager.LIGHT_LUX_BUFFER_MIN ≤ newest.length →
      lux = LightLuxManager.meanOfMiddle (newest.headD lux)
        (newest.take LightLuxManager.LIGHT_LUX_BUFFER_MIN))

/-- An accepted reading is not moved by the smoothing. -/
def AcceptsSmooth (bs : BrightnessService F) : BrightnessEvent F → Prop
  | .processLightLux lux currentTime => bs.Accepts lux currentTime →
    IsSmooth lux (bs.lightLuxManager.recordLux lux currentTime).newest
  | _ => True

instance [DecidableEq F] (lux : F) (newest : List F) : Decidable (IsSmooth lux newest) :=
  inferInstanceAs (Decidable ((_ → _) ∧ (_ → _)))

instance [DecidableEq F] (bs : BrightnessService F) : DecidablePred bs.AcceptsSmooth
  | .processLightLux _ _ => inferInstanceAs (Decidable (_ → _))
  | .setDisplayState _ | .setScreenOnBrightness | .setBrightness _ _ _ | .discountBrightness _ _
  | .overrideBrightness _ _ | .restoreBrightness _ | .boostBrightness _ | .cancelBoostBrightness _
  | .setMaxBrightness _ | .setMaxBrightnessNit _ | .autoAdjustBrightness _ | .clearOffset
  | .onFoldStatusChanged _ | .foldDisplayModeChanged _ | .setDisplayId _ | .runTask _ =>
    inferInstanceAs (Decidable True)

theorem IsSmooth.smoothOf_eq {newest : List F} (h : IsSmooth lux newest) :
    smoothOf newest = lux := by
  rcases lt_or_ge newest.length LightLuxManager.LIGHT_LUX_BUFFER_MIN with hshort | hfive
  · obtain ⟨older, rfl⟩ := List.head?_eq_some_iff.mp (h.1 hshort)
    rw [List.length_cons, LightLuxManager.LIGHT_LUX_BUFFER_MIN] at hshort
    exact smoothOf_short (by omega)
  · exact (smoothOf_of_five hfive lux).trans (h.2 hfive).symm

theorem levelFollowsFilter {e : BrightnessEvent F} (h : bs.AcceptsSmooth e) :
    bs.LevelFollowsFilter e := by
  cases e with
  | processLightLux lux currentTime =>
    intro haccepts
    obtain ⟨t, ht, hlevel, hfiltered⟩ := processLightLux_accepted haccepts
    refine ⟨t, ht, ?_⟩
    rw [hlevel, hfiltered, LightLuxManager.smoothLux, (h haccepts).smoothOf_eq]
  | _ => trivial

theorem LevelFollowsFilter.levelAt_eq (h : bs.LevelFollowsFilter (.processLightLux lux currentTime))
    (haccepts : bs.Accepts lux currentTime) :
    bs.levelAt lux = bs.levelAt (bs.lightLuxManager.smoothLux lux currentTime) := by
  obtain ⟨t, ht, hlevel, hfiltered⟩ := processLightLux_accepted haccepts
  obtain ⟨u, hu, hchosen⟩ := h haccepts
  obtain rfl := Option.some.inj (hu.symm.trans ht)
  rw [← hlevel, hchosen, hfiltered]

section Curves
open FloatArithmetic
open BrightnessCalculationManager (MAX_DEFAULT_BRIGHTNESS isDefaultBrightnessMode
  getInterpolatedValue getInterpolatedBrightenssLevel)

variable {bs t : BrightnessService Single} {lux : Single}
  {curve : BrightnessCalculationCurve Single}

/-- The level without an offset of the user. -/
def curveLevel (curve : BrightnessCalculationCurve Single) (lux : Single) : ℕ :=
  (intPart (curve.getCurrentBrightness lux / float MAX_DEFAULT_BRIGHTNESS *
    float MAX_DEFAULT_BRGIHTNESS_LEVEL)).toNat

def edgeAt (v : Single) : BrightnessCalculationCurve Single where
  defaultPoints := [⟨v, float 255⟩]

def edgeAfter (v : Single) : BrightnessCalculationCurve Single where
  defaultPoints := [⟨v, float 5⟩, ⟨.infinite false, float 255⟩]

theorem isEqualF_finite {x : ℚ} (hx : FloatFormat.binary32.HasNumber x) :
    isEqualF (.finite x hx : Single) (.finite x hx) = true := by
  rw [isEqualF, BinaryFloat.finite_sub_finite, sub_self]
  decide +kernel

open BrightnessCalculationCurve in
theorem edgeAt_level {x : ℚ} (hx : FloatFormat.binary32.HasNumber x) (lux : Single) :
    (edgeAt (.finite x hx)).getCurrentBrightness lux =
      if lux < .finite x hx then float 100 else float 255 := by
  rw [edgeAt, getCurrentBrightness, if_neg (by simp), getBrightnessCurveLevel, curveLevelFrom]
  dsimp only
  rw [isEqualF_finite, Bool.or_true, if_pos rfl]
  rfl

theorem edgeAt_apart {x : ℚ} (hx : FloatFormat.binary32.HasNumber x) {a b : Single}
    (ha : a < .finite x hx) (hb : ¬ b < .finite x hx) :
    curveLevel (edgeAt (.finite x hx)) a ≠ curveLevel (edgeAt (.finite x hx)) b := by
  rw [curveLevel, curveLevel, edgeAt_level, edgeAt_level, if_pos ha, if_neg hb]
  decide +kernel

open BrightnessCalculationCurve in
theorem edgeAfter_level {x : ℚ} (hx : FloatFormat.binary32.HasNumber x) :
    (edgeAfter (.finite x hx)).getCurrentBrightness (.finite x hx) = float 5 := by
  have hnot : ¬ (.finite x hx : Single) < .finite x hx := by
    rw [BinaryFloat.finite_lt_finite]
    exact lt_irrefl x
  have hdiff : (.finite x hx - .finite x hx : Single) = float 0 := by
    rw [BinaryFloat.finite_sub_finite, sub_self]
    rfl
  have hbefore : (.finite x hx : Single) < .infinite false := rfl
  have hbelow : ¬ (.infinite false : Single) < .finite x hx := Bool.false_ne_true
  have hfar : (.infinite false - .finite x hx : Single) = .infinite false := rfl
  have hapart : isEqualF (.infinite false : Single) (.finite x hx) = false := by
    rw [isEqualF, hfar]
    decide +kernel
  rw [edgeAfter, getCurrentBrightness, if_neg (by simp), getBrightnessCurveLevel, curveLevelFrom]
  dsimp only
  rw [if_neg hnot, curveLevelFrom]
  dsimp only
  rw [if_pos hbefore, decide_eq_false hbelow, hapart, Bool.or_false, if_neg Bool.false_ne_true,
    hfar, hdiff]
  decide +kernel

open BrightnessCalculationCurve in
theorem edgeAfter_apart {x : ℚ} (hx : FloatFormat.binary32.HasNumber x) {b : Single}
    (hb : ¬ b < .finite x hx) (hbeyond : ¬ b < .infinite false) :
    curveLevel (edgeAfter (.finite x hx)) (.finite x hx) ≠
      curveLevel (edgeAfter (.finite x hx)) b := by
  have hlast : (edgeAfter (.finite x hx)).getCurrentBrightness b = float 255 := by
    rw [edgeAfter, getCurrentBrightness, if_neg (by simp), getBrightnessCurveLevel,
      curveLevelFrom]
    dsimp only
    rw [if_neg hb, curveLevelFrom]
    dsimp only
    rw [if_neg hbeyond]
    rfl
  rw [curveLevel, curveLevel, edgeAfter_level, hlast]
  decide +kernel

/-- Some curve tells a number from any other value. -/
theorem exists_curve_apart {x : ℚ} (hx : FloatFormat.binary32.HasNumber x) {v : Single}
    (hne : .finite x hx ≠ v) :
    ∃ curve, curveLevel curve (.finite x hx) ≠ curveLevel curve v := by
  cases v with
  | nan => exact ⟨_, edgeAfter_apart hx Bool.false_ne_true Bool.false_ne_true⟩
  | infinite negative =>
    cases negative with
    | false => exact ⟨_, edgeAfter_apart hx Bool.false_ne_true Bool.false_ne_true⟩
    | true =>
      have hnot : ¬ (.finite x hx : Single) < .finite x hx := by
        rw [BinaryFloat.finite_lt_finite]
        exact lt_irrefl x
      exact ⟨_, (edgeAt_apart hx (rfl : BinaryFloat.lt _ _ = true) hnot).symm⟩
  | finite y hy =>
    have hxy : x ≠ y := by
      rintro rfl
      exact hne rfl
    rcases lt_or_gt_of_ne hxy with hlt | hgt
    · refine ⟨_, edgeAt_apart hy (BinaryFloat.finite_lt_finite.mpr hlt) ?_⟩
      rw [BinaryFloat.finite_lt_finite]
      exact lt_irrefl y
    · refine ⟨_, (edgeAt_apart hx (BinaryFloat.finite_lt_finite.mpr hgt) ?_).symm⟩
      rw [BinaryFloat.finite_lt_finite]
      exact lt_irrefl x

/-- No offset was put on the curve. -/
structure FollowsCurve (curve : BrightnessCalculationCurve Single)
    (bs : BrightnessService Single) : Prop where
  curve_eq : bs.calculationManager.curve = curve
  posBrightness : bs.calculationManager.posBrightness = float 0

theorem FollowsCurve.interpolated (h : FollowsCurve curve bs) (lux : Single) :
    bs.calculationManager.getInterpolatedValue lux =
      ({ bs.calculationManager with
          curveLux := lux
          defaultBrightnessFromLux := curve.getCurrentBrightness lux
          lastLuxDefaultBrightness := curve.getCurrentBrightness lux
          offsetBrightnessLast := curve.getCurrentBrightness lux },
        curve.getCurrentBrightness lux / float MAX_DEFAULT_BRIGHTNESS) := by
  have hzero : FloatArithmetic.equal (float 0 : Single) (float 0) = true := by decide +kernel
  have hdefault : isDefaultBrightnessMode (float 0 : Single) = true := hzero
  have hsame : bs.calculationManager.getCurrentBrightness lux = curve.getCurrentBrightness lux :=
    congrArg (fun c => BrightnessCalculationCurve.getCurrentBrightness c lux) h.curve_eq
  rw [getInterpolatedValue, getInterpolatedBrightenssLevel]
  simp only [h.posBrightness, hzero, Bool.not_true, Bool.and_false, Bool.false_eq_true, if_false,
    hdefault, if_true, hsame]

theorem FollowsCurve.levelAt_eq (h : FollowsCurve curve bs) (lux : Single) :
    bs.levelAt lux = curveLevel curve lux := by
  rw [levelAt, getBrightnessLevel, h.interpolated]
  rfl

theorem updateCurrentBrightnessLevel_keeps (bs : BrightnessService Single) (lux : Single)
    (isFastDuration : Bool) :
    (bs.updateCurrentBrightnessLevel lux isFastDuration).canSetBrightness = bs.canSetBrightness ∧
      (bs.updateCurrentBrightnessLevel lux isFastDuration).calculationManager =
        (bs.calculationManager.getInterpolatedValue lux).1 := by
  rw [updateCurrentBrightnessLevel]
  dsimp only
  split
  · rw [updateBrightness_sameControl, storeBrightnessLevel, cancelWaitFirstLux]
    dsimp only
    split
    · exact ⟨rfl, rfl⟩
    · exact ⟨rfl, rfl⟩
  · exact ⟨rfl, rfl⟩

/-- The filter, and whether light reports reach it. -/
def filterView (bs : BrightnessService Single) : LightLuxManager Single × Bool :=
  (bs.lightLuxManager, bs.canSetBrightness)

def filterStep (v : LightLuxManager Single × Bool) (reading : Single × ℤ) :
    Option (LightLuxManager Single × Bool) :=
  if v.2 then (v.1.isNeedUpdateBrightness reading.1 reading.2).map fun answer => (answer.1, true)
  else some v

def lightReport (reading : Single × ℤ) : BrightnessEvent Single :=
  .processLightLux reading.1 reading.2

theorem step_filterView (bs : BrightnessService Single) (reading : Single × ℤ) :
    (bs.step (lightReport reading)).map filterView = filterStep bs.filterView reading := by
  change (bs.processLightLux reading.1 reading.2).map filterView = _
  rw [processLightLux, filterStep, filterView]
  cases hcan : bs.canSetBrightness with
  | false => exact congrArg (fun can => some (bs.lightLuxManager, can)) hcan
  | true =>
    cases bs.lightLuxManager.isNeedUpdateBrightness reading.1 reading.2 with
    | none => rfl
    | some answer =>
      obtain ⟨m, isNeed⟩ := answer
      have hsame : canSetBrightness { bs with lightLuxManager := m } = true := hcan
      cases isNeed with
      | false => exact congrArg (fun can => some (m, can)) hsame
      | true =>
        have hchosen := updateCurrentBrightnessLevel_chosen { bs with lightLuxManager := m }
          reading.1 m.isFirstLux
        have hkeeps := updateCurrentBrightnessLevel_keeps { bs with lightLuxManager := m }
          reading.1 m.isFirstLux
        exact congrArg some (Prod.ext hchosen.2 (hkeeps.1.trans hsame))

theorem FollowsCurve.step (h : FollowsCurve curve bs) {reading : Single × ℤ}
    (ht : bs.step (lightReport reading) = some t) : FollowsCurve curve t := by
  change bs.processLightLux reading.1 reading.2 = some t at ht
  rw [processLightLux] at ht
  split at ht
  · obtain rfl := Option.some.inj ht
    exact h
  · obtain ⟨⟨m, isNeed⟩, _, hrest⟩ := Option.bind_eq_some_iff.mp ht
    obtain rfl := Option.some.inj hrest
    cases isNeed with
    | false => exact ⟨h.curve_eq, h.posBrightness⟩
    | true =>
      have hm : FollowsCurve curve { bs with lightLuxManager := m } :=
        ⟨h.curve_eq, h.posBrightness⟩
      have hkeeps := (updateCurrentBrightnessLevel_keeps { bs with lightLuxManager := m }
        reading.1 m.isFirstLux).2
      rw [hm.interpolated] at hkeeps
      constructor
      · rw [if_pos rfl, hkeeps]
        exact h.curve_eq
      · rw [if_pos rfl, hkeeps]
        exact h.posBrightness

/-- The filter accepts the reading. -/
def FilterAccepts (v : LightLuxManager Single × Bool) (reading : Single × ℤ) : Prop :=
  v.2 = true ∧ ∃ m, v.1.isNeedUpdateBrightness reading.1 reading.2 = some (m, true)

def SameLevelOn (curve : BrightnessCalculationCurve Single) (v : LightLuxManager Single × Bool)
    (reading : Single × ℤ) : Prop :=
  FilterAccepts v reading →
    curveLevel curve reading.1 = curveLevel curve (v.1.smoothLux reading.1 reading.2)

def SmoothIn (v : LightLuxManager Single × Bool) (reading : Single × ℤ) : Prop :=
  FilterAccepts v reading → IsSmooth reading.1 (v.1.recordLux reading.1 reading.2).newest

theorem FollowsCurve.levelFollowsFilter_iff (h : FollowsCurve curve bs) (reading : Single × ℤ) :
    bs.LevelFollowsFilter (lightReport reading) ↔ SameLevelOn curve bs.filterView reading := by
  constructor
  · intro hfollows haccepts
    have hlevel := LevelFollowsFilter.levelAt_eq hfollows haccepts
    rw [h.levelAt_eq, h.levelAt_eq] at hlevel
    exact hlevel
  · intro hlevel haccepts
    obtain ⟨t, ht, hchosen, hfiltered⟩ := processLightLux_accepted haccepts
    refine ⟨t, ht, ?_⟩
    rw [hchosen, hfiltered, h.levelAt_eq, h.levelAt_eq]
    exact hlevel haccepts

theorem isSmooth_of_smoothOf {newest : List Single} (hne : newest ≠ [])
    (h : smoothOf newest = lux) : IsSmooth lux newest := by
  obtain ⟨a, older, rfl⟩ := List.exists_cons_of_ne_nil hne
  constructor
  · intro hshort
    rw [List.length_cons, LightLuxManager.LIGHT_LUX_BUFFER_MIN] at hshort
    rw [smoothOf_short (by omega)] at h
    exact congrArg some h
  · intro hfive
    exact h.symm.trans (smoothOf_of_five hfive lux)

theorem filterStep_wellFormed {v u : LightLuxManager Single × Bool} {reading : Single × ℤ}
    (h : v.1.luxBuffer.WellFormed) (hu : filterStep v reading = some u) :
    u.1.luxBuffer.WellFormed := by
  rw [filterStep] at hu
  split at hu
  · obtain ⟨answer, hanswer, rfl⟩ := Option.map_eq_some_iff.mp hu
    dsimp only
    rw [(LightLuxManager.isNeedUpdateBrightness_spec hanswer).1]
    exact (LightLuxBuffer.record_entries h _ _).1
  · obtain rfl := Option.some.inj hu
    exact h

/-- A reading that is a number is smooth exactly if every curve gives it the level of its smoothed
value. -/
theorem smooth_iff_every_curve {v : LightLuxManager Single × Bool} {reading : Single × ℤ}
    (h : v.1.luxBuffer.WellFormed) (hnumber : reading.1.toRat.isSome) :
    (∀ curve, SameLevelOn curve v reading) ↔ SmoothIn v reading := by
  constructor
  · intro hevery haccepts
    apply isSmooth_of_smoothOf (LightLuxManager.recordLux_newest_ne_nil h _ _)
    by_contra hmoved
    obtain ⟨x, hx⟩ := Option.isSome_iff_exists.mp hnumber
    obtain ⟨hfinite, heq⟩ := BinaryFloat.toRat_eq_some.mp hx
    obtain ⟨curve, hapart⟩ := exists_curve_apart hfinite
      (fun hsame => hmoved ((hsame.symm.trans heq.symm)))
    rw [← heq] at hapart
    exact hapart (hevery curve haccepts)
  · intro hsmooth curve haccepts
    rw [LightLuxManager.smoothLux, (hsmooth haccepts).smoothOf_eq]

theorem followed_on_every_curve_iff (boot : BrightnessBoot Single)
    {readings : List (Single × ℤ)} (hnumbers : ∀ r ∈ readings, r.1.toRat.isSome) :
    (∀ curve, Runs.Always step LevelFollowsFilter
        (BrightnessBoot.start { boot with curve := curve }) (readings.map lightReport)) ↔
      Runs.Always step AcceptsSmooth boot.start (readings.map lightReport) := by
  have hwell : boot.start.filterView.1.luxBuffer.WellFormed :=
    (LightLuxManager.formed_initial boot.modeArray).wellFormed
  -- neither the filter nor who reaches it depends on the curve
  have hfollows (curve : BrightnessCalculationCurve Single) :
      Runs.Always step LevelFollowsFilter (BrightnessBoot.start { boot with curve := curve })
          (readings.map lightReport) ↔
        Runs.Always filterStep (SameLevelOn curve) boot.start.filterView readings :=
    Runs.always_view (J := FollowsCurve curve) (fun _ _ _ h ht => h.step ht)
      (fun s r _ => step_filterView s r) (fun _ r h => h.levelFollowsFilter_iff r)
      ⟨rfl, rfl⟩ readings
  have hsmooth : Runs.Always step AcceptsSmooth boot.start (readings.map lightReport) ↔
      Runs.Always filterStep SmoothIn boot.start.filterView readings :=
    Runs.always_view (J := fun _ => True) (fun _ _ _ _ _ => trivial)
      (fun s r _ => step_filterView s r) (fun _ _ _ => Iff.rfl) trivial readings
  have hevery : Runs.Always filterStep (fun v r => ∀ curve, SameLevelOn curve v r)
        boot.start.filterView readings ↔
      Runs.Always filterStep SmoothIn boot.start.filterView readings :=
    Runs.always_congr (J := fun v => v.1.luxBuffer.WellFormed) (P := fun r => r.1.toRat.isSome)
      (fun _ _ _ h _ hu => filterStep_wellFormed h hu)
      (fun _ _ h hnumber => smooth_iff_every_curve h hnumber) hwell hnumbers
  exact (forall_congr' hfollows).trans (Runs.always_forall.trans (hevery.trans hsmooth.symm))

end Curves

/-- In every run in which no accepted reading is moved by the smoothing, the level follows the
filtered light. After a boot, and for light reports that are numbers, no less will do: then the
level follows it whatever the curve is. -/
theorem level_follows_filter (bs : BrightnessService Single)
    (events : List (BrightnessEvent Single)) :
    (Runs.Always step AcceptsSmooth bs events → Runs.Always step LevelFollowsFilter bs events) ∧
      ∀ (boot : BrightnessBoot Single) (readings : List (Single × ℤ)), bs = boot.start →
        events = readings.map lightReport → (∀ r ∈ readings, r.1.toRat.isSome) →
        ((∀ curve, Runs.Always step LevelFollowsFilter
            (BrightnessBoot.start { boot with curve := curve }) events) ↔
          Runs.Always step AcceptsSmooth bs events) := by
  constructor
  · intro hsmooth
    exact hsmooth.mono fun _ _ => levelFollowsFilter
  · rintro boot readings rfl rfl hnumbers
    exact followed_on_every_curve_iff boot hnumbers

def risingLight : List (Single × ℤ) :=
  [(float 100, 0), (float 500, 1), (float 500, 2), (float 500, 3), (float 500, 4)]

theorem level_follows_filter_rising :
    Runs.Always step LevelFollowsFilter (BrightnessBoot.start { state := .on })
        (.setBrightness 100 0 false ::
          (risingLight ++ [(float 500, 1300)]).map lightReport) ∧
      ∀ curve, Runs.Always step LevelFollowsFilter
        (BrightnessBoot.start { state := .on, curve := curve })
        ((risingLight ++ [(float 500, 1300)]).map lightReport) := by
  constructor
  · apply (level_follows_filter _ _).1
    decide +kernel
  · apply ((level_follows_filter _ _).2 { state := .on } _ rfl rfl ?_).mpr
    · decide +kernel
    · decide +kernel

/-- A flash of 7000 lux comes with the reading that ends the debounce: 500 lux pass the filter, and
the display goes to its maximum. -/
theorem flash_chooses_level :
    ¬ Runs.Always step LevelFollowsFilter (BrightnessBoot.start { state := .on })
      ((risingLight ++ [(float 7000, 1300)]).map lightReport) := by
  intro hfollows
  have hrun : ((Runs.run step (BrightnessBoot.start { state := .on })
      (risingLight.map lightReport)).bind fun s =>
        (s.lightLuxManager.isNeedUpdateBrightness (float 7000) 1300).map fun answer =>
          (s.canSetBrightness, answer.2, s.levelAt (float 7000), s.levelAt answer.1.filteredLux)) =
      some (true, true, 255, 58) := by decide +kernel
  obtain ⟨s, hs, hanswer⟩ := Option.bind_eq_some_iff.mp hrun
  obtain ⟨⟨m, isNeed⟩, haccepted, heq⟩ := Option.map_eq_some_iff.mp hanswer
  obtain ⟨hcan, heq⟩ := Prod.mk.inj heq
  obtain ⟨rfl, heq⟩ := Prod.mk.inj heq
  obtain ⟨hraw, hfiltered⟩ := Prod.mk.inj heq
  have haccepts : s.Accepts (float 7000) 1300 := ⟨hcan, m, haccepted⟩
  rw [List.map_append] at hfollows
  have hsame := ((Runs.always_append.mp hfollows).2 s hs).1.levelAt_eq haccepts
  rw [← (LightLuxManager.isNeedUpdateBrightness_spec haccepted).2 rfl, hraw, hfiltered] at hsame
  cases hsame

end BrightnessService

end DisplayPowerMgr
