import DisplayPowerMgr.LuxThresholdConfig

/-! How near the thresholds of the hysteresis may come to the filtered light: `CalcDelta` bounds
what it answers before a point of the curve, but not what it answers behind all of them. -/
namespace DisplayPowerMgr

open BinaryFloat (Within)

namespace LightLuxManager

variable {m : LightLuxManager Single} {mode : LuxThresholdMode Single}
variable {points : List (PointXy Single)} {lux old : Single}

theorem deltaFrom_ahead (h : ∃ p ∈ points, lux < p.x) (temp : PointXy Single) (delta : Single) :
    ¬ deltaFrom lux temp delta points < float 1 := by
  induction points generalizing temp delta with
  | nil =>
    obtain ⟨p, hp, _⟩ := h
    cases hp
  | cons it points ih =>
    rw [deltaFrom]
    by_cases hahead : lux < it.x
    · have hone : ¬ (float 1 : Single) < float 1 := by decide +kernel
      rw [if_pos hahead]
      split
      · exact hone
      · dsimp only
        split
        · exact hone
        · assumption
    · rw [if_neg hahead]
      apply ih
      obtain ⟨p, hp, hlt⟩ := h
      rcases List.mem_cons.mp hp with rfl | hp
      · exact absurd hlt hahead
      · exact ⟨p, hp, hlt⟩

/-- With no point ahead, the loop carries the height of the last point. -/
theorem deltaFrom_behind (h : ∀ p ∈ points, ¬ lux < p.x) (temp : PointXy Single) (delta : Single) :
    deltaFrom lux temp delta points = (points.getLast?.map PointXy.y).getD delta := by
  induction points generalizing temp delta with
  | nil => rfl
  | cons it points ih =>
    rw [deltaFrom, if_neg (h it (by simp)), ih (fun p hp => h p (by simp [hp])),
      List.getLast?_cons]
    cases points.getLast? with
    | none => rfl
    | some last => rfl

/-- A curve that ends lower than 1. A last point below 0 makes an invalid delta. -/
def LowEnd (points : List (PointXy Single)) : Prop :=
  ∃ last ∈ points.getLast?, float 0 ≤ last.y ∧ last.y < float 1

instance (points : List (PointXy Single)) : Decidable (LowEnd points) :=
  inferInstanceAs (Decidable (∃ last ∈ points.getLast?, _))

/-- The light is before no point of such a curve. -/
def PastLowEnd (points : List (PointXy Single)) (lux : Single) : Prop :=
  (∀ p ∈ points, ¬ lux < p.x) ∧ LowEnd points

theorem one_le_of_kept {delta : Single} (hone : ¬ delta < float 1) (hkept : delta ≥ float 0) :
    float 1 ≤ delta := by
  have hnumber : (float 1 : Single) ≠ .nan := by decide +kernel
  rcases BinaryFloat.not_lt_iff.mp hone with hnan | hnan | hle
  · exact absurd hnan (BinaryFloat.le_ne_nan hkept).2
  · exact absurd hnan hnumber
  · exact hle

/-- The one way in which a threshold gets nearer than 1. -/
theorem one_le_keptDelta_iff (hold : float 1 ≤ old) (m : LightLuxManager Single)
    (points : List (PointXy Single)) :
    float 1 ≤ keptDelta old (m.calcDelta points) ↔ ¬ PastLowEnd points m.filteredLux := by
  have hinvalid : ¬ (float INVALID_VALUE : Single) ≥ float 0 := by decide +kernel
  cases points with
  | nil => simp [calcDelta, keptDelta, hinvalid, hold, PastLowEnd, LowEnd]
  | cons point points =>
    rw [calcDelta, keptDelta]
    by_cases hahead : ∃ p ∈ point :: points, m.filteredLux < p.x
    · have hone := deltaFrom_ahead hahead point (float 0)
      apply iff_of_true
      · split
        · exact one_le_of_kept hone ‹_›
        · exact hold
      · rintro ⟨hbehind, _⟩
        obtain ⟨p, hp, hlt⟩ := hahead
        exact hbehind p hp hlt
    · push Not at hahead
      obtain ⟨last, hlast⟩ : ∃ last, (point :: points).getLast? = some last :=
        ⟨_, List.getLast?_cons⟩
      have hdelta : deltaFrom m.filteredLux point (float 0) (point :: points) = last.y := by
        rw [deltaFrom_behind hahead, hlast]
        rfl
      have hlow : PastLowEnd (point :: points) m.filteredLux ↔
          float 0 ≤ last.y ∧ last.y < float 1 := by
        rw [PastLowEnd, and_iff_right hahead, LowEnd, hlast]
        simp
      rw [hdelta, hlow]
      split
      · rename_i hkept
        constructor
        · rintro hone ⟨_, hlt⟩
          exact BinaryFloat.not_lt_iff.mpr (.inr (.inr hone)) hlt
        · intro hnot
          exact one_le_of_kept (fun hlt => hnot ⟨hkept, hlt⟩) hkept
      · rename_i hinvalid
        exact iff_of_true hold fun hlow => hinvalid hlow.1

/-! ## The range of the values

The clamp of `GetValidLux` lets NaN through, but no infinity; and the mean of five such values is
no infinity either. -/

instance (lo hi : ℚ) (lux : Single) : Decidable (Within lo hi lux) :=
  inferInstanceAs (Decidable (_ ∨ ∃ x ∈ lux.toRat, _))

theorem hasNumber_intCast {n : ℤ} (h : |n| ≤ 2 ^ 24) : FloatFormat.binary32.HasNumber n := by
  refine ⟨FloatFormat.representable_intCast h (by decide), ?_⟩
  have hcast : |(n : ℚ)| ≤ ((2 ^ 24 : ℤ) : ℚ) := by exact_mod_cast h
  exact lt_of_le_of_lt hcast (by decide +kernel)

theorem getValidLux_within (lux : Single) : Within 0 40000 (getValidLux lux) := by
  have hends : Within 0 40000 (float 0 : Single) ∧ Within 0 40000 (float LIGHT_MAX_LUX : Single) ∧
      Within 0 40000 (getValidLux (.nan : Single)) ∧
      ∀ negative, Within 0 40000 (getValidLux (.infinite negative : Single)) := by
    decide +kernel
  obtain ⟨hzero, hmax, hnan, hinfinite⟩ := hends
  cases lux with
  | nan => exact hnan
  | infinite negative => exact hinfinite negative
  | finite x hx =>
    have hzero_eq : (float 0 : Single) = .finite 0 _ :=
      BinaryFloat.ofRat_of_hasNumber (FloatFormat.hasNumber_zero _)
    have hmax_eq : (float LIGHT_MAX_LUX : Single) = .finite 40000 _ :=
      BinaryFloat.ofRat_of_hasNumber (hasNumber_intCast (n := 40000) (by decide))
    rw [getValidLux]
    by_cases hover : (.finite x hx : Single) > float LIGHT_MAX_LUX
    · simp only [if_pos hover]
      split
      · exact hzero
      · exact hmax
    · simp only [if_neg hover]
      split
      · exact hzero
      · rename_i hunder
        rw [hzero_eq, BinaryFloat.finite_lt_finite, not_lt] at hunder
        rw [hmax_eq, gt_iff_lt, BinaryFloat.finite_lt_finite, not_lt] at hover
        exact .inr ⟨x, rfl, hunder, hover⟩

def MeanWithin (lux : Single) : Prop := Within (-80000) 200000 lux

theorem foldl_choice {P : Single → Prop} {choose : Single → Single → Single}
    (hchoose : ∀ a b, choose a b = a ∨ choose a b = b) {last : Single} {readings : List Single}
    (hlast : P last) (h : ∀ v ∈ readings, P v) : P (readings.foldl choose last) := by
  induction readings generalizing last with
  | nil => exact hlast
  | cons v readings ih =>
    refine ih ?_ fun w hw => h w (by simp [hw])
    rcases hchoose last v with heq | heq
    · exact heq.symm ▸ hlast
    · exact heq.symm ▸ h v (by simp)

theorem sum_within {readings : List Single} (h : ∀ v ∈ readings, Within 0 40000 v) {sum : Single}
    {n : ℕ} (hsum : Within 0 (40000 * n) sum) (hfew : n + readings.length ≤ 5) :
    Within 0 200000 (readings.foldl (fun sum lux => sum + lux) sum) := by
  induction readings generalizing sum n with
  | nil =>
    refine hsum.imp id ?_
    rintro ⟨x, hx, hnonneg, hle⟩
    have hn : (n : ℚ) ≤ 5 := by exact_mod_cast hfew
    exact ⟨x, hx, hnonneg, by linarith⟩
  | cons v readings ih =>
    rw [List.length_cons] at hfew
    have hnumber := @hasNumber_intCast (40000 * (n + 1)) (by rw [abs_of_nonneg] <;> omega)
    have hadd := hsum.add (h v (by simp)) (FloatFormat.hasNumber_zero _) hnumber (by simp)
      (by push_cast; linarith)
    refine ih (n := n + 1) (fun w hw => h w (by simp [hw])) ?_ (by omega)
    push_cast at hadd ⊢
    exact hadd

theorem meanOfMiddle_within {a b c d e : Single} (h : ∀ v ∈ [a, b, c, d, e], Within 0 40000 v) :
    MeanWithin (meanOfMiddle a [a, b, c, d, e]) := by
  have hmin : Within 0 40000 ([a, b, c, d, e].foldl
      (fun luxMin lux => if luxMin > lux then lux else luxMin) a) :=
    foldl_choice (fun _ _ => by split <;> simp) (h a (by simp)) h
  have hmax : Within 0 40000 ([a, b, c, d, e].foldl
      (fun luxMax lux => if luxMax < lux then lux else luxMax) a) :=
    foldl_choice (fun _ _ => by split <;> simp) (h a (by simp)) h
  have hzero : Within 0 (40000 * (0 : ℕ)) (float 0 : Single) := by
    rw [Nat.cast_zero, mul_zero]
    decide +kernel
  have hlow := @hasNumber_intCast (-40000) (by decide)
  have hlower := @hasNumber_intCast (-80000) (by decide)
  have hhigh := @hasNumber_intCast 200000 (by decide)
  have hsum := sum_within h hzero (by simp)
  have hrest := (hsum.sub hmin hlow hhigh (by norm_num) (by norm_num)).sub hmax hlower hhigh
    (by norm_num) (by norm_num)
  have hthree : (float 3 : Single) = .finite 3 (hasNumber_intCast (n := 3) (by decide)) :=
    BinaryFloat.ofRat_of_hasNumber _
  rw [meanOfMiddle, hthree]
  push_cast at hrest hlower hhigh
  exact hrest.div hlower hhigh (by norm_num) (by norm_num) (by norm_num)

theorem smoothOf_within {values : List Single} (hne : values ≠ [])
    (h : ∀ v ∈ values, Within 0 40000 v) : MeanWithin (smoothOf values) := by
  have hweaken {v : Single} (hv : Within 0 40000 v) : MeanWithin v := by
    refine hv.imp id ?_
    rintro ⟨x, hx, hnonneg, hle⟩
    exact ⟨x, hx, by linarith, by linarith⟩
  rcases values with _ | ⟨a, _ | ⟨b, _ | ⟨c, _ | ⟨d, _ | ⟨e, rest⟩⟩⟩⟩⟩
  · exact absurd rfl hne
  iterate 4 exact hweaken (h a (by simp))
  · apply meanOfMiddle_within
    intro v hv
    exact h v (by simp only [List.mem_cons] at *; tauto)

structure Ranged (m : LightLuxManager Single) : Prop extends m.Formed where
  newest : ∀ v ∈ m.luxBuffer.newest, Within 0 40000 v
  filteredLux : MeanWithin m.filteredLux

theorem Ranged.smoothLux (h : m.Ranged) (lux : Single) (currentTime : ℤ) :
    MeanWithin (m.smoothLux lux currentTime) := by
  obtain ⟨hne, hall⟩ := h.toFormed.recordLux_forall h.newest (getValidLux_within lux) currentTime
  exact smoothOf_within hne hall

variable {currentTime : ℤ}

/-- Both thresholds are 1 or more, and a sample that is equal to the filtered light counts as beyond
neither. NaN is equal to nothing. -/
def ThresholdsApart (m : LightLuxManager Single) : Prop :=
  float 1 ≤ m.brightenDelta ∧ float 1 ≤ m.darkenDelta ∧
    ∀ v, FloatArithmetic.equal v m.filteredLux = true →
      m.isBrighter v = false ∧ m.isDarker v = false

theorem thresholdsApart_iff (hfiltered : MeanWithin m.filteredLux) :
    m.ThresholdsApart ↔ float 1 ≤ m.brightenDelta ∧ float 1 ≤ m.darkenDelta := by
  constructor
  · rintro ⟨hbrighten, hdarken, _⟩
    exact ⟨hbrighten, hdarken⟩
  · rintro ⟨hbrighten, hdarken⟩
    refine ⟨hbrighten, hdarken, fun v hequal => ?_⟩
    obtain ⟨hle, hge⟩ := Bool.and_eq_true_iff.mp hequal
    have hle := of_decide_eq_true hle
    have hge := of_decide_eq_true hge
    obtain ⟨x, hx, _⟩ := hfiltered.resolve_left (BinaryFloat.le_ne_nan hle).2
    obtain ⟨hnumber, hfinite⟩ := BinaryFloat.toRat_eq_some.mp hx
    rw [hfinite] at hle hge
    obtain rfl := BinaryFloat.le_antisymm_finite hle hge
    have hsame (delta : Single) (hone : float 1 ≤ delta) :
        (.finite x hnumber - .finite x hnumber : Single) < delta := by
      rw [BinaryFloat.finite_sub_finite, sub_self]
      exact BinaryFloat.lt_of_lt_of_le (by decide +kernel : (float 0 : Single) < float 1) hone
    constructor
    · rw [isBrighter, hfinite]
      exact decide_eq_false (not_not.mpr (hsame _ hbrighten))
    · rw [isDarker, hfinite]
      exact decide_eq_false (not_not.mpr (hsame _ hdarken))

def Collapses (m : LightLuxManager Single) (mode : LuxThresholdMode Single) (lux : Single)
    (currentTime : ℤ) : Prop :=
  ¬ m.smoothLux lux currentTime < float 0 ∧
    (m.observe lux currentTime).decides mode currentTime = true ∧
      (PastLowEnd mode.brightenPoints (m.smoothLux lux currentTime) ∨
        PastLowEnd mode.darkenPoints (m.smoothLux lux currentTime))

theorem reading_apart (h : m.Ranged) (hmode : m.getCurrentModeData = some mode)
    (hapart : m.ThresholdsApart) (lux : Single) (currentTime : ℤ) :
    ∃ answer, m.isNeedUpdateBrightness lux currentTime = some answer ∧ answer.1.Ranged ∧
      answer.1.getCurrentModeData = some mode ∧
      (answer.1.ThresholdsApart ↔ ¬ m.Collapses mode lux currentTime) := by
  have hnewest := (h.toFormed.recordLux_forall h.newest (getValidLux_within lux) currentTime).2
  have hsmooth := h.smoothLux lux currentTime
  obtain ⟨hbrighten, hdarken, hequal⟩ := hapart
  by_cases hnegative : m.smoothLux lux currentTime < float 0
  · refine ⟨_, isNeedUpdateBrightness_negative hnegative,
      ⟨formed_ignore h.toFormed lux currentTime, hnewest, h.filteredLux⟩, hmode, ?_⟩
    exact iff_of_true ⟨hbrighten, hdarken, hequal⟩ fun hcollapses => hcollapses.1 hnegative
  · have hobserved := formed_observe h.toFormed lux currentTime
    rw [isNeedUpdateBrightness_eq h.toFormed hnegative hmode, Collapses, and_iff_right hnegative]
    cases hdecides : (m.observe lux currentTime).decides mode currentTime with
    | false =>
      refine ⟨_, rfl, ⟨hobserved, hnewest, h.filteredLux⟩, hmode, ?_⟩
      exact iff_of_true ⟨hbrighten, hdarken, hequal⟩ (by simp)
    | true =>
      have hcurrent : (m.observe lux currentTime).getCurrentModeData = some mode := hmode
      rw [if_pos rfl, updateParam_eq hcurrent]
      refine ⟨_, rfl, ⟨⟨hobserved.wellFormed, hobserved.filterWellFormed, hobserved.scene⟩, hnewest,
        hsmooth⟩, hmode, ?_⟩
      rw [thresholdsApart_iff hsmooth]
      -- the light that `CalcDelta` sees is the smoothed one, which was stored before
      have hkept (points : List (PointXy Single)) (old : Single) (hold : float 1 ≤ old) :=
        one_le_keptDelta_iff hold
          { m.observe lux currentTime with filteredLux := m.smoothLux lux currentTime } points
      have hboth := and_congr (hkept mode.brightenPoints _ hbrighten)
        (hkept mode.darkenPoints _ hdarken)
      refine hboth.trans ?_
      simp

end LightLuxManager

namespace LuxTrace

open LightLuxManager LuxThresholdConfigParser

variable {s t : LuxTrace Single} {mode : LuxThresholdMode Single}
variable {modeArray : List (String × LuxThresholdMode Single)}
variable {cJsonParse : String → Option CJson} {fileContent : String}

def StaysApart (s : LuxTrace Single) (call : LuxCall Single) : Prop :=
  ∀ t, s.step call = some t → t.manager.ThresholdsApart

def Collapses (mode : LuxThresholdMode Single) (s : LuxTrace Single) : LuxCall Single → Prop
  | .isNeedUpdateBrightness lux currentTime | .setLux lux currentTime =>
    s.manager.Collapses mode lux currentTime
  | .clearLuxData => False

structure Ranged (mode : LuxThresholdMode Single) (s : LuxTrace Single) : Prop where
  manager : s.manager.Ranged
  mode : s.manager.getCurrentModeData = some mode

theorem reading_staysApart (h : s.Ranged mode) (hapart : s.manager.ThresholdsApart) (lux : Single)
    (currentTime : ℤ) : ∃ t, s.step (.isNeedUpdateBrightness lux currentTime) = some t ∧
      t.Ranged mode ∧ (s.StaysApart (.isNeedUpdateBrightness lux currentTime) ↔
        ¬ s.manager.Collapses mode lux currentTime) := by
  obtain ⟨answer, hanswer, hranged, hmode, hiff⟩ := reading_apart h.manager h.mode hapart lux
    currentTime
  have hstep : s.step (.isNeedUpdateBrightness lux currentTime) =
      some (s.remember lux currentTime answer.1) := by
    rw [step, hanswer]
    rfl
  exact ⟨_, hstep, ⟨hranged, hmode⟩, (Runs.forall_step_iff hstep).trans hiff⟩

theorem call_staysApart (h : s.Ranged mode) (hapart : s.manager.ThresholdsApart)
    (call : LuxCall Single) : ∃ t, s.step call = some t ∧ t.Ranged mode ∧
      (s.StaysApart call ↔ ¬ s.Collapses mode call) := by
  cases call with
  | isNeedUpdateBrightness lux currentTime => exact reading_staysApart h hapart lux currentTime
  | setLux lux currentTime =>
    rw [StaysApart, step_setLux]
    exact reading_staysApart h hapart lux currentTime
  | clearLuxData =>
    have hformed := formed_clearLuxData h.manager.toFormed
    have hentries := (LightLuxBuffer.clear_spec h.manager.wellFormed).2.2
    have hnewest : s.manager.clearLuxData.luxBuffer.newest = [] := by
      simp [clearLuxData, LightLuxBuffer.newest, hentries]
    refine ⟨_, rfl, ⟨⟨hformed, by simp [hnewest], h.manager.filteredLux⟩, h.mode⟩, ?_⟩
    have hclear : s.StaysApart .clearLuxData := by
      rintro t ⟨⟩
      exact hapart
    exact iff_of_true hclear id

theorem start_apart (hmode : modeArray.lookup "DefaultMode" = some mode) :
    (start modeArray).Ranged mode ∧ (start modeArray).manager.ThresholdsApart := by
  have hzero : MeanWithin (float 0 : Single) := by
    rw [MeanWithin]
    decide +kernel
  refine ⟨⟨⟨formed_initial modeArray, ?_, hzero⟩, hmode⟩, ?_⟩
  · simp [start, initParameters, LightLuxBuffer.newest, LightLuxBuffer.entries_default]
  · rw [thresholdsApart_iff hzero]
    change (float 1 : Single) ≤ float 120 ∧ (float 1 : Single) ≤ float 110
    decide +kernel

theorem always_staysApart_iff (hmode : modeArray.lookup "DefaultMode" = some mode)
    (calls : List (LuxCall Single)) :
    Runs.Always step StaysApart (start modeArray) calls ↔
      Runs.Always step (fun s call => ¬ s.Collapses mode call) (start modeArray) calls := by
  refine Runs.always_iff (J := fun s => s.Ranged mode ∧ s.manager.ThresholdsApart)
    (P := fun _ => True) ?_ ?_ (start_apart hmode) (fun _ _ => trivial)
  · intro s call t hs _ hnot ht
    obtain ⟨u, hu, hranged, hiff⟩ := call_staysApart hs.1 hs.2 call
    obtain rfl := Option.some.inj (hu.symm.trans ht)
    exact ⟨hranged, hiff.mpr hnot u hu⟩
  · intro s call hs _
    obtain ⟨_, _, _, hiff⟩ := call_staysApart hs.1 hs.2 call
    exact hiff

/-- A reading of NaN is smoothed to NaN, which is before no point; and a first reading is always
followed. -/
theorem collapses_first (hmode : modeArray.lookup "DefaultMode" = some mode)
    (hlow : LowEnd mode.brightenPoints ∨ LowEnd mode.darkenPoints) :
    (start modeArray).Collapses mode (.isNeedUpdateBrightness .nan 0) := by
  have hvalid : Valid .nan := by decide +kernel
  obtain ⟨hsmooth, _⟩ := (early_start hmode).smoothLux_eq (by simp) hvalid 0
  have hpast {points : List (PointXy Single)} (hends : LowEnd points) : PastLowEnd points .nan :=
    ⟨fun _ _ => Bool.false_ne_true, hends⟩
  rw [Collapses, LightLuxManager.Collapses, hsmooth]
  exact ⟨hvalid.2, (early_start hmode).first hvalid 0, hlow.imp hpast hpast⟩

theorem not_collapses (hlow : ¬ (LowEnd mode.brightenPoints ∨ LowEnd mode.darkenPoints))
    (s : LuxTrace Single) (call : LuxCall Single) : ¬ s.Collapses mode call := by
  cases call with
  | isNeedUpdateBrightness lux currentTime | setLux lux currentTime =>
    rintro ⟨_, _, hpast⟩
    exact hlow (hpast.imp And.right And.right)
  | clearLuxData => exact id

theorem never_collapses_iff (hmode : modeArray.lookup "DefaultMode" = some mode) :
    (∀ calls, Runs.Always step (fun s call => ¬ s.Collapses mode call) (start modeArray) calls) ↔
      ¬ LowEnd mode.brightenPoints ∧ ¬ LowEnd mode.darkenPoints := by
  rw [← not_or]
  constructor
  · intro hnever hlow
    exact (hnever [.isNeedUpdateBrightness .nan 0]).1 (collapses_first hmode hlow)
  · intro hlow calls
    exact Runs.always_of_forall (fun s call _ => not_collapses hlow s call) _

/-- In a run, the thresholds stay apart exactly while no reading is followed past the low end of a
curve; and they stay apart in all runs exactly if neither curve of the default mode has such an
end. -/
theorem thresholds_apart_iff
    (hmode : (luxThresholdConfig cJsonParse fileContent).modeArray.lookup "DefaultMode" =
      some mode) :
    (∀ calls, Runs.Always step StaysApart (configured cJsonParse fileContent) calls ↔
      Runs.Always step (fun s call => ¬ s.Collapses mode call) (configured cJsonParse fileContent)
        calls) ∧
    ((∀ calls, Runs.Always step StaysApart (configured cJsonParse fileContent) calls) ↔
      ¬ LowEnd mode.brightenPoints ∧ ¬ LowEnd mode.darkenPoints) := by
  refine ⟨always_staysApart_iff hmode, ?_⟩
  rw [← never_collapses_iff hmode]
  exact forall_congr' (always_staysApart_iff hmode)

def flatDocument : CJson :=
  .object [("thresholdMode", .array [.object [("modeName", .string "DefaultMode"),
    ("brightenPoints", .array [.array [.number 0, .number 0]]),
    ("darkenPoints", .array [.array [.number 0, .number 0]])]])]

def flatText : String :=
  "\x7b\"thresholdMode\": [\x7b\"modeName\": \"DefaultMode\", " ++
    "\"brightenPoints\": [[0, 0]], \"darkenPoints\": [[0, 0]]\x7d]\x7d"

/-- The built-in curves, which a file that is no document leaves in place, keep the thresholds
apart. -/
theorem thresholds_apart_iff_default :
    ¬ LowEnd defaultLuxThresholdMode.brightenPoints ∧
      ¬ LowEnd defaultLuxThresholdMode.darkenPoints ∧
      ∀ calls, Runs.Always step StaysApart
        (configured (parsesOnly flatText flatDocument) "" : LuxTrace Single) calls := by
  have hmode : (luxThresholdConfig (parsesOnly flatText flatDocument) "").modeArray.lookup
      "DefaultMode" = some (defaultLuxThresholdMode : LuxThresholdMode Single) := by decide +kernel
  have hlow : ¬ LowEnd defaultLuxThresholdMode.brightenPoints ∧
      ¬ LowEnd defaultLuxThresholdMode.darkenPoints := by decide +kernel
  exact ⟨hlow.1, hlow.2, (thresholds_apart_iff hmode).2.mpr hlow⟩

/-- After the first reading both thresholds are 0, and the same light again would be brighter and
darker. -/
theorem thresholds_collapse :
    (luxThresholdConfig (parsesOnly flatText flatDocument) flatText).modeArray.lookup
        "DefaultMode" = some (⟨-1, -1, [.of 0 0], [.of 0 0]⟩ : LuxThresholdMode Single) ∧
      ¬ Runs.Always step StaysApart (configured (parsesOnly flatText flatDocument) flatText)
        [.isNeedUpdateBrightness (float 100 : Single) 0] ∧
      ∃ t ∈ (configured (parsesOnly flatText flatDocument) flatText).step
          (.isNeedUpdateBrightness (float 100 : Single) 0),
        t.manager.filteredLux = float 100 ∧ t.manager.brightenDelta = float 0 ∧
          t.manager.darkenDelta = float 0 ∧ t.manager.isBrighter (float 100) = true ∧
          t.manager.isDarker (float 100) = true := by
  have hmode : (luxThresholdConfig (parsesOnly flatText flatDocument) flatText).modeArray.lookup
      "DefaultMode" = some (⟨-1, -1, [.of 0 0], [.of 0 0]⟩ : LuxThresholdMode Single) := by
    decide +kernel
  have hcollapses : ∃ t ∈ (configured (parsesOnly flatText flatDocument) flatText).step
      (.isNeedUpdateBrightness (float 100 : Single) 0),
      t.manager.filteredLux = float 100 ∧ t.manager.brightenDelta = float 0 ∧
        t.manager.darkenDelta = float 0 ∧ t.manager.isBrighter (float 100) = true ∧
        t.manager.isDarker (float 100) = true := by decide +kernel
  refine ⟨hmode, fun halways => ?_, hcollapses⟩
  obtain ⟨t, ht, _, hbrighten, _⟩ := hcollapses
  have hone := (halways.1 t ht).1
  rw [hbrighten] at hone
  exact absurd hone (by decide +kernel)

end LuxTrace

end DisplayPowerMgr
