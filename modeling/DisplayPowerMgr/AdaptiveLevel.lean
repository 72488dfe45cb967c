import DisplayPowerMgr.OffsetTransfer

/-! The level that follows the light: over whole runs it is decided by the light and by one choice
of the user alone, and it never falls as the light grows. -/
namespace DisplayPowerMgr

namespace BrightnessCalculationManager

structure Choice where
  level : ℚ
  lux : ℚ
  deriving DecidableEq, Repr

def builtInLevel (lux : ℚ) : ℚ := ({} : BrightnessCalculationCurve).getCurrentBrightness lux

/-- The level at a light under a choice, or without one. -/
def adaptiveLevel (choice : Option Choice) (lux : ℚ) : ℚ :=
  match choice with
  | none => builtInLevel lux
  | some c => getOffsetLevel (builtInLevel c.lux) (builtInLevel lux) c.level
      (c.level - builtInLevel c.lux)

/-- The latest choice, until it is cleared, or dropped by the first light after the start or after
a clear. -/
def choiceAfter (asked : Bool) (choice : Option Choice) : CurveCall → Option Choice
  | .getInterpolatedValue _ => if asked then choice else none
  | .updateBrightnessOffset posBrightness lux =>
    if posBrightness = 0 then none else some ⟨posBrightness, lux⟩

def latestChoice : List CurveCall → Bool → Option Choice → Option Choice
  | [], asked, choice => if asked then choice else none
  | c :: calls, asked, choice => latestChoice calls (c.asked asked) (choiceAfter asked choice c)

/-- The choice that the next light is met with. -/
def choiceInForce (calls : List CurveCall) : Option Choice := latestChoice calls false none

theorem builtInLevel_inRange {lux : ℚ} (h : ValidLux lux) : InRange (builtInLevel lux) := by
  have hmono := BrightnessCalculationCurve.builtIn_monotone
  have hlow : 5 ≤ builtInLevel lux := hmono.ge_first lux h.1
  have hhigh : builtInLevel lux ≤ 255 := hmono.le_last lux h.1
  refine ⟨?_, hhigh⟩
  rw [MIN_DEFAULT_BRIGHTNESS]
  linarith

theorem builtInLevel_mono {lux lux' : ℚ} (h : ValidLux lux) (hle : lux ≤ lux') :
    builtInLevel lux ≤ builtInLevel lux' :=
  BrightnessCalculationCurve.builtIn_monotone.mono lux h.1 lux' hle

def clampLevel (level : ℚ) : ℚ :=
  if (if level > MIN_DEFAULT_BRIGHTNESS then level else MIN_DEFAULT_BRIGHTNESS) <
      MAX_DEFAULT_BRIGHTNESS then
    (if level > MIN_DEFAULT_BRIGHTNESS then level else MIN_DEFAULT_BRIGHTNESS)
  else MAX_DEFAULT_BRIGHTNESS

theorem clampLevel_eq (level : ℚ) :
    clampLevel level = min (max level MIN_DEFAULT_BRIGHTNESS) MAX_DEFAULT_BRIGHTNESS := by
  have hmax : (if level > MIN_DEFAULT_BRIGHTNESS then level else MIN_DEFAULT_BRIGHTNESS) =
      max level MIN_DEFAULT_BRIGHTNESS := by
    rcases lt_or_ge MIN_DEFAULT_BRIGHTNESS level with h | h
    · rw [if_pos h, max_eq_left (le_of_lt h)]
    · rw [if_neg (not_lt.mpr h), max_eq_right h]
  rw [clampLevel, hmax]
  rcases lt_or_ge (max level MIN_DEFAULT_BRIGHTNESS) MAX_DEFAULT_BRIGHTNESS with h | h
  · rw [if_pos h, min_eq_left (le_of_lt h)]
  · rw [if_neg (not_lt.mpr h), min_eq_right h]

theorem clampLevel_mono {level level' : ℚ} (h : level ≤ level') :
    clampLevel level ≤ clampLevel level' := by
  rw [clampLevel_eq, clampLevel_eq]
  exact min_le_min_right _ (max_le_max_right _ h)

theorem clampLevel_inRange (level : ℚ) : InRange (clampLevel level) := by
  rw [clampLevel_eq]
  refine ⟨le_min (le_max_right _ _) ?_, min_le_right _ _⟩
  norm_num [MIN_DEFAULT_BRIGHTNESS, MAX_DEFAULT_BRIGHTNESS]

variable {s e e' p : ℚ}

/-- An offset too small to be divided by is carried along, or shrinks with the room above. -/
def carried (s e p : ℚ) : ℚ := e + (p - s) * if s < e ∧ p < s then headroomRatio s e else 1

theorem carried_mono (hs : InRange s) (hee : e ≤ e') : carried s e p ≤ carried s e' p := by
  rw [carried, carried]
  rcases lt_or_ge p s with hps | hps
  · have hneg : p - s ≤ 0 := by linarith
    simp only [hps, and_true]
    rcases lt_or_ge s e with hse | hse
    · rw [if_pos hse, if_pos (lt_of_lt_of_le hse hee)]
      have hshrink := mul_le_mul_of_nonpos_left (headroomRatio_anti hs hee) hneg
      linarith
    · rw [if_neg (not_lt.mpr hse)]
      split
      · rename_i hse'
        have hshrink := mul_le_mul_of_nonpos_left (headroomRatio_le_one hs (le_of_lt hse')) hneg
        linarith
      · linarith
  · rw [if_neg fun h => not_lt.mpr hps h.2, if_neg fun h => not_lt.mpr hps h.2]
    linarith

theorem getOffsetLevel_small (hs : InRange s) (he : InRange e) (hd : |p - s| < SMALL_VALUE) :
    getOffsetLevel s e p (p - s) = clampLevel (carried s e p) := by
  have hdarken : getDefaultDarkenOffsetDarkenRatio s e p (p - s) = 1 := by
    simp [getDefaultDarkenOffsetDarkenRatio, hd]
  have hbrighten : getDefaultBrightenOffsetBrightenRaio s e p (p - s) = 1 := by
    simp [getDefaultBrightenOffsetBrightenRaio, hd]
  have hroom := headroom_kept hs he
  have hlevel : carried s e p = e + (p - s) *
        (if s < e ∧ p - s < 0 then getDefaultDarkenOffsetBrightenRatio s e
        else if s > e ∧ p - s > 0 then getDefaultBrightenOffsetDarkenRatio s e else 1) *
        (if s < e ∧ p - s > 0 then getDefaultBrightenOffsetBrightenRaio s e p (p - s)
        else if s > e ∧ p - s < 0 then getDefaultDarkenOffsetDarkenRatio s e p (p - s)
        else 1) := by
    rw [carried, hdarken, hbrighten, hroom, brightenDarkenRatio_eq hs]
    simp only [ite_self, mul_one, sub_neg]
  rw [hlevel]
  rfl

theorem getOffsetLevel_mono (hs : InRange s) (he : InRange e) (he' : InRange e') (hp : InRange p)
    (hee : e ≤ e') : getOffsetLevel s e p (p - s) ≤ getOffsetLevel s e' p (p - s) := by
  rcases lt_or_ge |p - s| SMALL_VALUE with hsmall | hlarge
  · rw [getOffsetLevel_small hs he hsmall, getOffsetLevel_small hs he' hsmall]
    exact clampLevel_mono (carried_mono hs hee)
  · rw [getOffsetLevel_eq hs he hp (Or.inr hlarge), getOffsetLevel_eq hs he' hp (Or.inr hlarge)]
    exact transferred_mono_default hs hee

theorem getOffsetLevel_inRange (s e p d : ℚ) : InRange (getOffsetLevel s e p d) :=
  clampLevel_inRange _

def Choice.Valid (c : Choice) : Prop := InRange c.level ∧ ValidLux c.lux

theorem adaptiveLevel_inRange (choice : Option Choice) {lux : ℚ} (h : ValidLux lux) :
    InRange (adaptiveLevel choice lux) := by
  cases choice with
  | none => exact builtInLevel_inRange h
  | some c => exact getOffsetLevel_inRange _ _ _ _

theorem adaptiveLevel_mono {choice : Option Choice} (hc : ∀ c ∈ choice, c.Valid) {lux lux' : ℚ}
    (h : ValidLux lux) (h' : ValidLux lux') (hle : lux ≤ lux') :
    adaptiveLevel choice lux ≤ adaptiveLevel choice lux' := by
  have hdefault := builtInLevel_mono h hle
  cases choice with
  | none => exact hdefault
  | some c =>
    obtain ⟨hlevel, hlux⟩ := hc c rfl
    exact getOffsetLevel_mono (builtInLevel_inRange hlux) (builtInLevel_inRange h)
      (builtInLevel_inRange h') hlevel hdefault

/-- The fields of the manager stand for the choice, and for whether a level was asked for. -/
structure Holds (asked : Bool) (choice : Option Choice) (m : BrightnessCalculationManager) :
    Prop where
  tracks : Tracks asked m
  valid : ∀ c ∈ choice, c.Valid
  unchosen : choice = none → m.posBrightness = 0
  chosen : ∀ c ∈ choice, m.posBrightness = c.level ∧
    m.startLuxDefaultBrightness = builtInLevel c.lux ∧ m.delta = c.level - builtInLevel c.lux

theorem InRange.ne_zero {level : ℚ} (h : InRange level) : level ≠ 0 := by
  rintro rfl
  exact h.not_small (by norm_num [SMALL_VALUE])

theorem Holds.getInterpolated {asked : Bool} {choice : Option Choice}
    {m : BrightnessCalculationManager} (h : Holds asked choice m) (lux : ℚ) :
    (m.getInterpolatedBrightenssLevel m.posBrightness lux).2 =
        adaptiveLevel (if asked then choice else none) lux ∧
      ((if asked then choice else none) = none →
        (m.getInterpolatedBrightenssLevel m.posBrightness lux).1.posBrightness = 0) ∧
      ∀ c ∈ if asked then choice else none,
        (m.getInterpolatedBrightenssLevel m.posBrightness lux).1.posBrightness = c.level ∧
        (m.getInterpolatedBrightenssLevel m.posBrightness lux).1.startLuxDefaultBrightness =
          builtInLevel c.lux ∧
        (m.getInterpolatedBrightenssLevel m.posBrightness lux).1.delta =
          c.level - builtInLevel c.lux := by
  have hdefault : m.getCurrentBrightness lux = builtInLevel lux := by
    rw [getCurrentBrightness, h.tracks.builtIn]
    rfl
  cases asked with
  | true =>
    have hlast : ¬ m.lastLuxDefaultBrightness ≤ 0 := not_le.mpr (h.tracks.last.mpr rfl)
    cases choice with
    | none =>
      have hpos := h.unchosen rfl
      simp [getInterpolatedBrightenssLevel, hlast, hpos, isDefaultBrightnessMode, adaptiveLevel,
        hdefault]
    | some c =>
      obtain ⟨hpos, hstart, hdelta⟩ := h.chosen c rfl
      have hne := (h.valid c rfl).1.ne_zero
      simp [getInterpolatedBrightenssLevel, hlast, hpos, hstart, hdelta, hne,
        isDefaultBrightnessMode, adaptiveLevel, hdefault]
  | false =>
    have hlast : m.lastLuxDefaultBrightness ≤ 0 := by
      rw [← not_lt, h.tracks.last]
      exact Bool.false_ne_true
    by_cases hpos : m.posBrightness = 0
    · simp [getInterpolatedBrightenssLevel, hpos, isDefaultBrightnessMode, adaptiveLevel, hdefault]
    · simp [getInterpolatedBrightenssLevel, hlast, hpos, isDefaultBrightnessMode, adaptiveLevel,
        hdefault, resetDefaultBrightnessOffset]

theorem Holds.call {asked : Bool} {choice : Option Choice} {m : BrightnessCalculationManager}
    (h : Holds asked choice m) {c : CurveCall} (hc : c.Valid) :
    Holds (c.asked asked) (choiceAfter asked choice c) (m.call c) := by
  have htracks := h.tracks.call hc
  cases c with
  | getInterpolatedValue lux =>
    obtain ⟨-, hunchosen, hchosen⟩ := h.getInterpolated lux
    refine ⟨htracks, ?_, hunchosen, hchosen⟩
    intro c hc
    rw [choiceAfter] at hc
    split at hc
    · exact h.valid c hc
    · cases hc
  | updateBrightnessOffset level lux =>
    obtain ⟨rfl | hlevel, hlux⟩ := hc
    · have hm := updateBrightnessOffset_zero m hlux
      refine ⟨htracks, ?_, ?_, ?_⟩
      · simp [choiceAfter]
      · intro _
        rw [BrightnessCalculationManager.call, hm]
        rfl
      · simp [choiceAfter]
    · have hm := updateBrightnessOffset_level m hlevel hlux
      have hchoice : choiceAfter asked choice (.updateBrightnessOffset level lux) =
          some ⟨level, lux⟩ := by
        rw [choiceAfter, if_neg hlevel.ne_zero]
      rw [hchoice]
      refine ⟨htracks, ?_, by simp, ?_⟩
      · intro c hc
        obtain rfl := Option.some.inj hc
        exact ⟨hlevel, hlux⟩
      · intro c hc
        obtain rfl := Option.some.inj hc
        have hdefault : m.getCurrentBrightness lux = builtInLevel lux := by
          rw [getCurrentBrightness, h.tracks.builtIn]
          rfl
        rw [BrightnessCalculationManager.call, hm, hdefault]
        exact ⟨rfl, rfl, rfl⟩

theorem holds_run {calls : List CurveCall} (hcalls : ∀ c ∈ calls, c.Valid) :
    ∀ {asked : Bool} {choice : Option Choice} {m : BrightnessCalculationManager},
      Holds asked choice m → ∃ asked' choice', Holds asked' choice' (calls.foldl call m) ∧
        latestChoice calls asked choice = if asked' then choice' else none := by
  induction calls with
  | nil =>
    intro asked choice m h
    exact ⟨asked, choice, h, rfl⟩
  | cons c calls ih =>
    intro asked choice m h
    have hnext := h.call (hcalls c List.mem_cons_self)
    exact ih (fun d hd => hcalls d (List.mem_cons_of_mem c hd)) hnext

/-- After every run of calls the level at a light is that of the light and of the choice in force
alone, lies in the range, and is not lower where it is brighter. -/
theorem level_follows_light {calls : List CurveCall} (hcalls : ∀ c ∈ calls, c.Valid) {lux : ℚ}
    (hlux : ValidLux lux) :
    ((afterCalls calls).getInterpolatedValue lux).2 =
        adaptiveLevel (choiceInForce calls) lux / MAX_DEFAULT_BRIGHTNESS ∧
      InRange (adaptiveLevel (choiceInForce calls) lux) ∧
      ∀ lux', ValidLux lux' → lux ≤ lux' →
        ((afterCalls calls).getInterpolatedValue lux).2 ≤
          ((afterCalls calls).getInterpolatedValue lux').2 := by
  have hstart : Holds false none {} :=
    ⟨⟨rfl, iff_of_false (lt_irrefl 0) Bool.false_ne_true⟩, by simp, fun _ => rfl, by simp⟩
  obtain ⟨asked, choice, h, hlatest⟩ := holds_run hcalls hstart
  have hlevel (lux : ℚ) : ((afterCalls calls).getInterpolatedValue lux).2 =
      adaptiveLevel (choiceInForce calls) lux / MAX_DEFAULT_BRIGHTNESS := by
    rw [choiceInForce, hlatest]
    exact congrArg (· / MAX_DEFAULT_BRIGHTNESS) (h.getInterpolated lux).1
  have hvalid : ∀ c ∈ choiceInForce calls, c.Valid := by
    intro c hc
    rw [choiceInForce, hlatest] at hc
    split at hc
    · exact h.valid c hc
    · cases hc
  refine ⟨hlevel lux, adaptiveLevel_inRange _ hlux, ?_⟩
  intro lux' hlux' hle
  rw [hlevel, hlevel]
  apply div_le_div_of_nonneg_right (adaptiveLevel_mono hvalid hlux hlux' hle)
  norm_num [MAX_DEFAULT_BRIGHTNESS]

theorem chosen_level_follows_light :
    ((afterCalls [.getInterpolatedValue 100, .updateBrightnessOffset 200 30]).getInterpolatedValue
        30).2 ≤
      ((afterCalls [.getInterpolatedValue 100, .updateBrightnessOffset 200 30]).getInterpolatedValue
        300).2 := by
  have hcalls : ∀ c ∈ [CurveCall.getInterpolatedValue 100, .updateBrightnessOffset 200 30],
      c.Valid := by
    intro c hc
    rcases List.mem_cons.mp hc with rfl | hc
    · exact (by decide +kernel : ValidLux 100)
    · obtain rfl := List.mem_singleton.mp hc
      exact ⟨Or.inr (by decide +kernel), (by decide +kernel : ValidLux 30)⟩
  have hlux : ValidLux 30 := by decide +kernel
  exact (level_follows_light hcalls hlux).2.2 300 (by decide +kernel) (by norm_num)

end BrightnessCalculationManager

end DisplayPowerMgr
