import DisplayPowerMgr.ConfigParserBase
import DisplayPowerMgr.SustainedLight

/-! `LuxThresholdConfigParser`: from the text of the configuration file to the modes that
`LightLuxManager` looks up, and what the values in the file do to its runs. -/
namespace DisplayPowerMgr

open CJson

structure LuxThresholdData (F : Type := ℚ) [FloatArithmetic F] where
  modeArray : List (String × LuxThresholdMode F) := []
  isLevelEnable : Bool := false
  brightenPointsForLevel : List (PointXy F) := []
  darkenPointsForLevel : List (PointXy F) := []
  deriving DecidableEq, Repr

variable {F : Type} [FloatArithmetic F]

/-- `insert` of a map keeps what is there under the name. -/
def LuxThresholdData.insert (data : LuxThresholdData F) (name : String)
    (config : LuxThresholdMode F) : LuxThresholdData F :=
  if (data.modeArray.lookup name).isSome then data
  else { data with modeArray := (name, config) :: data.modeArray }

namespace LuxThresholdConfigParser

def setDefault (data : LuxThresholdData F) : LuxThresholdData F :=
  { data.insert "DefaultMode" defaultLuxThresholdMode with
    isLevelEnable := true
    brightenPointsForLevel :=
      [.of 4 1, .of 10 5, .of 20 10, .of 60 30, .of 100 100, .of 225 200, .of 255 300]
    darkenPointsForLevel :=
      [.of 4 1, .of 10 5, .of 20 5, .of 60 15, .of 100 50, .of 225 50, .of 255 100] }

/-- A debounce time that is not a number keeps its default. -/
def debounceTime (item : CJson) (name : String) (default : ℤ) : ℤ :=
  match validJsonNumber (item.getObjectItemCaseSensitive name) with
  | some valuedouble => valueint valuedouble
  | none => default

def luxThresholdParseConfigParams (item : CJson) (data : LuxThresholdData F) :
    LuxThresholdData F :=
  match validJsonStringAndNoEmpty (item.getObjectItemCaseSensitive "modeName") with
  | none => data
  | some name =>
    let config : LuxThresholdMode F := {}
    data.insert name
      { brightenDebounceTime := debounceTime item "brightenDebounceTime" config.brightenDebounceTime
        darkenDebounceTime := debounceTime item "darkenDebounceTime" config.darkenDebounceTime
        brightenPoints := parsePointXy item "brightenPoints"
        darkenPoints := parsePointXy item "darkenPoints" }

/-- The loop over the mode array skips what is not an object. -/
def parseItem (data : LuxThresholdData F) (item : CJson) : LuxThresholdData F :=
  if item.isObject then luxThresholdParseConfigParams item data else data

/-- `cJsonParse` is cJSON's parser, without an answer for a text that is not JSON. -/
def parseConfigJsonRoot (cJsonParse : String → Option CJson) (fileContent : String)
    (data : LuxThresholdData F) : LuxThresholdData F × Bool :=
  match cJsonParse fileContent with
  | none => (setDefault data, false)
  | some root =>
    if !root.isObject then (data, false)
    else
      let data :=
        { data with
          isLevelEnable := (validJsonBool (root.getObjectItemCaseSensitive "isLevelEnable")).getD
            data.isLevelEnable
          brightenPointsForLevel := parsePointXy root "brightenPointsForLevel"
          darkenPointsForLevel := parsePointXy root "darkenPointsForLevel" }
      match validJsonArray (root.getObjectItemCaseSensitive "thresholdMode") with
      | none => (data, false)
      | some thresholdModeArray => (thresholdModeArray.foldl parseItem data, true)

def luxThresholdConfig (cJsonParse : String → Option CJson) (fileContent : String) :
    LuxThresholdData F :=
  (parseConfigJsonRoot cJsonParse fileContent {}).1

def IsNamed (name : String) (item : CJson) : Prop :=
  item.isObject = true ∧ item.getObjectItemCaseSensitive "modeName" = some (.string name)

/-- What a document needs for the default scene mode. No document at all configures the built-in
mode. -/
def ConfiguresDefaultMode : Option CJson → Prop
  | none => True
  | some root => root.isObject = true ∧ ∃ thresholdModeArray,
      root.getObjectItemCaseSensitive "thresholdMode" = some (.array thresholdModeArray) ∧
        ∃ item ∈ thresholdModeArray, IsNamed "DefaultMode" item

/-- The lookup of this mode does not throw. -/
def HasMode (data : LuxThresholdData F) (name : String) : Prop :=
  ∃ config, data.modeArray.lookup name = some config

theorem not_hasMode_empty (name : String) (isLevelEnable : Bool)
    (brighten darken : List (PointXy F)) :
    ¬ HasMode ⟨[], isLevelEnable, brighten, darken⟩ name := by
  rintro ⟨config, hlookup⟩
  cases hlookup

theorem hasMode_insert (data : LuxThresholdData F) (name key : String)
    (config : LuxThresholdMode F) :
    HasMode (data.insert name config) key ↔ key = name ∨ HasMode data key := by
  rw [LuxThresholdData.insert]
  by_cases hkey : key = name
  · subst hkey
    refine iff_of_true ?_ (.inl rfl)
    split
    · exact Option.isSome_iff_exists.mp ‹_›
    · exact ⟨config, List.lookup_cons_self⟩
  · rw [or_iff_right hkey]
    split
    · rfl
    · have hne : (key == name) = false := beq_false_of_ne hkey
      rw [HasMode, HasMode, List.lookup_cons, hne]

theorem hasMode_parseItem {key : String} (hkey : 0 < key.length)
    (data : LuxThresholdData F) (item : CJson) : HasMode (parseItem data item) key ↔
      IsNamed key item ∨ HasMode data key := by
  rw [parseItem, IsNamed]
  split
  · rename_i hobject
    rw [luxThresholdParseConfigParams]
    cases hname : validJsonStringAndNoEmpty (item.getObjectItemCaseSensitive "modeName") with
    | none =>
      have hnot : ¬ item.getObjectItemCaseSensitive "modeName" = some (.string key) := by
        intro hnode
        rw [validJsonStringAndNoEmpty_eq_some.mpr ⟨hnode, hkey⟩] at hname
        cases hname
      simp [hnot]
    | some name =>
      have hnode := (validJsonStringAndNoEmpty_eq_some.mp hname).1
      simp only [hnode, hobject, true_and, Option.some.injEq, CJson.string.injEq]
      rw [hasMode_insert, eq_comm]
  · simp [*]

theorem hasMode_foldl_parseItem {key : String} (hkey : 0 < key.length) (items : List CJson)
    (data : LuxThresholdData F) : HasMode (items.foldl parseItem data) key ↔
      (∃ item ∈ items, IsNamed key item) ∨ HasMode data key := by
  induction items generalizing data with
  | nil => simp
  | cons item items ih =>
    rw [List.foldl_cons, ih, hasMode_parseItem hkey, List.exists_mem_cons_iff, or_left_comm,
      or_assoc]

theorem hasMode_luxThresholdConfig (cJsonParse : String → Option CJson) (fileContent : String) :
    HasMode (luxThresholdConfig cJsonParse fileContent : LuxThresholdData F) "DefaultMode" ↔
      ConfiguresDefaultMode (cJsonParse fileContent) := by
  rw [luxThresholdConfig, parseConfigJsonRoot]
  cases cJsonParse fileContent with
  | none => exact iff_of_true ⟨defaultLuxThresholdMode, rfl⟩ trivial
  | some root =>
    rw [ConfiguresDefaultMode]
    cases hobject : root.isObject with
    | false => simp [hobject, not_hasMode_empty]
    | true =>
      cases harray : validJsonArray (root.getObjectItemCaseSensitive "thresholdMode") with
      | none =>
        have hnot (items : List CJson) :
            ¬ root.getObjectItemCaseSensitive "thresholdMode" = some (.array items) := by
          intro hnode
          rw [validJsonArray_eq_some.mpr hnode] at harray
          cases harray
        simp [hobject, harray, hnot, not_hasMode_empty]
      | some thresholdModeArray =>
        have hnode := validJsonArray_eq_some.mp harray
        have hname : 0 < "DefaultMode".length := by decide
        simp [hobject, hnode, validJsonArray, hasMode_foldl_parseItem hname, not_hasMode_empty]

end LuxThresholdConfigParser

namespace LuxTrace

open LuxThresholdConfigParser

variable {cJsonParse : String → Option CJson} {fileContent : String}

def configured (cJsonParse : String → Option CJson) (fileContent : String) : LuxTrace F :=
  start (luxThresholdConfig cJsonParse fileContent).modeArray

def sensorReading (reading : F × ℤ) : LuxCall F := .isNeedUpdateBrightness reading.1 reading.2

theorem first_reading_missing
    (hmissing : ¬ HasMode (luxThresholdConfig cJsonParse fileContent : LuxThresholdData)
      "DefaultMode") (lux : ℚ) (currentTime : ℤ) :
    (configured cJsonParse fileContent).step (.isNeedUpdateBrightness lux currentTime) = none := by
  have hmode :
      (configured cJsonParse fileContent : LuxTrace).manager.getCurrentModeData = none := by
    apply Option.eq_none_iff_forall_ne_some.mpr
    intro mode hmode
    exact hmissing ⟨mode, hmode⟩
  have hsound : (configured cJsonParse fileContent : LuxTrace).manager.Sound :=
    LightLuxManager.sound_initial _
  rw [step, LightLuxManager.isNeedUpdateBrightness_missing hsound.toAligned
    (hsound.smoothLux_nonneg lux currentTime) hmode]
  rfl

/-- No run of readings ends in an exception exactly if the file configures the default mode. -/
theorem readings_safe_iff (cJsonParse : String → Option CJson) (fileContent : String) :
    (∀ readings : List (ℚ × ℤ), ∃ s,
      Runs.run step (configured cJsonParse fileContent) (readings.map sensorReading) = some s) ↔
      ConfiguresDefaultMode (cJsonParse fileContent) := by
  rw [← hasMode_luxThresholdConfig (F := ℚ)]
  constructor
  · intro hruns
    by_contra hmissing
    obtain ⟨s, hs⟩ := hruns [(0, 0)]
    obtain ⟨t, ht, _⟩ := Runs.run_cons_some.mp hs
    exact absurd ((first_reading_missing hmissing 0 0).symm.trans ht) nofun
  · rintro ⟨mode, hmode⟩ readings
    obtain ⟨s, hs, _⟩ := run_isSome (sound_start hmode) (readings.map sensorReading)
    exact ⟨s, hs⟩

def parsesOnly (text : String) (document : CJson) (fileContent : String) : Option CJson :=
  if fileContent = text then some document else none

/-- The empty object is well-formed and configures no mode. -/
theorem empty_object_crashes :
    ¬ ∀ readings : List (ℚ × ℤ), ∃ s,
      Runs.run step (configured (parsesOnly "\x7b\x7d" (.object [])) "\x7b\x7d")
        (readings.map sensorReading) = some s := by
  intro hruns
  obtain ⟨s, hs⟩ := hruns [(0, 0)]
  obtain ⟨t, ht, _⟩ := Runs.run_cons_some.mp hs
  refine absurd ((first_reading_missing ?_ 0 0).symm.trans ht) nofun
  rw [hasMode_luxThresholdConfig, parsesOnly, if_pos rfl]
  rintro ⟨_, thresholdModeArray, harray, _⟩
  cases harray

variable {s t : LuxTrace Single} {mode : LuxThresholdMode Single}
variable {modeArray : List (String × LuxThresholdMode Single)} {lux : Single} {currentTime : ℤ}

/-- A reading that is not the first is answered with a change only for a sample beyond one of the
thresholds from before it. -/
def KeepsHysteresis (s : LuxTrace Single) : LuxCall Single → Prop
  | .isNeedUpdateBrightness lux currentTime =>
    s.smoothed ≠ [] → ∀ answer, s.manager.isNeedUpdateBrightness lux currentTime = some answer →
      answer.2 = true → s.ReachesBrighten answer.1.smoothedButNotStabledLux ∨
        s.ReachesDarken answer.1.smoothedButNotStabledLux
  | _ => True

/-- The smoothed value is a number that is not negative, and its rounded distance to the filtered
light reaches no threshold that the distance itself does not reach. -/
def Measures (s : LuxTrace Single) : LuxCall Single → Prop
  | .isNeedUpdateBrightness lux currentTime | .setLux lux currentTime =>
    let smoothed := s.manager.smoothLux lux currentTime
    (∃ x ∈ smoothed.toRat, 0 ≤ x) ∧
      ¬ BinaryFloat.RoundsUp s.manager.brightenDelta smoothed s.manager.filteredLux ∧
      ¬ BinaryFloat.RoundsUp s.manager.darkenDelta s.manager.filteredLux smoothed
  | .clearLuxData => True

/-- The clock does not go back, and no reading is measured wrong. -/
def MeasuresInOrder (s : LuxTrace Single) (call : LuxCall Single) : Prop :=
  s.ClockForward call ∧ s.Measures call

structure Measured (mode : LuxThresholdMode Single) (s : LuxTrace Single) : Prop where
  tracks : s.Tracks mode
  filteredLux : ∃ x ∈ s.manager.filteredLux.toRat, 0 ≤ x
  brightenDelta : float 0 ≤ s.manager.brightenDelta
  darkenDelta : float 0 ≤ s.manager.darkenDelta

theorem Measures.notNegative {call : LuxCall Single} (h : s.Measures call) :
    s.NotNegative call := by
  cases call with
  | isNeedUpdateBrightness lux currentTime | setLux lux currentTime =>
    exact BinaryFloat.not_lt_zero h.1
  | clearLuxData => trivial

theorem measured_reading (h : s.Measured mode)
    (hcall : s.MeasuresInOrder (.isNeedUpdateBrightness lux currentTime))
    (ht : s.step (.isNeedUpdateBrightness lux currentTime) = some t) : t.Measured mode := by
  obtain ⟨hclock, hmeasures⟩ := hcall
  have hsmooth := hmeasures.notNegative
  have htracks := tracks_reading h.tracks hclock hsmooth ht
  obtain ⟨filteredLux, brightenDelta, darkenDelta, heq, hfiltered, hbrighten, hdarken⟩ :=
    reading_step h.tracks.aligned hsmooth
  obtain rfl := Option.some.inj (heq.symm.trans ht)
  refine ⟨htracks, ?_, ?_, ?_⟩
  · change ∃ x ∈ filteredLux.toRat, 0 ≤ x
    rcases hfiltered with rfl | rfl
    · exact h.filteredLux
    · exact hmeasures.1
  · exact hbrighten.elim (fun hsame => hsame.symm ▸ h.brightenDelta) id
  · exact hdarken.elim (fun hsame => hsame.symm ▸ h.darkenDelta) id

theorem measured_step (h : s.Measured mode) {call : LuxCall Single} (hcall : s.MeasuresInOrder call)
    (ht : s.step call = some t) : t.Measured mode := by
  cases call with
  | isNeedUpdateBrightness lux currentTime => exact measured_reading h hcall ht
  | setLux lux currentTime =>
    rw [step_setLux] at ht
    exact measured_reading h hcall ht
  | clearLuxData =>
    have htracks := tracks_step h.tracks hcall.1 trivial ht
    obtain rfl := Option.some.inj ht
    exact ⟨htracks, h.filteredLux, h.brightenDelta, h.darkenDelta⟩

theorem measured_start (hmode : modeArray.lookup "DefaultMode" = some mode) :
    (start modeArray).Measured mode := by
  have hzero : ∃ x ∈ (float 0 : Single).toRat, 0 ≤ x := by decide +kernel
  have hdeltas : (float 0 : Single) ≤ float 120 ∧ (float 0 : Single) ≤ float 110 := by
    decide +kernel
  exact ⟨tracks_start hmode, hzero, hdeltas.1, hdeltas.2⟩

theorem keepsHysteresis (h : s.Measured mode) {call : LuxCall Single}
    (hcall : s.MeasuresInOrder call)
    (hpositive : 0 < mode.brightenDebounceTime ∧ 0 < mode.darkenDebounceTime) :
    s.KeepsHysteresis call := by
  obtain ⟨hclock, hmeasures⟩ := hcall
  cases call with
  | isNeedUpdateBrightness lux currentTime =>
    intro hfirst answer hanswer hchange
    obtain ⟨answer', hanswer', hdecides, hvalue⟩ :=
      answer_spec h.tracks.aligned hmeasures.notNegative
    obtain rfl := Option.some.inj (hanswer.symm.trans hanswer')
    rw [hdecides, decides_iff h.tracks lux hclock hfirst hpositive.1 hpositive.2] at hchange
    obtain ⟨hnumber, hbrighten, hdarken⟩ := hmeasures
    rw [hvalue]
    rcases hchange with hbrighter | hdarker
    · have hbeyond := (sustained_windowWith h.tracks hclock hbrighter).1
      exact .inl (BinaryFloat.ahead_of_not_sub_lt hnumber h.filteredLux h.brightenDelta hbrighten
        (of_decide_eq_true hbeyond))
    · have hbeyond := (sustained_windowWith h.tracks hclock hdarker).1
      exact .inr (BinaryFloat.ahead_of_not_sub_lt h.filteredLux hnumber h.darkenDelta hdarken
        (of_decide_eq_true hbeyond))
  | setLux lux currentTime => trivial
  | clearLuxData => trivial

def steadyRun : List (LuxCall Single) :=
  [.isNeedUpdateBrightness (float 100) 0, .isNeedUpdateBrightness (float 100) 1]

theorem hysteresis_missed (hmode : modeArray.lookup "DefaultMode" = some mode)
    (hpoints : mode.brightenPoints = [] ∧ mode.darkenPoints = [])
    (hnonpos : mode.brightenDebounceTime ≤ 0 ∨ mode.darkenDebounceTime ≤ 0) :
    Runs.Always step MeasuresInOrder (start modeArray) steadyRun ∧
      ¬ Runs.Always step KeepsHysteresis (start modeArray) steadyRun := by
  have hlux : Valid (float 100) := by decide +kernel
  obtain ⟨s, hs, hsclock, hsearly⟩ := early_after_first hmode hpoints hlux
  have hclock : ∀ c ∈ s.clock, c ≤ (1 : ℤ) := by simp [hsclock]
  obtain ⟨hsmooth, _⟩ := hsearly.smoothLux_eq (by simp) hlux 1
  constructor
  · refine ⟨⟨by simp [ClockForward, start], ?_⟩, fun s' hs' => ?_⟩
    · rw [Measures, ((early_start hmode).smoothLux_eq (by simp) hlux 0).1]
      change (∃ x ∈ (float 100 : Single).toRat, 0 ≤ x) ∧
        ¬ BinaryFloat.RoundsUp (float 120) (float 100 : Single) (float 0) ∧
        ¬ BinaryFloat.RoundsUp (float 110) (float 0 : Single) (float 100)
      decide +kernel
    · obtain rfl := Option.some.inj (hs.symm.trans hs')
      refine ⟨⟨hclock, ?_⟩, fun _ _ => trivial⟩
      rw [Measures, hsmooth, hsearly.filteredLux_eq, hsearly.brightenDelta, hsearly.darkenDelta]
      decide +kernel
  · intro hkeeps
    obtain ⟨answer, hanswer, hdecides, hvalue⟩ :=
      answer_spec hsearly.tracks.aligned (hsearly.notNegative (by simp) hlux 1)
    rw [decides_of_nonpos hsearly.tracks (float 100) hclock hnonpos] at hdecides
    have hbeyond := (hkeeps.2 s hs).1 (by simp [hsearly.smoothed_eq]) answer hanswer hdecides
    rw [hvalue, hsmooth, ReachesBrighten, ReachesDarken, hsearly.filteredLux_eq,
      hsearly.brightenDelta, hsearly.darkenDelta] at hbeyond
    revert hbeyond
    decide +kernel

def bareDocument (brightenDebounceTime darkenDebounceTime : ℤ) : CJson :=
  .object [("thresholdMode", .array [.object [("modeName", .string "DefaultMode"),
    ("brightenDebounceTime", .number brightenDebounceTime),
    ("darkenDebounceTime", .number darkenDebounceTime)]])]

def bareText (brightenDebounceTime darkenDebounceTime : ℤ) : String :=
  "\x7b\"thresholdMode\": [\x7b\"modeName\": \"DefaultMode\", \"brightenDebounceTime\": " ++
    toString brightenDebounceTime ++ ", \"darkenDebounceTime\": " ++
    toString darkenDebounceTime ++ "\x7d]\x7d"

theorem configured_bareDocument {b d : ℤ}
    (hfile : cJsonParse fileContent = some (bareDocument b d)) :
    (luxThresholdConfig cJsonParse fileContent : LuxThresholdData Single) =
      ⟨[("DefaultMode", ⟨valueint b, valueint d, [], []⟩)], false, [], []⟩ := by
  rw [luxThresholdConfig, parseConfigJsonRoot, hfile]
  rfl

/-- Hysteresis is kept in every run of every file with these debounce times in which no reading is
measured wrong, if and only if both times are positive. A time that is absent from the file counts
as -1. -/
theorem hysteresis_kept_iff {b d : ℤ} (hb : INT_MIN ≤ b ∧ b ≤ INT_MAX)
    (hd : INT_MIN ≤ d ∧ d ≤ INT_MAX) {text : String}
    (hfile : cJsonParse text = some (bareDocument b d)) :
    (∀ fileContent (mode : LuxThresholdMode Single),
      (luxThresholdConfig cJsonParse fileContent).modeArray.lookup "DefaultMode" = some mode →
      mode.brightenDebounceTime = b → mode.darkenDebounceTime = d →
      ∀ calls, Runs.Always step MeasuresInOrder (configured cJsonParse fileContent) calls →
        Runs.Always step KeepsHysteresis (configured cJsonParse fileContent) calls) ↔
      0 < b ∧ 0 < d := by
  constructor
  · intro hkeeps
    by_contra hnot
    have hmode : (luxThresholdConfig cJsonParse text : LuxThresholdData Single).modeArray.lookup
        "DefaultMode" = some ⟨b, d, [], []⟩ := by
      rw [configured_bareDocument hfile, valueint_intCast hb, valueint_intCast hd]
      rfl
    have hnonpos : b ≤ 0 ∨ d ≤ 0 := by omega
    obtain ⟨hclock, hmissed⟩ := hysteresis_missed hmode ⟨rfl, rfl⟩ hnonpos
    exact hmissed (hkeeps text _ hmode rfl rfl _ hclock)
  · rintro hpositive fileContent mode hmode rfl rfl calls hclock
    exact Runs.always_of_invariant (fun _ _ _ h hc ht => measured_step h hc ht)
      (fun _ _ h hc => keepsHysteresis h hc hpositive) (measured_start hmode) hclock

theorem hysteresis_kept_iff_default :
    (∀ fileContent (mode : LuxThresholdMode Single),
      (luxThresholdConfig (parsesOnly (bareText 1200 1500) (bareDocument 1200 1500))
        fileContent).modeArray.lookup "DefaultMode" = some mode →
      mode.brightenDebounceTime = 1200 → mode.darkenDebounceTime = 1500 →
      ∀ calls, Runs.Always step MeasuresInOrder
          (configured (parsesOnly (bareText 1200 1500) (bareDocument 1200 1500)) fileContent)
          calls →
        Runs.Always step KeepsHysteresis
          (configured (parsesOnly (bareText 1200 1500) (bareDocument 1200 1500)) fileContent)
          calls) ↔
      (0 : ℤ) < 1200 ∧ (0 : ℤ) < 1500 :=
  hysteresis_kept_iff (by decide) (by decide) (if_pos rfl)

/-- A file that sets the time of brightening to 0 makes a change of every reading. -/
theorem hysteresis_bypassed :
    Runs.Always step MeasuresInOrder
        (configured (parsesOnly (bareText 0 1500) (bareDocument 0 1500)) (bareText 0 1500))
        steadyRun ∧
      ¬ Runs.Always step KeepsHysteresis
        (configured (parsesOnly (bareText 0 1500) (bareDocument 0 1500)) (bareText 0 1500))
        steadyRun := by
  rw [configured, configured_bareDocument (if_pos rfl)]
  exact hysteresis_missed rfl ⟨rfl, rfl⟩ (.inl (by decide))

end LuxTrace

end DisplayPowerMgr
