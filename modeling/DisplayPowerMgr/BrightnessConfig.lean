import DisplayPowerMgr.CalculationManager
import DisplayPowerMgr.ConfigParserBase
import DisplayPowerMgr.Library.Tables

/-! `BrightnessConfigParser`: from the text of the configuration file to the display and the sensor
that belong to a display mode and to a fold status. -/
namespace DisplayPowerMgr

open CJson

namespace BrightnessConfig

/-- `ScreenData` as a file gives it, with `int`s that need not be the id of anything. -/
structure ScreenData where
  displayId : ℤ := 0
  sensorId : ℤ := 0
  deriving DecidableEq, Repr

structure Data where
  displayModeMap : List (ℤ × ScreenData) := [(0, ⟨0, 16⟩), (1, ⟨0, 16⟩), (2, ⟨5, 5⟩)]
  foldStatusModeMap : List (ℤ × ScreenData) :=
    [(0, ⟨0, 16⟩), (1, ⟨0, 16⟩), (2, ⟨5, 5⟩), (3, ⟨0, 16⟩)]
  deriving DecidableEq, Repr

namespace Data

def DEFAULT_DISPLAY_ID : ℤ := 0
def DEFAULT_SENSOR_ID : ℤ := 5

variable (data : Data)

def getDisplayIdWithDisplayMode (displayMode : ℤ) : ℤ :=
  ((data.displayModeMap.lookup displayMode).map ScreenData.displayId).getD DEFAULT_DISPLAY_ID

def getSensorIdWithDisplayMode (displayMode : ℤ) : ℤ :=
  ((data.displayModeMap.lookup displayMode).map ScreenData.sensorId).getD DEFAULT_SENSOR_ID

def getDisplayIdWithFoldstatus (foldStatus : ℤ) : ℤ :=
  ((data.foldStatusModeMap.lookup foldStatus).map ScreenData.displayId).getD DEFAULT_DISPLAY_ID

def getSensorIdWithFoldstatus (foldStatus : ℤ) : ℤ :=
  ((data.foldStatusModeMap.lookup foldStatus).map ScreenData.sensorId).getD DEFAULT_SENSOR_ID

end Data

/-- A node that is not a number leaves the 0 that the variable starts with. -/
def intOf (item : CJson) (name : String) : ℤ :=
  match validJsonNumber (item.getObjectItemCaseSensitive name) with
  | some valuedouble => valueint valuedouble
  | none => 0

def screenDataOf (item : CJson) : ScreenData where
  displayId := intOf item "displayId"
  sensorId := intOf item "sensorId"

def screenEntry (paramName : String) (item : CJson) : Option (ℤ × ScreenData) :=
  if item.isObject then some (intOf item paramName, screenDataOf item) else none

/-- The map is cleared first, whatever the file holds. -/
def parseScreenData (root : CJson) (name paramName : String) : List (ℤ × ScreenData) :=
  match validJsonArray (root.getObjectItemCaseSensitive name) with
  | none => []
  | some items => Tables.assignAll (screenEntry paramName) [] items

/-- `cJsonParse` is cJSON's parser, without an answer for a text that is not JSON. -/
def parseConfigJsonRoot (cJsonParse : String → Option CJson) (fileContent : String) (data : Data) :
    Data × Bool :=
  match cJsonParse fileContent with
  | none => (data, false)
  | some root =>
    if !root.isObject then (data, false)
    else
      ({ displayModeMap := parseScreenData root "displayModeData" "displayMode"
         foldStatusModeMap := parseScreenData root "foldStatus" "foldStatus" }, true)

/-- What `ConfigParse::Initialize` leaves, whatever the parser answered. -/
def screenConfig (cJsonParse : String → Option CJson) (fileContent : String) : Data :=
  (parseConfigJsonRoot cJsonParse fileContent {}).1

def itemOf (paramName : String) (p : ℤ × ScreenData) : CJson :=
  .object [(paramName, .number p.1), ("displayId", .number p.2.displayId),
    ("sensorId", .number p.2.sensorId)]

def documentOf (data : Data) : CJson :=
  .object [("displayModeData", .array (data.displayModeMap.map (itemOf "displayMode"))),
    ("foldStatus", .array (data.foldStatusModeMap.map (itemOf "foldStatus")))]

def IsInt (n : ℤ) : Prop := INT_MIN ≤ n ∧ n ≤ INT_MAX

instance (n : ℤ) : Decidable (IsInt n) :=
  inferInstanceAs (Decidable (INT_MIN ≤ n ∧ n ≤ INT_MAX))

/-- One entry for each mode, of `int`s. -/
structure Writable (table : List (ℤ × ScreenData)) : Prop where
  keys : (table.map Prod.fst).Nodup
  ints : ∀ p ∈ table, IsInt p.1 ∧ IsInt p.2.displayId ∧ IsInt p.2.sensorId

theorem intOf_number {items : List (String × CJson)} {name : String} {n : ℤ}
    (hitem : items.lookup name = some (.number n)) (hn : IsInt n) :
    intOf (.object items) name = n := by
  rw [intOf, getObjectItemCaseSensitive, hitem]
  exact valueint_intCast hn

theorem screenEntry_itemOf {paramName : String} (hdisplay : paramName ≠ "displayId")
    (hsensor : paramName ≠ "sensorId") {p : ℤ × ScreenData}
    (hp : IsInt p.1 ∧ IsInt p.2.displayId ∧ IsInt p.2.sensorId) :
    screenEntry paramName (itemOf paramName p) = some p := by
  obtain ⟨hmode, hid, hsensorId⟩ := hp
  have hkey : intOf (itemOf paramName p) paramName = p.1 :=
    intOf_number List.lookup_cons_self hmode
  have hdisplayId : intOf (itemOf paramName p) "displayId" = p.2.displayId := by
    apply intOf_number _ hid
    have hne : ("displayId" == paramName) = false := beq_false_of_ne hdisplay.symm
    rw [List.lookup_cons, hne]
    rfl
  have hsensorOf : intOf (itemOf paramName p) "sensorId" = p.2.sensorId := by
    apply intOf_number _ hsensorId
    have hne : ("sensorId" == paramName) = false := beq_false_of_ne hsensor.symm
    rw [List.lookup_cons, hne]
    rfl
  have hobject : (itemOf paramName p).isObject = true := rfl
  rw [screenEntry, if_pos hobject, screenDataOf, hkey, hdisplayId, hsensorOf]

theorem lookup_written {root : CJson} {name paramName : String} {table : List (ℤ × ScreenData)}
    (hroot : root.getObjectItemCaseSensitive name = some (.array (table.map (itemOf paramName))))
    (hdisplay : paramName ≠ "displayId") (hsensor : paramName ≠ "sensorId")
    (h : Writable table) (mode : ℤ) :
    (parseScreenData root name paramName).lookup mode = table.lookup mode := by
  rw [parseScreenData, validJsonArray_eq_some.mpr hroot]
  have hread := Tables.lookup_assignAll_map
    (fun p hp => screenEntry_itemOf hdisplay hsensor (h.ints p hp)) h.keys mode []
  rw [List.lookup_nil, Option.or_none] at hread
  exact hread

def ofScreenData (screen : DisplayPowerMgr.ScreenData) : ScreenData :=
  ⟨screen.displayId, screen.sensorId⟩

def ofScreenConfig (c : ScreenConfig) : Data where
  displayModeMap := c.displayModeMap.map fun p => ((p.1 : ℤ), ofScreenData p.2)
  foldStatusModeMap := c.foldStatusModeMap.map fun p => ((p.1 : ℤ), ofScreenData p.2)

theorem ofScreenConfig_builtIn : ofScreenConfig {} = {} := by
  decide

theorem lookup_ofScreenData (table : List (ℕ × DisplayPowerMgr.ScreenData)) (mode : ℕ) :
    (table.map fun p => ((p.1 : ℤ), ofScreenData p.2)).lookup (mode : ℤ) =
      (table.lookup mode).map ofScreenData := by
  induction table with
  | nil => rfl
  | cons p table ih =>
    rw [List.map_cons, List.lookup_cons, List.lookup_cons, ih]
    have hkey : ((mode : ℤ) == (p.1 : ℤ)) = (mode == p.1) := by
      rw [Bool.eq_iff_iff, beq_iff_eq, beq_iff_eq]
      exact Nat.cast_inj
    rw [hkey]
    cases mode == p.1 <;> rfl

structure WritableScreens (c : ScreenConfig) : Prop where
  displayModes : Writable (ofScreenConfig c).displayModeMap
  foldStatuses : Writable (ofScreenConfig c).foldStatusModeMap

theorem written_config_read_back {c : ScreenConfig} (h : WritableScreens c)
    {cJsonParse : String → Option CJson} {fileContent : String}
    (hfile : cJsonParse fileContent = some (documentOf (ofScreenConfig c)))
    (curve : BrightnessCalculationCurve) (hcurve : curve.screenConfig = c) (mode : ℕ) :
    (screenConfig cJsonParse fileContent).getDisplayIdWithDisplayMode mode =
        curve.getDisplayIdWithDisplayMode mode ∧
      (screenConfig cJsonParse fileContent).getSensorIdWithDisplayMode mode =
        curve.getSensorIdWithDisplayMode mode ∧
      (screenConfig cJsonParse fileContent).getDisplayIdWithFoldstatus mode =
        curve.getDisplayIdWithFoldstatus mode ∧
      (screenConfig cJsonParse fileContent).getSensorIdWithFoldstatus mode =
        curve.getSensorIdWithFoldstatus mode := by
  subst hcurve
  have hdata : screenConfig cJsonParse fileContent =
      ⟨parseScreenData (documentOf (ofScreenConfig curve.screenConfig)) "displayModeData"
        "displayMode",
        parseScreenData (documentOf (ofScreenConfig curve.screenConfig)) "foldStatus"
          "foldStatus"⟩ := by
    simp [screenConfig, parseConfigJsonRoot, hfile, documentOf, isObject]
  have hmode : (parseScreenData (documentOf (ofScreenConfig curve.screenConfig)) "displayModeData"
      "displayMode").lookup (mode : ℤ) =
        (curve.screenConfig.displayModeMap.lookup mode).map ofScreenData := by
    rw [lookup_written rfl (by decide) (by decide) h.displayModes]
    exact lookup_ofScreenData _ mode
  have hfold : (parseScreenData (documentOf (ofScreenConfig curve.screenConfig)) "foldStatus"
      "foldStatus").lookup (mode : ℤ) =
        (curve.screenConfig.foldStatusModeMap.lookup mode).map ofScreenData := by
    rw [lookup_written rfl (by decide) (by decide) h.foldStatuses]
    exact lookup_ofScreenData _ mode
  rw [hdata]
  refine ⟨?_, ?_, ?_, ?_⟩
  · rw [Data.getDisplayIdWithDisplayMode, hmode,
      BrightnessCalculationCurve.getDisplayIdWithDisplayMode]
    cases curve.screenConfig.displayModeMap.lookup mode <;> rfl
  · rw [Data.getSensorIdWithDisplayMode, hmode,
      BrightnessCalculationCurve.getSensorIdWithDisplayMode]
    cases curve.screenConfig.displayModeMap.lookup mode <;> rfl
  · rw [Data.getDisplayIdWithFoldstatus, hfold,
      BrightnessCalculationCurve.getDisplayIdWithFoldstatus]
    cases curve.screenConfig.foldStatusModeMap.lookup mode <;> rfl
  · rw [Data.getSensorIdWithFoldstatus, hfold,
      BrightnessCalculationCurve.getSensorIdWithFoldstatus]
    cases curve.screenConfig.foldStatusModeMap.lookup mode <;> rfl

def twoScreensText : String :=
  "\x7b\"displayModeData\": [\x7b\"displayMode\": 2, \"displayId\": 5, \"sensorId\": 5\x7d], " ++
    "\"foldStatus\": [\x7b\"foldStatus\": 2, \"displayId\": 5, \"sensorId\": 16\x7d]\x7d"

def twoScreens : ScreenConfig := ⟨[(2, ⟨5, 5⟩)], [(2, ⟨5, 16⟩)]⟩

def twoScreensParse (fileContent : String) : Option CJson :=
  if fileContent = twoScreensText then some (documentOf (ofScreenConfig twoScreens)) else none

theorem two_screens_read_back :
    (screenConfig twoScreensParse twoScreensText).getDisplayIdWithDisplayMode (2 : ℕ) = 5 ∧
      (screenConfig twoScreensParse twoScreensText).getSensorIdWithDisplayMode (2 : ℕ) = 5 ∧
      (screenConfig twoScreensParse twoScreensText).getDisplayIdWithFoldstatus (2 : ℕ) = 5 ∧
      (screenConfig twoScreensParse twoScreensText).getSensorIdWithFoldstatus (2 : ℕ) = 16 := by
  have hints : IsInt 2 ∧ IsInt 5 ∧ IsInt 16 := by decide
  have hwritable : WritableScreens twoScreens := by
    refine ⟨⟨by decide, ?_⟩, ⟨by decide, ?_⟩⟩
    · intro p hp
      obtain rfl := List.mem_singleton.mp hp
      exact ⟨hints.1, hints.2.1, hints.2.1⟩
    · intro p hp
      obtain rfl := List.mem_singleton.mp hp
      exact hints
  have hfile : twoScreensParse twoScreensText = some (documentOf (ofScreenConfig twoScreens)) :=
    if_pos rfl
  exact written_config_read_back hwritable hfile { screenConfig := twoScreens } rfl 2

end BrightnessConfig

end DisplayPowerMgr
