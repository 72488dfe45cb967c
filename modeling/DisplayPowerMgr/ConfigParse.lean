import DisplayPowerMgr.BrightnessConfig
import DisplayPowerMgr.CalculationConfig
import DisplayPowerMgr.LuxThresholdConfig

/-! `ConfigParse` and `LuxFilterConfigParser`: which files the configuration is read from, when, and
which of them the brightness service looks at. -/
namespace DisplayPowerMgr

open CJson

structure LuxFilterData where
  filterNoFilterNum : ℤ := -1
  filterNum : ℤ := -1
  filterMaxFuncLuxNum : ℤ := -1
  filterAlpha : Single := float (-1)
  filterLuxTh : ℤ := -1
  deriving DecidableEq

namespace LuxFilterConfigParser

def setDefault (data : List (String × LuxFilterData)) : List (String × LuxFilterData) :=
  Tables.insert data "meanFilter" ⟨7, 5, -1, float (-1), -1⟩

/-- A number that is missing keeps the -1 of the data. -/
def intNode (item : CJson) (name : String) : ℤ :=
  match validJsonNumber (item.getObjectItemCaseSensitive name) with
  | some valuedouble => valueint valuedouble
  | none => -1

def luxFilterParseConfigParams (item : CJson) : LuxFilterData where
  filterNoFilterNum := intNode item "filterNoFilterNum"
  filterNum := intNode item "filterNum"
  filterMaxFuncLuxNum := intNode item "filterMaxFuncLuxNum"
  filterAlpha :=
    (validJsonFloat (item.getObjectItemCaseSensitive "filterAlpha")).getD (float (-1))
  filterLuxTh := intNode item "filterLuxTh"

/-- What an item of the array inserts: nothing without a name. -/
def filterEntry (item : CJson) : Option (String × LuxFilterData) :=
  if item.isObject then
    (validJsonStringAndNoEmpty (item.getObjectItemCaseSensitive "filterName")).map fun name =>
      (name, luxFilterParseConfigParams item)
  else none

def parseConfigJsonRoot (cJsonParse : String → Option CJson) (fileContent : String)
    (data : List (String × LuxFilterData)) : List (String × LuxFilterData) × Bool :=
  match cJsonParse fileContent with
  | none => (setDefault data, false)
  | some root =>
    match validJsonArray (some root) with
    | none => (data, false)
    | some items => (Tables.insertAll filterEntry data items, true)

def luxFilterConfig (cJsonParse : String → Option CJson) (fileContent : String) :
    List (String × LuxFilterData) :=
  (parseConfigJsonRoot cJsonParse fileContent []).1

/-- The lookup with `[]` inserts the data of -1 where there is none. -/
def getFilterNum (data : List (String × LuxFilterData)) (filterName : String) : ℤ :=
  ((data.lookup filterName).getD {}).filterNum

def getNoFilterNum (data : List (String × LuxFilterData)) (filterName : String) : ℤ :=
  ((data.lookup filterName).getD {}).filterNoFilterNum

end LuxFilterConfigParser

abbrev DISPLAY_ID_MAX : ℕ := 5

def CONFIG_PATH_FOR_ROOT : String := "/sys_prod/etc/display/"

def CONFIG_PATH_TYP : String := ".json"

def CONFIG_PATHS : Fin DISPLAY_ID_MAX → String
  | 0 => "brightness_config/"
  | 1 => "full/brightness_config/"
  | 2 => "brightness_config/"
  | 3 => "sub/brightness_config/"
  | 4 => "brightness_config/"

structure ConfigInfo where
  panelName : String := ""
  panelVersion : String := ""
  deriving DecidableEq, Repr

structure ConfigParserBase where
  isInitialized : Bool := false
  configInfo : List (Fin DISPLAY_ID_MAX × ConfigInfo) := []
  deriving DecidableEq, Repr

namespace ConfigParserBase

def initializeInfo (b : ConfigParserBase) : ConfigParserBase :=
  if b.isInitialized then b
  else
    { isInitialized := true
      configInfo := Tables.assignAll (fun displayId => some (displayId, {})) b.configInfo
        (List.finRange DISPLAY_ID_MAX) }

def defaultPath (displayId : Fin DISPLAY_ID_MAX) (configName : String) : String :=
  CONFIG_PATH_FOR_ROOT ++ CONFIG_PATHS displayId ++ configName ++ CONFIG_PATH_TYP

/-- A path with the version of the panel that cannot be read keeps its ending, and the next one is
put behind it. -/
def loadConfigPath (b : ConfigParserBase) (access : String → Bool) (displayId : Fin DISPLAY_ID_MAX)
    (configName : String) : String :=
  let configPath := CONFIG_PATH_FOR_ROOT ++ CONFIG_PATHS displayId ++ configName
  match b.configInfo.lookup displayId with
  | none => configPath ++ CONFIG_PATH_TYP
  | some configInfo =>
    if configInfo.panelName = "" then configPath ++ CONFIG_PATH_TYP
    else
      let configPath := configPath ++ "_" ++ configInfo.panelName
      let versionPath :=
        if configInfo.panelVersion = "" then configPath
        else configPath ++ "_" ++ configInfo.panelVersion ++ CONFIG_PATH_TYP
      if configInfo.panelVersion ≠ "" ∧ access versionPath = true then versionPath
      else if access (versionPath ++ CONFIG_PATH_TYP) then versionPath ++ CONFIG_PATH_TYP
      else defaultPath displayId configName

/-- A file that cannot be opened reads as the empty text. -/
def loadConfigRoot (b : ConfigParserBase) (files : String → Option String)
    (displayId : Fin DISPLAY_ID_MAX) (configName : String) : String :=
  (files (b.loadConfigPath (fun path => (files path).isSome) displayId configName)).getD ""

def Unnamed (b : ConfigParserBase) : Prop :=
  ∀ displayId, ∀ configInfo ∈ b.configInfo.lookup displayId, configInfo.panelName = ""

theorem loadConfigRoot_unnamed {b : ConfigParserBase} (h : b.Unnamed)
    (files : String → Option String) (displayId : Fin DISPLAY_ID_MAX) (configName : String) :
    b.loadConfigRoot files displayId configName =
      (files (defaultPath displayId configName)).getD "" := by
  rw [loadConfigRoot, loadConfigPath]
  cases hinfo : b.configInfo.lookup displayId with
  | none => rfl
  | some configInfo =>
    have hname : configInfo.panelName = "" := h displayId configInfo hinfo
    simp only [hname, if_true]
    rfl

theorem unnamed_start : ({} : ConfigParserBase).Unnamed := by
  intro displayId configInfo hinfo
  cases hinfo

theorem Unnamed.initializeInfo {b : ConfigParserBase} (h : b.Unnamed) :
    b.initializeInfo.Unnamed := by
  intro displayId configInfo hinfo
  rw [ConfigParserBase.initializeInfo] at hinfo
  split at hinfo
  · exact h displayId configInfo hinfo
  · have hnamed : ∀ displayIds : List (Fin DISPLAY_ID_MAX), ∀ configInfo,
        displayIds.findSome? (Tables.valueFor (fun id => some (id, ({} : ConfigInfo))) displayId) =
          some configInfo → configInfo.panelName = "" := by
      intro displayIds configInfo hfind
      obtain ⟨id, -, hid⟩ := List.exists_of_findSome?_eq_some hfind
      rw [Tables.valueFor] at hid
      split at hid
      · cases hid
      · rename_i heq
        obtain ⟨rfl, rfl⟩ := Prod.mk.inj (Option.some.inj heq)
        split at hid
        · exact Option.some.inj hid ▸ rfl
        · cases hid
    rw [Tables.lookup_assignAll, Option.mem_def, Option.or_eq_some_iff] at hinfo
    rcases hinfo with hnew | ⟨-, hold⟩
    · exact hnamed _ configInfo hnew
    · exact h displayId configInfo hold

end ConfigParserBase

structure Config where
  calculationConfig : CalculationConfigData Single := {}
  luxFilterConfig : List (String × LuxFilterData) := []
  luxThresholdConfig : LuxThresholdData Single := {}

structure ConfigParse where
  isInitialized : Bool := false
  config : List (Fin DISPLAY_ID_MAX × Config) := []
  screenConfig : BrightnessConfig.Data := {}

namespace ConfigParse

def parseConfig (cJsonParse : String → Option CJson) (base : ConfigParserBase)
    (files : String → Option String) (displayId : Fin DISPLAY_ID_MAX) : Config where
  calculationConfig := CalculationConfigParser.calculationConfig cJsonParse
    (base.loadConfigRoot files displayId "brightness_curve_config")
  luxFilterConfig := LuxFilterConfigParser.luxFilterConfig cJsonParse
    (base.loadConfigRoot files displayId "brightness_lux_filter_method_config")
  luxThresholdConfig := LuxThresholdConfigParser.luxThresholdConfig cJsonParse
    (base.loadConfigRoot files displayId "brightness_lux_threshold_config")

def initializeConfig (p : ConfigParse) (cJsonParse : String → Option CJson)
    (base : ConfigParserBase) (files : String → Option String) : ConfigParse :=
  if p.isInitialized then p
  else
    { isInitialized := true
      config := Tables.assignAll
        (fun displayId => some (displayId, parseConfig cJsonParse base files displayId)) p.config
        (List.finRange DISPLAY_ID_MAX)
      screenConfig := (BrightnessConfig.parseConfigJsonRoot cJsonParse
        (base.loadConfigRoot files 0 "brightness_config") p.screenConfig).1 }

end ConfigParse

/-- The configuration that the brightness service holds, of its curve and of its lux manager, with
the flag of `call_once`. -/
structure ServiceConfig where
  isInitCalled : Bool := false
  curveConfig : Config := {}
  screenConfig : BrightnessConfig.Data := {}
  brightnessConfigData : Config := {}

/-- The service and the parser beside the files of the device. -/
structure StartUp where
  files : String → Option String
  base : ConfigParserBase := {}
  configParse : ConfigParse := {}
  service : ServiceConfig := {}

/-- The service is started at boot and again when the settings are there, and files may change. -/
inductive StartUpEvent where
  | init
  | baseInit
  | filesChanged (files : String → Option String)

namespace StartUp

/-- Both `InitParameters` read the entry of display 0. -/
def initParameters (s : StartUp) : StartUp :=
  let config := s.configParse.config.lookup 0
  { s with service := { s.service with
      screenConfig := s.configParse.screenConfig
      curveConfig := config.getD s.service.curveConfig
      brightnessConfigData := config.getD s.service.brightnessConfigData } }

/-- `BrightnessService::Init`, as far as the configuration goes. -/
def init (s : StartUp) (cJsonParse : String → Option CJson) : StartUp :=
  if s.service.isInitCalled then s
  else
    { s with
      configParse := s.configParse.initializeConfig cJsonParse s.base s.files
      service := { s.service with isInitCalled := true } }.initParameters

def step (cJsonParse : String → Option CJson) (s : StartUp) : StartUpEvent → StartUp
  | .init => s.init cJsonParse
  | .baseInit => { s with base := s.base.initializeInfo }
  | .filesChanged files => { s with files := files }

def after (cJsonParse : String → Option CJson) (files : String → Option String)
    (events : List StartUpEvent) : StartUp :=
  events.foldl (step cJsonParse) { files := files }

def filesAtStart (files : String → Option String) : List StartUpEvent →
    Option (String → Option String)
  | [] => none
  | .init :: _ => some files
  | .baseInit :: events => filesAtStart files events
  | .filesChanged files :: events => filesAtStart files events

def textOf (files : String → Option String) (configName : String) : String :=
  (files ("/sys_prod/etc/display/brightness_config/" ++ configName ++ ".json")).getD ""

/-- What the service looks at, and the three texts that it comes from. -/
structure ReadFrom (cJsonParse : String → Option CJson) (files : String → Option String)
    (service : ServiceConfig) : Prop where
  points : service.curveConfig.calculationConfig.defaultPoints =
    (CalculationConfigParser.calculationConfig cJsonParse
      (textOf files "brightness_curve_config")).defaultPoints
  screens : service.screenConfig =
    BrightnessConfig.screenConfig cJsonParse (textOf files "brightness_config")
  modes : service.brightnessConfigData.luxThresholdConfig.modeArray =
    (LuxThresholdConfigParser.luxThresholdConfig cJsonParse
      (textOf files "brightness_lux_threshold_config")).modeArray

variable {cJsonParse : String → Option CJson} {s : StartUp}

/-- Before the first start nothing is read. -/
structure Waiting (s : StartUp) : Prop where
  base : s.base.Unnamed
  parse : s.configParse = {}
  service : s.service = {}

theorem loadConfigRoot_main {base : ConfigParserBase} (h : base.Unnamed)
    (files : String → Option String) (configName : String) :
    base.loadConfigRoot files 0 configName = textOf files configName :=
  base.loadConfigRoot_unnamed h files 0 configName

theorem lookup_initializeConfig (base : ConfigParserBase) (files : String → Option String) :
    (({} : ConfigParse).initializeConfig cJsonParse base files).config.lookup 0 =
      some (ConfigParse.parseConfig cJsonParse base files 0) := by
  rfl

theorem Waiting.init (h : s.Waiting) :
    (s.init cJsonParse).service.isInitCalled = true ∧
      ReadFrom cJsonParse s.files (s.init cJsonParse).service := by
  have hcalled : ¬ s.service.isInitCalled = true := by simp [h.service]
  rw [StartUp.init, if_neg hcalled, initParameters, h.parse, h.service]
  refine ⟨rfl, ⟨?_, ?_, ?_⟩⟩
  · rw [lookup_initializeConfig, ← loadConfigRoot_main h.base]
    rfl
  · rw [← loadConfigRoot_main h.base]
    rfl
  · rw [lookup_initializeConfig, ← loadConfigRoot_main h.base]
    rfl

theorem after_started (hcalled : s.service.isInitCalled = true) (events : List StartUpEvent) :
    (events.foldl (step cJsonParse) s).service = s.service := by
  induction events generalizing s with
  | nil => rfl
  | cons e events ih =>
    have hsame : (step cJsonParse s e).service = s.service := by
      cases e with
      | init => rw [step, StartUp.init, if_pos hcalled]
      | baseInit => rfl
      | filesChanged files => rfl
    rw [List.foldl_cons, ih (by rw [hsame]; exact hcalled), hsame]

/-- The first start reads three texts, and nothing else counts: no other file, no later change and
no later start. -/
theorem first_start_reads_three (cJsonParse : String → Option CJson)
    (files : String → Option String) (events : List StartUpEvent) :
    (filesAtStart files events = none → (after cJsonParse files events).service = {}) ∧
      ∀ found, filesAtStart files events = some found →
        ReadFrom cJsonParse found (after cJsonParse files events).service := by
  have hrun : ∀ (events : List StartUpEvent) (s : StartUp), s.Waiting →
      (filesAtStart s.files events = none →
        (events.foldl (step cJsonParse) s).service = {}) ∧
        ∀ found, filesAtStart s.files events = some found →
          ReadFrom cJsonParse found (events.foldl (step cJsonParse) s).service := by
    intro events
    induction events with
    | nil =>
      intro s h
      exact ⟨fun _ => h.service, fun found hfound => absurd hfound (by simp [filesAtStart])⟩
    | cons e events ih =>
      intro s h
      cases e with
      | init =>
        obtain ⟨hcalled, hread⟩ := @Waiting.init cJsonParse s h
        refine ⟨fun hnone => absurd hnone (by simp [filesAtStart]), ?_⟩
        intro found hfound
        obtain rfl := Option.some.inj hfound
        have hkept := @after_started cJsonParse _ hcalled events
        rw [List.foldl_cons, step, hkept]
        exact hread
      | baseInit =>
        exact ih { s with base := s.base.initializeInfo }
          ⟨h.base.initializeInfo, h.parse, h.service⟩
      | filesChanged files => exact ih { s with files := files } ⟨h.base, h.parse, h.service⟩
  exact hrun events { files := files } ⟨ConfigParserBase.unnamed_start, rfl, rfl⟩

/-- A device without the files starts with what the code holds, if cJSON finds no document in the
empty text. -/
theorem ReadFrom.without_files {files : String → Option String} {service : ServiceConfig}
    (h : ReadFrom cJsonParse files service) (hempty : cJsonParse "" = none)
    (hfiles : ∀ path, files path = none) :
    service.curveConfig.calculationConfig.defaultPoints =
        ({} : BrightnessCalculationCurve Single).defaultPoints ∧
      service.screenConfig = BrightnessConfig.ofScreenConfig {} ∧
      service.brightnessConfigData.luxThresholdConfig.modeArray =
        ({} : LightLuxManager Single).modeArray := by
  have htext (configName : String) : textOf files configName = "" := by
    rw [textOf, hfiles]
    rfl
  refine ⟨?_, ?_, ?_⟩
  · rw [h.points, htext, CalculationConfigParser.calculationConfig,
      CalculationConfigParser.parseConfigJsonRoot, hempty]
  · rw [h.screens, htext, BrightnessConfig.screenConfig, BrightnessConfig.parseConfigJsonRoot,
      hempty, BrightnessConfig.ofScreenConfig_builtIn]
  · rw [h.modes, htext, LuxThresholdConfigParser.luxThresholdConfig,
      LuxThresholdConfigParser.parseConfigJsonRoot, hempty]
    rfl

end StartUp

end DisplayPowerMgr
