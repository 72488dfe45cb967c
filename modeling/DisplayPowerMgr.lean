import DisplayPowerMgr.Library.Runs
import DisplayPowerMgr.Library.Tasks
import DisplayPowerMgr.Library.Approach
import DisplayPowerMgr.Library.Edges
import DisplayPowerMgr.Library.Guarded
import DisplayPowerMgr.CalculationManager
import DisplayPowerMgr.LightLuxManager
import DisplayPowerMgr.BrightnessDimming
import DisplayPowerMgr.BrightnessService
import DisplayPowerMgr.BrightnessRuns
import DisplayPowerMgr.BrightnessBounds
import DisplayPowerMgr.BrightnessEffects
import DisplayPowerMgr.BrightnessModes
import DisplayPowerMgr.GradualBrightness
import DisplayPowerMgr.TemporaryBrightness
import DisplayPowerMgr.FirstLuxFallback
import DisplayPowerMgr.ScreenOffSilence
import DisplayPowerMgr.BrightnessTasks
import DisplayPowerMgr.BoostAndOverride
import DisplayPowerMgr.BoostRoundTrip
import DisplayPowerMgr.DimTransparency
import DisplayPowerMgr.AmbientSensorRuns
import DisplayPowerMgr.AutoBrightnessSwitch
import DisplayPowerMgr.AutoBrightnessOff
import DisplayPowerMgr.DimmingThreads
import DisplayPowerMgr.SupersededFades
import DisplayPowerMgr.ScreenController
import DisplayPowerMgr.DisplayPowerMgrService
import DisplayPowerMgr.DisplayPowerRuns
import DisplayPowerMgr.OneDisplay
import DisplayPowerMgr.StaleScreenOff
import DisplayPowerMgr.PanelAgreement
import DisplayPowerMgr.LayersAgreement
import DisplayPowerMgr.LitAtOnce
import DisplayPowerMgr.LastBrightness
import DisplayPowerMgr.SecondaryDisplays
import DisplayPowerMgr.MultiScreen
import DisplayPowerMgr.MultiScreenCalls
import DisplayPowerMgr.MultiScreenProtocol
import DisplayPowerMgr.HalfAppliedChange
import DisplayPowerMgr.MultiScreenIsolation
import DisplayPowerMgr.MultiScreenCallbacks
import DisplayPowerMgr.CallbackRegistry
import DisplayPowerMgr.PowerOffStrategy
import DisplayPowerMgr.CallErrors
import DisplayPowerMgr.Notifications
import DisplayPowerMgr.DelayedRequests
import DisplayPowerMgr.RefusedPowerChange
import DisplayPowerMgr.AdjustBrightness
import DisplayPowerMgr.Library.RingBuffer
import DisplayPowerMgr.Library.Samples
import DisplayPowerMgr.StateCallback
import DisplayPowerMgr.BootBrightness
import DisplayPowerMgr.LightLuxBuffer
import DisplayPowerMgr.LuxRuns
import DisplayPowerMgr.LuxInvariants
import DisplayPowerMgr.LuxDebounce
import DisplayPowerMgr.SustainedLight
import DisplayPowerMgr.ConfigParserBase
import DisplayPowerMgr.LuxThresholdConfig
import DisplayPowerMgr.FilteredLevel
import DisplayPowerMgr.LuxInService
import DisplayPowerMgr.BrightnessCurve
import DisplayPowerMgr.DimmingExecution
import DisplayPowerMgr.OffsetTransfer
import DisplayPowerMgr.AnimatorExecution
import DisplayPowerMgr.SharedAnimatorHandle
import DisplayPowerMgr.BrightnessLimits
import DisplayPowerMgr.CapInEffect
import DisplayPowerMgr.Library.Polyline
import DisplayPowerMgr.Library.Repeating
import DisplayPowerMgr.Library.Strtoul
import DisplayPowerMgr.CalculationConfig
import DisplayPowerMgr.SetBrightnessCommand
import DisplayPowerMgr.SmoothedLux
import DisplayPowerMgr.ThresholdFloor
import DisplayPowerMgr.ClientConnection
import DisplayPowerMgr.Library.Rescale
import DisplayPowerMgr.LevelScale
import DisplayPowerMgr.BrightnessSteps
import DisplayPowerMgr.BrightnessRange
import DisplayPowerMgr.SettledLevel
import DisplayPowerMgr.CapInNits
import DisplayPowerMgr.Library.History
import DisplayPowerMgr.CapTestMode
import DisplayPowerMgr.JsBrightness
import DisplayPowerMgr.Library.Codec
import DisplayPowerMgr.CallbackMessages
import DisplayPowerMgr.BrightnessManagerExt
import DisplayPowerMgr.MultiScreenExt
import DisplayPowerMgr.AdaptiveLevel
import DisplayPowerMgr.Library.Tables
import DisplayPowerMgr.BrightnessConfig
import DisplayPowerMgr.ConfigParse
import DisplayPowerMgr.Library.Refinement
import DisplayPowerMgr.ServiceRequests
import DisplayPowerMgr.ServiceRequestRuns
import DisplayPowerMgr.DispatchCommand
import DisplayPowerMgr.SettingObservers
import DisplayPowerMgr.DimmingWaiters
import DisplayPowerMgr.StoppedBrightness
