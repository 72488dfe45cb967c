import DisplayPowerMgr.DisplayPowerInfo

/-! `LightLuxBuffer` and `LightLuxManager`: the ring buffers of sensor readings and the
hysteresis that decides when a reading changes the brightness. Allocations succeed, and `none` is
an uncaught `std::out_of_range` of the mode table. -/
namespace DisplayPowerMgr

variable {F : Type} [FloatArithmetic F]

/-- The two arrays are total functions: only the slots below `capacity` belong to them. -/
structure LightLuxBuffer (F : Type := ℚ) [FloatArithmetic F] where
  bufferData : ℕ → F := fun _ => float 0
  bufferTime : ℕ → ℤ := fun _ => 0
  capacity : ℕ
  startIndex : ℕ := 0
  endIndex : ℕ := 0
  count : ℕ := 0

namespace LightLuxBuffer

def LUX_BUFFER_SIZE_DEFAULT : ℕ := 32
def BUFFER_SIZE_INCREASE : ℕ := 2
def LUX_BUFFER_SIZE_MAX : ℕ := 512

def create (initialCapacity : ℕ) : LightLuxBuffer F :=
  if initialCapacity = 0 || initialCapacity ≥ LUX_BUFFER_SIZE_MAX then
    { capacity := LUX_BUFFER_SIZE_DEFAULT }
  else { capacity := initialCapacity }

/-- The part from `startIndex` on comes first, then the wrapped part. The old length is
still needed by the caller, so `capacity` and `startIndex` are left to it. -/
def copyLuxBuffer (b : LightLuxBuffer F) : LightLuxBuffer F :=
  let length := b.capacity - b.startIndex
  { b with
    bufferData := fun i =>
      if i < length then b.bufferData (b.startIndex + i) else b.bufferData (i - length)
    bufferTime := fun i =>
      if i < length then b.bufferTime (b.startIndex + i) else b.bufferTime (i - length) }

def store (b : LightLuxBuffer F) (next : ℕ) (timestamp : ℤ) (data : F) : LightLuxBuffer F :=
  { b with
    bufferData := Function.update b.bufferData next data
    bufferTime := Function.update b.bufferTime next timestamp
    endIndex := if next + 1 = b.capacity then 0 else next + 1
    count := b.count + 1 }

def push (b : LightLuxBuffer F) (timestamp : ℤ) (data : F) : LightLuxBuffer F :=
  if b.count = b.capacity then
    let newSize := b.capacity * BUFFER_SIZE_INCREASE
    if newSize > LUX_BUFFER_SIZE_MAX then b
    else if b.startIndex ≥ b.capacity then b
    else
      store { b.copyLuxBuffer with capacity := newSize, startIndex := 0 } b.capacity timestamp data
  else b.store b.endIndex timestamp data

def nextStart (b : LightLuxBuffer F) : ℕ :=
  if b.startIndex + 1 ≥ b.capacity then b.startIndex + 1 - b.capacity else b.startIndex + 1

/-- The loop of `Prune`, with at most `fuel` readings dropped. -/
def dropOld (horizon : ℤ) : ℕ → LightLuxBuffer F → LightLuxBuffer F
  | 0, b => b
  | fuel + 1, b =>
    if b.count > 1 then
      if b.bufferTime b.nextStart > horizon then b
      else dropOld horizon fuel { b with startIndex := b.nextStart, count := b.count - 1 }
    else b

/-- Every turn of the loop lowers `count`, so `count` turns are enough. -/
def prune (b : LightLuxBuffer F) (horizon : ℤ) : LightLuxBuffer F :=
  if b.count = 0 then b
  else
    let b := dropOld horizon b.count b
    if b.bufferTime b.startIndex < horizon then
      { b with bufferTime := Function.update b.bufferTime b.startIndex horizon }
    else b

def clear (b : LightLuxBuffer F) : LightLuxBuffer F :=
  { b with startIndex := 0, endIndex := 0, count := 0 }

def offsetOf (b : LightLuxBuffer F) (index : ℕ) : ℕ :=
  if index + b.startIndex ≥ b.capacity then index + b.startIndex - b.capacity
  else index + b.startIndex

def getData (b : LightLuxBuffer F) (index : ℕ) : F :=
  if index ≥ b.count then float 0 else b.bufferData (b.offsetOf index)

def getTime (b : LightLuxBuffer F) (index : ℕ) : ℤ :=
  if index ≥ b.count then 0 else b.bufferTime (b.offsetOf index)

def getSize (b : LightLuxBuffer F) : ℕ := b.count

end LightLuxBuffer

structure LuxThresholdMode (F : Type := ℚ) [FloatArithmetic F] where
  brightenDebounceTime : ℤ := -1
  darkenDebounceTime : ℤ := -1
  brightenPoints : List (PointXy F) := []
  darkenPoints : List (PointXy F) := []
  deriving DecidableEq, Repr

/-- The mode that `SetDefault` inserts when the configuration file cannot be parsed. -/
def defaultLuxThresholdMode : LuxThresholdMode F where
  brightenDebounceTime := 1200
  darkenDebounceTime := 1500
  brightenPoints :=
    [.of 0 5, .of 3 5, .of 5 10, .of 10 20, .of 20 50, .of 30 100, .of 100 300, .of 500 500,
      .of 1000 1000, .of 2000 2000, .of 10000 10000, .of 70000 10000]
  darkenPoints :=
    [.of 0 1, .of 1 1, .of 3 2, .of 10 7, .of 20 15, .of 50 35, .of 100 80, .of 200 170,
      .of 500 350, .of 1000 600, .of 2000 1200, .of 10000 8000, .of 70000 60000]

inductive BrightnessSceneMode where
  | modeDefault | modeGame | modeVideo
  deriving DecidableEq, Repr

def BrightnessSceneMode.scenceLabel : BrightnessSceneMode → String
  | .modeDefault => "DefaultMode"
  | .modeGame => "GameMode"
  | .modeVideo => "VideoMode"

structure LightLuxManager (F : Type := ℚ) [FloatArithmetic F] where
  luxBuffer : LightLuxBuffer F := .create LightLuxBuffer.LUX_BUFFER_SIZE_DEFAULT
  luxBufferFilter : LightLuxBuffer F := .create LightLuxBuffer.LUX_BUFFER_SIZE_DEFAULT
  lux : F := float 0
  filteredLux : F := float 0
  isFirstLux : Bool := false
  smoothedButNotStabledLux : F := float 0
  brightenDelta : F := float 120
  darkenDelta : F := float 110
  currentSceneMode : BrightnessSceneMode := .modeDefault
  modeArray : List (String × LuxThresholdMode F) := [("DefaultMode", defaultLuxThresholdMode)]

namespace LightLuxManager

def LIGHT_LUX_BUFFER_RANGE : ℤ := 10000
def LIGHT_MAX_LUX : ℚ := 40000
def LIGHT_LUX_BUFFER_MIN : ℕ := 5
def INVALID_VALUE : ℤ := -1

def getValidLux (lux : F) : F :=
  let lux := if lux > float LIGHT_MAX_LUX then float LIGHT_MAX_LUX else lux
  if lux < float 0 then float 0 else lux

def updateLuxBuffer (m : LightLuxManager F) (timestamp : ℤ) (lux : F) : LightLuxManager F :=
  { m with
    luxBuffer := (m.luxBuffer.prune (timestamp - LIGHT_LUX_BUFFER_RANGE)).push timestamp lux }

def newestLux (b : LightLuxBuffer F) : List F :=
  (List.range LIGHT_LUX_BUFFER_MIN).map fun k => b.getData (b.getSize - 1 - k)

/-- What the loop of `CalcSmoothLux` makes of the readings it passes, newest first. -/
def meanOfMiddle (last : F) (readings : List F) : F :=
  let luxMin := readings.foldl (fun luxMin lux => if luxMin > lux then lux else luxMin) last
  let luxMax := readings.foldl (fun luxMax lux => if luxMax < lux then lux else luxMax) last
  let sum := readings.foldl (fun sum lux => sum + lux) (float 0)
  (sum - luxMin - luxMax) / float 3

def calcSmoothLux (m : LightLuxManager F) : F :=
  let size := m.luxBuffer.getSize
  if size = 0 then float INVALID_VALUE
  else if size < LIGHT_LUX_BUFFER_MIN then m.luxBuffer.getData (size - 1)
  else meanOfMiddle (m.luxBuffer.getData (size - 1)) (newestLux m.luxBuffer)

/-- `.at` of the mode table throws when the current scene has no mode. -/
def getCurrentModeData (m : LightLuxManager F) : Option (LuxThresholdMode F) :=
  m.modeArray.lookup m.currentSceneMode.scenceLabel

def getBrightenResponseTime (m : LightLuxManager F) : Option ℤ :=
  m.getCurrentModeData.map fun mode =>
    if mode.brightenDebounceTime = INVALID_VALUE then 0 else mode.brightenDebounceTime

def getDarkenResponseTime (m : LightLuxManager F) : Option ℤ :=
  m.getCurrentModeData.map fun mode =>
    if mode.darkenDebounceTime = INVALID_VALUE then 0 else mode.darkenDebounceTime

/-- The loop both `GetNextBrightenTime` and `GetNextDarkenTime` run from the newest sample
back: the time of the earliest sample from which on all are `beyond` the threshold. -/
def earliestValidTime (b : LightLuxBuffer F) (beyond : F → Bool) (earliest : ℤ) : ℕ → ℤ
  | 0 => earliest
  | i + 1 =>
    if beyond (b.getData i) then earliestValidTime b beyond (b.getTime i) i else earliest

def getNextBrightenTime (m : LightLuxManager F) (timestamp : ℤ) : Option ℤ :=
  let size := m.luxBufferFilter.getSize
  if size = 0 then some timestamp
  else do
    let debounceTime ← if size = 1 then some 0 else m.getBrightenResponseTime
    let earliest := earliestValidTime m.luxBufferFilter
      (fun data => ¬ data - m.filteredLux < m.brightenDelta) timestamp size
    return earliest + debounceTime

def getNextDarkenTime (m : LightLuxManager F) (timestamp : ℤ) : Option ℤ :=
  let size := m.luxBufferFilter.getSize
  if size = 0 then some timestamp
  else do
    let debounceTime ← if size = 1 then some 0 else m.getDarkenResponseTime
    let earliest := earliestValidTime m.luxBufferFilter
      (fun data => ¬ m.filteredLux - data < m.darkenDelta) timestamp size
    return earliest + debounceTime

/-- The loop of `CalcDelta` from a point on, with the point before it. -/
def deltaFrom (filteredLux : F) (temp : PointXy F) (delta : F) : List (PointXy F) → F
  | [] => delta
  | it :: points =>
    if filteredLux < it.x then
      if it.x < temp.x || isEqualF it.x temp.x then float 1
      else
        let delta := (it.y - temp.y) / (it.x - temp.x) * (filteredLux - temp.x) + temp.y
        if delta < float 1 then float 1 else delta
    else deltaFrom filteredLux it it.y points

def calcDelta (m : LightLuxManager F) (pointsList : List (PointXy F)) : F :=
  match pointsList with
  | [] => float INVALID_VALUE
  | point :: points => deltaFrom m.filteredLux point (float 0) (point :: points)

def updateParam (m : LightLuxManager F) (lux : F) : Option (LightLuxManager F) := do
  let m := { m with filteredLux := lux }
  let mode ← m.getCurrentModeData
  let delta := m.calcDelta mode.brightenPoints
  let m := if delta ≥ float 0 then { m with brightenDelta := delta } else m
  let delta := m.calcDelta mode.darkenPoints
  return if delta ≥ float 0 then { m with darkenDelta := delta } else m

def isUpdateLuxSuccess (m : LightLuxManager F) (timestamp : ℤ) :
    Option (LightLuxManager F × Bool) :=
  let smoothLux := m.calcSmoothLux
  if smoothLux < float 0 then some (m, false)
  else do
    let m :=
      { m with
        smoothedButNotStabledLux := smoothLux
        isFirstLux := m.luxBuffer.getSize = 1
        luxBufferFilter :=
          (m.luxBufferFilter.prune (timestamp - LIGHT_LUX_BUFFER_RANGE)).push timestamp smoothLux }
    let nextBrightenTime ← m.getNextBrightenTime timestamp
    let nextDarkenTime ← m.getNextDarkenTime timestamp
    if nextBrightenTime ≤ timestamp || nextDarkenTime ≤ timestamp || m.isFirstLux then
      let m ← m.updateParam smoothLux
      return (m, true)
    else return (m, false)

/-- The sensor callback's entry: `currentTime` is what `GetCurrentTimeMillis` answers. -/
def isNeedUpdateBrightness (m : LightLuxManager F) (lux : F) (currentTime : ℤ) :
    Option (LightLuxManager F × Bool) :=
  let validLux := getValidLux lux
  let m := { m with lux := validLux }
  (m.updateLuxBuffer currentTime validLux).isUpdateLuxSuccess currentTime

/-- The same reading, with the answer of `IsUpdateLuxSuccess` left unread. -/
def setLux (m : LightLuxManager F) (lux : F) (currentTime : ℤ) : Option (LightLuxManager F) :=
  let lux := getValidLux lux
  let m := { m with lux := lux }
  ((m.updateLuxBuffer currentTime lux).isUpdateLuxSuccess currentTime).map Prod.fst

def initParameters (m : LightLuxManager F) (modeArray : List (String × LuxThresholdMode F)) :
    LightLuxManager F :=
  { m with modeArray := modeArray }

def getSmoothedLux (m : LightLuxManager F) : F := float (intPart m.filteredLux)

def clearLuxData (m : LightLuxManager F) : LightLuxManager F :=
  { m with luxBuffer := m.luxBuffer.clear, luxBufferFilter := m.luxBufferFilter.clear }

end LightLuxManager

end DisplayPowerMgr
