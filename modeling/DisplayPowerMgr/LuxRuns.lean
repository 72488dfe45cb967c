import DisplayPowerMgr.LightLuxBuffer
import DisplayPowerMgr.Library.Runs
import DisplayPowerMgr.Library.TrimmedMean

/-! Runs of `LightLuxManager`: readings from either entry and clears, in any order. Unless a
smoothed value is negative, both buffers move in lockstep and a reading is observed in both before
it is decided about. -/
namespace DisplayPowerMgr

open TrimmedMean (mean middle mean_middle length_middle middle_subset exists_le_mean
  exists_mean_le)

variable {F : Type} [FloatArithmetic F]

namespace LightLuxBuffer

variable {b : LightLuxBuffer F} {timestamp : ℤ} {data : F}

def newest (b : LightLuxBuffer F) : List F := (b.entries.map Prod.snd).reverse

theorem newest_eq (b : LightLuxBuffer F) :
    b.newest = (List.range b.count).map fun k => b.getData (b.count - 1 - k) := by
  apply List.ext_getElem
  · simp [newest]
  · intro k hk _
    simp only [newest, List.length_reverse, List.length_map, length_entries] at hk
    simp [newest, entries, getSize, List.getElem_reverse]

theorem WellFormed.newest_prune (h : b.WellFormed) (horizon : ℤ) :
    (b.prune horizon).newest <+: b.newest := by
  rw [newest, newest, (prune_spec h horizon).2.2]
  exact List.reverse_prefix.mpr (Samples.prune_map_snd_suffix horizon b.entries)

theorem WellFormed.newest_push (h : b.WellFormed) (hroom : ¬ b.IsFull) (timestamp : ℤ) (data : F) :
    (b.push timestamp data).newest = data :: b.newest := by
  rw [newest, newest, (push_spec h hroom timestamp data).2.1]
  simp

/-! ## One reading in a buffer -/

def record (b : LightLuxBuffer F) (timestamp : ℤ) (data : F) : LightLuxBuffer F :=
  (b.prune (timestamp - LightLuxManager.LIGHT_LUX_BUFFER_RANGE)).push timestamp data

def NoRoom (b : LightLuxBuffer F) (timestamp : ℤ) : Prop :=
  (b.prune (timestamp - LightLuxManager.LIGHT_LUX_BUFFER_RANGE)).IsFull

instance (b : LightLuxBuffer F) (timestamp : ℤ) : Decidable (b.NoRoom timestamp) :=
  inferInstanceAs (Decidable (IsFull _))

theorem record_full (hfull : b.NoRoom timestamp) :
    b.record timestamp data = b.prune (timestamp - LightLuxManager.LIGHT_LUX_BUFFER_RANGE) :=
  push_full hfull _ _

theorem record_entries (h : b.WellFormed) (timestamp : ℤ) (data : F) :
    (b.record timestamp data).WellFormed ∧ (b.record timestamp data).entries =
      Samples.prune (timestamp - LightLuxManager.LIGHT_LUX_BUFFER_RANGE) b.entries ++
        if b.NoRoom timestamp then [] else [(timestamp, data)] := by
  obtain ⟨hwell, _, hentries⟩ := prune_spec h
    (timestamp - LightLuxManager.LIGHT_LUX_BUFFER_RANGE)
  by_cases hfull : b.NoRoom timestamp
  · rw [record_full hfull, if_pos hfull, List.append_nil]
    exact ⟨hwell, hentries⟩
  · obtain ⟨hpushed, hpush, _⟩ := push_spec hwell hfull timestamp data
    rw [if_neg hfull, ← hentries]
    exact ⟨hpushed, hpush⟩

theorem record_count_ne_zero (h : b.WellFormed) (timestamp : ℤ) (data : F) :
    (b.record timestamp data).count ≠ 0 := by
  intro hzero
  by_cases hfull : b.NoRoom timestamp
  · rw [record_full hfull] at hzero
    have hmax := hfull.2
    rw [← hfull.1, hzero] at hmax
    simp [LUX_BUFFER_SIZE_MAX] at hmax
  · have hentries := (record_entries h timestamp data).2
    rw [if_neg hfull] at hentries
    have hlength := congrArg List.length hentries
    simp [hzero] at hlength

def sizes : List ℕ := [32, 64, 128, 256, 512]

theorem record_capacity (h : b.WellFormed) (hsize : b.capacity ∈ sizes) (timestamp : ℤ)
    (data : F) : (b.record timestamp data).capacity ∈ sizes := by
  obtain ⟨hwell, hcap, _⟩ := prune_spec h (timestamp - LightLuxManager.LIGHT_LUX_BUFFER_RANGE)
  by_cases hfull : b.NoRoom timestamp
  · rw [record_full hfull, hcap]
    exact hsize
  · rw [record, (push_spec hwell hfull timestamp data).2.2, hcap]
    have hgrows : (b.prune (timestamp - LightLuxManager.LIGHT_LUX_BUFFER_RANGE)).count =
        b.capacity → b.capacity * BUFFER_SIZE_INCREASE ≤ LUX_BUFFER_SIZE_MAX := by
      intro hcount
      apply Nat.le_of_not_lt
      intro hmax
      exact hfull ⟨hcount.trans hcap.symm, by rw [hcap]; exact hmax⟩
    split
    · have hgrow := hgrows ‹_›
      simp only [sizes, List.mem_cons, List.not_mem_nil, or_false, BUFFER_SIZE_INCREASE,
        LUX_BUFFER_SIZE_MAX] at *
      omega
    · exact hsize

theorem isFull_iff (h : b.WellFormed) (hsize : b.capacity ∈ sizes) :
    b.IsFull ↔ b.getSize = LUX_BUFFER_SIZE_MAX := by
  have hle := h.count_le
  simp only [sizes, List.mem_cons, List.not_mem_nil, or_false, IsFull, getSize,
    BUFFER_SIZE_INCREASE, LUX_BUFFER_SIZE_MAX] at *
  omega

/-- The two buffers hold entries of the same times. -/
structure Lockstep (a b : LightLuxBuffer F) : Prop where
  capacity_eq : a.capacity = b.capacity
  times_eq : a.entries.map Prod.fst = b.entries.map Prod.fst

variable {a : LightLuxBuffer F}

theorem Lockstep.count_eq (h : Lockstep a b) : a.count = b.count := by
  simpa using congrArg List.length h.times_eq

theorem Lockstep.isFull_iff (h : Lockstep a b) : a.IsFull ↔ b.IsFull := by
  rw [IsFull, IsFull, h.count_eq, h.capacity_eq]

theorem Lockstep.prune (h : Lockstep a b) (ha : a.WellFormed) (hb : b.WellFormed) (horizon : ℤ) :
    Lockstep (a.prune horizon) (b.prune horizon) := by
  obtain ⟨_, hacap, haentries⟩ := prune_spec ha horizon
  obtain ⟨_, hbcap, hbentries⟩ := prune_spec hb horizon
  refine ⟨by rw [hacap, hbcap, h.capacity_eq], ?_⟩
  rw [haentries, hbentries]
  exact Samples.prune_times_congr h.times_eq horizon

theorem Lockstep.record (h : Lockstep a b) (ha : a.WellFormed) (hb : b.WellFormed)
    (timestamp : ℤ) (data data' : F) :
    Lockstep (a.record timestamp data) (b.record timestamp data') := by
  have hpruned := h.prune ha hb (timestamp - LightLuxManager.LIGHT_LUX_BUFFER_RANGE)
  have hawell := (prune_spec ha (timestamp - LightLuxManager.LIGHT_LUX_BUFFER_RANGE)).1
  have hbwell := (prune_spec hb (timestamp - LightLuxManager.LIGHT_LUX_BUFFER_RANGE)).1
  by_cases hfull : a.NoRoom timestamp
  · rw [record_full hfull, record_full (hpruned.isFull_iff.mp hfull)]
    exact hpruned
  · have hfull' : ¬ b.NoRoom timestamp := fun hb => hfull (hpruned.isFull_iff.mpr hb)
    obtain ⟨_, hapush, hacap⟩ := push_spec hawell hfull timestamp data
    obtain ⟨_, hbpush, hbcap⟩ := push_spec hbwell hfull' timestamp data'
    constructor
    · rw [LightLuxBuffer.record, LightLuxBuffer.record, hacap, hbcap, hpruned.count_eq,
        hpruned.capacity_eq]
    · rw [LightLuxBuffer.record, LightLuxBuffer.record, hapush, hbpush, List.map_append,
        List.map_append, hpruned.times_eq]
      rfl

end LightLuxBuffer

/-! ## The smoothed value -/

/-- What `CalcSmoothLux` computes from the values of the buffer, newest first. -/
def smoothOf : List F → F
  | a :: b :: c :: d :: e :: _ => LightLuxManager.meanOfMiddle a [a, b, c, d, e]
  | a :: _ => a
  | [] => float LightLuxManager.INVALID_VALUE

theorem smoothOf_prefix {newest values : List F} (hnewer : newest <+: values)
    (hfive : LightLuxManager.LIGHT_LUX_BUFFER_MIN ≤ newest.length) :
    smoothOf newest = smoothOf values := by
  obtain ⟨older, rfl⟩ := hnewer
  rcases newest with _ | ⟨a, _ | ⟨b, _ | ⟨c, _ | ⟨d, _ | ⟨e, rest⟩⟩⟩⟩⟩
  iterate 5 simp [LightLuxManager.LIGHT_LUX_BUFFER_MIN] at hfive
  rfl

theorem smoothOf_short {a : F} {older : List F} (hshort : older.length < 4) :
    smoothOf (a :: older) = a := by
  rcases older with _ | ⟨b, _ | ⟨c, _ | ⟨d, _ | ⟨e, rest⟩⟩⟩⟩
  iterate 4 rfl
  simp only [List.length_cons] at hshort
  omega

theorem smoothOf_of_five {values : List F}
    (hfive : LightLuxManager.LIGHT_LUX_BUFFER_MIN ≤ values.length) (none : F) :
    smoothOf values = LightLuxManager.meanOfMiddle (values.headD none)
      (values.take LightLuxManager.LIGHT_LUX_BUFFER_MIN) := by
  rcases values with _ | ⟨a, _ | ⟨b, _ | ⟨c, _ | ⟨d, _ | ⟨e, rest⟩⟩⟩⟩⟩
  iterate 5 simp [LightLuxManager.LIGHT_LUX_BUFFER_MIN] at hfive
  rfl

theorem LightLuxManager.calcSmoothLux_eq (m : LightLuxManager F) :
    m.calcSmoothLux = smoothOf m.luxBuffer.newest := by
  rw [LightLuxBuffer.newest_eq]
  rcases hcount : m.luxBuffer.count with _ | _ | _ | _ | _ | n
  · simp [calcSmoothLux, LightLuxBuffer.getSize, hcount, smoothOf]
  iterate 4 simp [calcSmoothLux, LightLuxBuffer.getSize, hcount, LIGHT_LUX_BUFFER_MIN, smoothOf,
    List.range_succ_eq_map]
  · simp [calcSmoothLux, LightLuxBuffer.getSize, hcount, LIGHT_LUX_BUFFER_MIN, smoothOf,
      newestLux, List.range_succ_eq_map]

namespace LightLuxManager

variable {m m' : LightLuxManager F} {mode : LuxThresholdMode F} {lux : F} {currentTime : ℤ}

/-! ## One reading -/

def recordLux (m : LightLuxManager F) (lux : F) (currentTime : ℤ) : LightLuxBuffer F :=
  m.luxBuffer.record currentTime (getValidLux lux)

def smoothLux (m : LightLuxManager F) (lux : F) (currentTime : ℤ) : F :=
  smoothOf (m.recordLux lux currentTime).newest

def observe (m : LightLuxManager F) (lux : F) (currentTime : ℤ) : LightLuxManager F :=
  { m with
    lux := getValidLux lux
    luxBuffer := m.recordLux lux currentTime
    smoothedButNotStabledLux := m.smoothLux lux currentTime
    isFirstLux := (m.recordLux lux currentTime).getSize = 1
    luxBufferFilter := m.luxBufferFilter.record currentTime (m.smoothLux lux currentTime) }

/-- A reading with a negative smoothed value goes no further than the first buffer. -/
def ignore (m : LightLuxManager F) (lux : F) (currentTime : ℤ) : LightLuxManager F :=
  { m with lux := getValidLux lux, luxBuffer := m.recordLux lux currentTime }

structure Formed (m : LightLuxManager F) : Prop where
  wellFormed : m.luxBuffer.WellFormed
  filterWellFormed : m.luxBufferFilter.WellFormed
  scene : m.currentSceneMode = .modeDefault

/-- The buffers hold samples of the same times, and the newest smoothed one is what the readings
give. -/
structure Aligned (m : LightLuxManager F) : Prop extends m.Formed where
  sizes : m.luxBuffer.capacity ∈ LightLuxBuffer.sizes
  lockstep : m.luxBuffer.Lockstep m.luxBufferFilter
  smooth : ∀ v ∈ m.luxBufferFilter.newest.head?, v = smoothOf m.luxBuffer.newest

theorem Aligned.noRoom_iff (h : m.Aligned) (currentTime : ℤ) :
    m.luxBuffer.NoRoom currentTime ↔ m.luxBufferFilter.NoRoom currentTime :=
  (h.lockstep.prune h.wellFormed h.filterWellFormed _).isFull_iff

theorem Formed.newest_recordLux (h : m.Formed) (lux : F) (currentTime : ℤ) :
    (m.luxBuffer.NoRoom currentTime ∧ (m.recordLux lux currentTime).newest <+: m.luxBuffer.newest ∧
        LIGHT_LUX_BUFFER_MIN ≤ (m.recordLux lux currentTime).newest.length) ∨
      (¬ m.luxBuffer.NoRoom currentTime ∧ ∃ older, older <+: m.luxBuffer.newest ∧
        (m.recordLux lux currentTime).newest = getValidLux lux :: older) := by
  have hpruned := h.wellFormed.newest_prune (currentTime - LIGHT_LUX_BUFFER_RANGE)
  have hwell := (LightLuxBuffer.prune_spec h.wellFormed (currentTime - LIGHT_LUX_BUFFER_RANGE)).1
  by_cases hfull : m.luxBuffer.NoRoom currentTime
  · refine .inl ⟨hfull, ?_⟩
    rw [recordLux, LightLuxBuffer.record_full hfull]
    refine ⟨hpruned, ?_⟩
    obtain ⟨hcount, hmax⟩ := hfull
    simp only [LightLuxBuffer.newest, List.length_reverse, List.length_map,
      LightLuxBuffer.length_entries, hcount, LIGHT_LUX_BUFFER_MIN,
      LightLuxBuffer.BUFFER_SIZE_INCREASE, LightLuxBuffer.LUX_BUFFER_SIZE_MAX] at hmax ⊢
    omega
  · exact .inr ⟨hfull, _, hpruned, hwell.newest_push hfull _ _⟩

theorem Formed.recordLux_forall (h : m.Formed) {P : F → Prop}
    (hold : ∀ v ∈ m.luxBuffer.newest, P v) (hnew : P (getValidLux lux)) (currentTime : ℤ) :
    (m.recordLux lux currentTime).newest ≠ [] ∧
      ∀ v ∈ (m.recordLux lux currentTime).newest, P v := by
  rcases h.newest_recordLux lux currentTime with ⟨_, hnewer, hfive⟩ | ⟨_, older, hnewer, heq⟩
  · refine ⟨?_, fun v hv => hold v (hnewer.mem hv)⟩
    intro hnil
    simp [hnil, LIGHT_LUX_BUFFER_MIN] at hfive
  · rw [heq]
    refine ⟨List.cons_ne_nil _ _, ?_⟩
    intro v hv
    rcases List.mem_cons.mp hv with rfl | hv
    · exact hnew
    · exact hold v (hnewer.mem hv)

theorem Formed.smoothLux_full (h : m.Formed) (lux : F)
    (hfull : m.luxBuffer.NoRoom currentTime) :
    m.smoothLux lux currentTime = smoothOf m.luxBuffer.newest := by
  rcases h.newest_recordLux lux currentTime with ⟨_, hnewer, hfive⟩ | ⟨hroom, _⟩
  · exact smoothOf_prefix hnewer hfive
  · exact absurd hfull hroom

theorem Formed.smoothLux_short (h : m.Formed) (hshort : m.luxBuffer.count < 4)
    (hlux : getValidLux lux = lux) (currentTime : ℤ) : m.smoothLux lux currentTime = lux ∧
      (m.recordLux lux currentTime).count ≤ m.luxBuffer.count + 1 := by
  have hlength (b : LightLuxBuffer F) : b.newest.length = b.count := by
    simp [LightLuxBuffer.newest]
  rcases h.newest_recordLux lux currentTime with ⟨_, hnewer, hfive⟩ | ⟨_, older, hnewer, heq⟩
  · have := hnewer.length_le
    rw [hlength] at this hfive
    rw [hlength] at this
    simp only [LIGHT_LUX_BUFFER_MIN] at hfive
    omega
  · have hold := hnewer.length_le
    rw [hlength] at hold
    have hcount := congrArg List.length heq
    rw [hlength, List.length_cons] at hcount
    constructor
    · rw [smoothLux, heq, smoothOf_short (by omega), hlux]
    · omega

theorem recordLux_getSize_ne_zero (h : m.Formed) (lux : F) (currentTime : ℤ) :
    (m.recordLux lux currentTime).getSize ≠ 0 :=
  LightLuxBuffer.record_count_ne_zero h.wellFormed _ _

theorem observe_getSize_ne_zero (h : m.Formed) (lux : F) (currentTime : ℤ) :
    (m.observe lux currentTime).luxBufferFilter.getSize ≠ 0 :=
  LightLuxBuffer.record_count_ne_zero h.filterWellFormed _ _

theorem formed_observe (h : m.Formed) (lux : F) (currentTime : ℤ) :
    (m.observe lux currentTime).Formed :=
  ⟨(LightLuxBuffer.record_entries h.wellFormed _ _).1,
    (LightLuxBuffer.record_entries h.filterWellFormed _ _).1, h.scene⟩

theorem formed_ignore (h : m.Formed) (lux : F) (currentTime : ℤ) :
    (m.ignore lux currentTime).Formed :=
  ⟨(LightLuxBuffer.record_entries h.wellFormed _ _).1, h.filterWellFormed, h.scene⟩

theorem aligned_observe (h : m.Aligned) (lux : F) (currentTime : ℤ) :
    (m.observe lux currentTime).Aligned := by
  refine ⟨formed_observe h.toFormed lux currentTime,
    LightLuxBuffer.record_capacity h.wellFormed h.sizes _ _,
    h.lockstep.record h.wellFormed h.filterWellFormed _ _ _, ?_⟩
  by_cases hfull : m.luxBuffer.NoRoom currentTime
  · have hfilter := (h.noRoom_iff currentTime).mp hfull
    intro v hv
    refine (h.smooth v ?_).trans (h.smoothLux_full lux hfull).symm
    obtain ⟨older, hold⟩ := h.filterWellFormed.newest_prune (currentTime - LIGHT_LUX_BUFFER_RANGE)
    rw [observe, LightLuxBuffer.record_full hfilter] at hv
    rw [← hold]
    rcases hnew : (m.luxBufferFilter.prune (currentTime - LIGHT_LUX_BUFFER_RANGE)).newest with
      _ | ⟨w, rest⟩
    · simp [hnew] at hv
    · simpa [hnew] using hv
  · have hroom : ¬ m.luxBufferFilter.NoRoom currentTime :=
      fun hfilter => hfull ((h.noRoom_iff currentTime).mpr hfilter)
    have hwell :=
      (LightLuxBuffer.prune_spec h.filterWellFormed (currentTime - LIGHT_LUX_BUFFER_RANGE)).1
    intro v hv
    rw [observe, LightLuxBuffer.record, hwell.newest_push hroom] at hv
    exact (Option.some.inj hv).symm

/-! ## The decision -/

def responseTime (debounceTime : ℤ) : ℤ := if debounceTime = INVALID_VALUE then 0 else debounceTime

/-- Whether a threshold was left behind for as long as the debounce time asks. -/
def isDue (m : LightLuxManager F) (beyond : F → Bool) (debounceTime currentTime : ℤ) : Bool :=
  let size := m.luxBufferFilter.getSize
  LightLuxManager.earliestValidTime m.luxBufferFilter beyond currentTime size +
    (if size = 1 then 0 else responseTime debounceTime) ≤ currentTime

def isBrighter (m : LightLuxManager F) (data : F) : Bool := ¬ data - m.filteredLux < m.brightenDelta

def isDarker (m : LightLuxManager F) (data : F) : Bool := ¬ m.filteredLux - data < m.darkenDelta

/-- The condition of `IsUpdateLuxSuccess`. -/
def decides (m : LightLuxManager F) (mode : LuxThresholdMode F) (currentTime : ℤ) : Bool :=
  m.isDue m.isBrighter mode.brightenDebounceTime currentTime ||
    m.isDue m.isDarker mode.darkenDebounceTime currentTime || m.isFirstLux

def settle (m : LightLuxManager F) (filteredLux brightenDelta darkenDelta : F) :
    LightLuxManager F :=
  { m with
    filteredLux := filteredLux
    brightenDelta := brightenDelta
    darkenDelta := darkenDelta }

/-- An invalid delta leaves the old one. -/
def keptDelta (old delta : F) : F := if delta ≥ float 0 then delta else old

theorem calcDelta_congr (h : m.filteredLux = m'.filteredLux) (points : List (PointXy F)) :
    m.calcDelta points = m'.calcDelta points := by
  cases points with
  | nil => rfl
  | cons point points => rw [calcDelta, calcDelta, h]

/-- What `UpdateParam` leaves behind. -/
theorem updateParam_eq (hmode : m.getCurrentModeData = some mode) (lux : F) :
    m.updateParam lux = some (m.settle lux
      (keptDelta m.brightenDelta (calcDelta { m with filteredLux := lux } mode.brightenPoints))
      (keptDelta m.darkenDelta (calcDelta { m with filteredLux := lux } mode.darkenPoints))) := by
  have hcurrent : getCurrentModeData { m with filteredLux := lux } = some mode := hmode
  have hdarken (delta : F) :
      calcDelta { m with filteredLux := lux, brightenDelta := delta } mode.darkenPoints =
        calcDelta { m with filteredLux := lux } mode.darkenPoints := calcDelta_congr rfl _
  simp only [updateParam, hcurrent, Option.bind_eq_bind, Option.bind_some, Option.pure_def,
    keptDelta]
  by_cases hbrighten :
      calcDelta { m with filteredLux := lux } mode.brightenPoints ≥ float 0
  · simp only [if_pos hbrighten, hdarken]
    split <;> rfl
  · simp only [if_neg hbrighten]
    split <;> rfl

theorem getNextBrightenTime_eq (hmode : m.getCurrentModeData = some mode)
    (hsize : m.luxBufferFilter.getSize ≠ 0) :
    m.getNextBrightenTime currentTime =
      some (earliestValidTime m.luxBufferFilter m.isBrighter currentTime m.luxBufferFilter.getSize +
        if m.luxBufferFilter.getSize = 1 then 0 else responseTime mode.brightenDebounceTime) := by
  simp only [getNextBrightenTime, hsize, if_false, getBrightenResponseTime, hmode, Option.map_some]
  split <;> rfl

theorem getNextDarkenTime_eq (hmode : m.getCurrentModeData = some mode)
    (hsize : m.luxBufferFilter.getSize ≠ 0) :
    m.getNextDarkenTime currentTime =
      some (earliestValidTime m.luxBufferFilter m.isDarker currentTime m.luxBufferFilter.getSize +
        if m.luxBufferFilter.getSize = 1 then 0 else responseTime mode.darkenDebounceTime) := by
  simp only [getNextDarkenTime, hsize, if_false, getDarkenResponseTime, hmode, Option.map_some]
  split <;> rfl

theorem calcSmoothLux_updateLuxBuffer (m : LightLuxManager F) (lux : F) (currentTime : ℤ) :
    calcSmoothLux (updateLuxBuffer { m with lux := getValidLux lux } currentTime
      (getValidLux lux)) = m.smoothLux lux currentTime := calcSmoothLux_eq _

/-- A negative smoothed value ends a reading before the decision. -/
theorem isNeedUpdateBrightness_negative
    (hnegative : m.smoothLux lux currentTime < float 0) :
    m.isNeedUpdateBrightness lux currentTime = some (m.ignore lux currentTime, false) := by
  rw [isNeedUpdateBrightness, isUpdateLuxSuccess]
  simp only [calcSmoothLux_updateLuxBuffer, if_pos hnegative]
  rfl

theorem isNeedUpdateBrightness_observe
    (hsmooth : ¬ m.smoothLux lux currentTime < float 0) :
    m.isNeedUpdateBrightness lux currentTime =
      ((m.observe lux currentTime).getNextBrightenTime currentTime).bind fun nextBrightenTime =>
        ((m.observe lux currentTime).getNextDarkenTime currentTime).bind fun nextDarkenTime =>
          if nextBrightenTime ≤ currentTime || nextDarkenTime ≤ currentTime ||
              (m.observe lux currentTime).isFirstLux then
            ((m.observe lux currentTime).updateParam (m.smoothLux lux currentTime)).map
              fun settled => (settled, true)
          else some (m.observe lux currentTime, false) := by
  rw [isNeedUpdateBrightness, isUpdateLuxSuccess]
  simp only [calcSmoothLux_updateLuxBuffer, Option.map_eq_bind]
  rw [if_neg hsmooth]
  rfl

theorem isNeedUpdateBrightness_eq (h : m.Formed)
    (hsmooth : ¬ m.smoothLux lux currentTime < float 0)
    (hmode : m.getCurrentModeData = some mode) :
    m.isNeedUpdateBrightness lux currentTime =
      if (m.observe lux currentTime).decides mode currentTime then
        ((m.observe lux currentTime).updateParam (m.smoothLux lux currentTime)).map
          fun settled => (settled, true)
      else some (m.observe lux currentTime, false) := by
  have hsize := observe_getSize_ne_zero h lux currentTime
  have hcurrent : (m.observe lux currentTime).getCurrentModeData = some mode := hmode
  rw [isNeedUpdateBrightness_observe hsmooth, getNextBrightenTime_eq hcurrent hsize,
    getNextDarkenTime_eq hcurrent hsize]
  rfl

/-- Without a mode for the scene, every reading ends in the exception of the lookup: the first one
where the thresholds are updated, the others where the response time is read. -/
theorem isNeedUpdateBrightness_missing (h : m.Aligned)
    (hsmooth : ¬ m.smoothLux lux currentTime < float 0)
    (hmode : m.getCurrentModeData = none) : m.isNeedUpdateBrightness lux currentTime = none := by
  have hcurrent : (m.observe lux currentTime).getCurrentModeData = none := hmode
  have hsize := observe_getSize_ne_zero h.toFormed lux currentTime
  have hcount := (aligned_observe h lux currentTime).lockstep.count_eq
  rw [isNeedUpdateBrightness_observe hsmooth]
  by_cases hone : (m.observe lux currentTime).luxBufferFilter.getSize = 1
  · have hfirst : (m.observe lux currentTime).isFirstLux = true :=
      decide_eq_true (hcount.trans hone)
    have hupdate (v : F) : (m.observe lux currentTime).updateParam v = none := by
      have hsettled :
          getCurrentModeData { m.observe lux currentTime with filteredLux := v } = none :=
        hmode
      simp [updateParam, hsettled]
    simp [hfirst, hupdate, getNextBrightenTime, getNextDarkenTime, hone]
  · simp [getNextBrightenTime, hsize, hone, getBrightenResponseTime, hcurrent]

theorem reading_settles (h : m.Formed) (hsmooth : ¬ m.smoothLux lux currentTime < float 0)
    (hmode : m.getCurrentModeData = some mode) : ∃ filteredLux brightenDelta darkenDelta,
      m.isNeedUpdateBrightness lux currentTime =
          some ((m.observe lux currentTime).settle filteredLux brightenDelta darkenDelta,
            (m.observe lux currentTime).decides mode currentTime) ∧
        (filteredLux = m.filteredLux ∨ filteredLux = m.smoothLux lux currentTime) ∧
        (brightenDelta = m.brightenDelta ∨ brightenDelta ≥ float 0) ∧
        (darkenDelta = m.darkenDelta ∨ darkenDelta ≥ float 0) := by
  have hkept (old delta : F) : keptDelta old delta = old ∨ keptDelta old delta ≥ float 0 := by
    rw [keptDelta]
    split
    · exact .inr ‹_›
    · exact .inl rfl
  rw [isNeedUpdateBrightness_eq h hsmooth hmode]
  cases hdecides : (m.observe lux currentTime).decides mode currentTime with
  | false =>
    exact ⟨m.filteredLux, m.brightenDelta, m.darkenDelta, rfl, .inl rfl, .inl rfl, .inl rfl⟩
  | true =>
    have hcurrent : (m.observe lux currentTime).getCurrentModeData = some mode := hmode
    rw [updateParam_eq hcurrent]
    exact ⟨_, _, _, rfl, .inr rfl, hkept _ _, hkept _ _⟩

theorem formed_clearLuxData (h : m.Formed) : m.clearLuxData.Formed :=
  ⟨(LightLuxBuffer.clear_spec h.wellFormed).1, (LightLuxBuffer.clear_spec h.filterWellFormed).1,
    h.scene⟩

theorem formed_initial (modeArray : List (String × LuxThresholdMode F)) :
    (initParameters {} modeArray).Formed := by
  have hrefines := @LightLuxBuffer.refines_create F _ LightLuxBuffer.LUX_BUFFER_SIZE_DEFAULT
  exact ⟨hrefines.wellFormed, hrefines.wellFormed, rfl⟩

theorem aligned_settle (h : m.Aligned) (filteredLux brightenDelta darkenDelta : F) :
    (m.settle filteredLux brightenDelta darkenDelta).Aligned :=
  ⟨⟨h.wellFormed, h.filterWellFormed, h.scene⟩, h.sizes, h.lockstep, h.smooth⟩

theorem aligned_clearLuxData (h : m.Aligned) : m.clearLuxData.Aligned := by
  obtain ⟨_, hcap, hentries⟩ := LightLuxBuffer.clear_spec h.wellFormed
  obtain ⟨_, hfcap, hfentries⟩ := LightLuxBuffer.clear_spec h.filterWellFormed
  refine ⟨formed_clearLuxData h.toFormed, ?_, ⟨?_, ?_⟩, ?_⟩
  · rw [clearLuxData, hcap]
    exact h.sizes
  · rw [clearLuxData, hcap, hfcap]
    exact h.lockstep.capacity_eq
  · rw [clearLuxData, hentries, hfentries]
  · simp [clearLuxData, LightLuxBuffer.newest, hfentries]

theorem aligned_initial (modeArray : List (String × LuxThresholdMode F)) :
    (initParameters {} modeArray).Aligned := by
  refine ⟨formed_initial modeArray, show 32 ∈ LightLuxBuffer.sizes by decide, ⟨rfl, rfl⟩, ?_⟩
  simp [initParameters, LightLuxBuffer.newest, LightLuxBuffer.entries_default]

end LightLuxManager

/-! ## Runs -/

/-- `SetLux` stands for the entry whose answer nobody reads. -/
inductive LuxCall (F : Type := ℚ) where
  | isNeedUpdateBrightness (lux : F) (currentTime : ℤ)
  | setLux (lux : F) (currentTime : ℤ)
  | clearLuxData
  deriving DecidableEq, Repr

/-- The manager, with what a run remembers: the time of the last reading, and the readings and
smoothed samples since the last clear, oldest first. -/
structure LuxTrace (F : Type := ℚ) [FloatArithmetic F] where
  manager : LightLuxManager F
  clock : Option ℤ := none
  readings : List (ℤ × F) := []
  smoothed : List (ℤ × F) := []

namespace LuxTrace

def start (modeArray : List (String × LuxThresholdMode F)) : LuxTrace F :=
  { manager := LightLuxManager.initParameters {} modeArray }

variable {s t : LuxTrace F} {mode : LuxThresholdMode F}
variable {modeArray : List (String × LuxThresholdMode F)} {lux : F} {currentTime : ℤ}

def remember (s : LuxTrace F) (lux : F) (currentTime : ℤ) (manager : LightLuxManager F) :
    LuxTrace F where
  manager := manager
  clock := some currentTime
  readings := s.readings ++ [(currentTime, LightLuxManager.getValidLux lux)]
  smoothed := s.smoothed ++ [(currentTime, manager.smoothedButNotStabledLux)]

/-- No successor is an exception that nobody catches. -/
def step (s : LuxTrace F) : LuxCall F → Option (LuxTrace F)
  | .isNeedUpdateBrightness lux currentTime =>
    (s.manager.isNeedUpdateBrightness lux currentTime).map fun answer =>
      s.remember lux currentTime answer.1
  | .setLux lux currentTime =>
    (s.manager.setLux lux currentTime).map (s.remember lux currentTime)
  | .clearLuxData =>
    some { s with manager := s.manager.clearLuxData, readings := [], smoothed := [] }

theorem step_setLux (s : LuxTrace F) (lux : F) (currentTime : ℤ) :
    s.step (.setLux lux currentTime) = s.step (.isNeedUpdateBrightness lux currentTime) := by
  simp only [step, LightLuxManager.setLux, LightLuxManager.isNeedUpdateBrightness, Option.map_map]
  rfl

def NotNegative (s : LuxTrace F) : LuxCall F → Prop
  | .isNeedUpdateBrightness lux currentTime | .setLux lux currentTime =>
    ¬ s.manager.smoothLux lux currentTime < float 0
  | .clearLuxData => True

instance (s : LuxTrace F) : DecidablePred s.NotNegative
  | .isNeedUpdateBrightness _ _ | .setLux _ _ => inferInstanceAs (Decidable (¬ _))
  | .clearLuxData => inferInstanceAs (Decidable True)

/-- What holds of a trace under a configuration whose current scene has a mode. -/
structure Aligned (mode : LuxThresholdMode F) (s : LuxTrace F) : Prop where
  manager : s.manager.Aligned
  mode : s.manager.getCurrentModeData = some mode

theorem reading_step (h : s.Aligned mode)
    (hsmooth : s.NotNegative (.isNeedUpdateBrightness lux currentTime)) :
    ∃ filteredLux brightenDelta darkenDelta,
      s.step (.isNeedUpdateBrightness lux currentTime) = some (s.remember lux currentTime
        ((s.manager.observe lux currentTime).settle filteredLux brightenDelta darkenDelta)) ∧
      (filteredLux = s.manager.filteredLux ∨ filteredLux = s.manager.smoothLux lux currentTime) ∧
      (brightenDelta = s.manager.brightenDelta ∨ brightenDelta ≥ float 0) ∧
      (darkenDelta = s.manager.darkenDelta ∨ darkenDelta ≥ float 0) := by
  obtain ⟨filteredLux, brightenDelta, darkenDelta, heq, hvalues⟩ :=
    LightLuxManager.reading_settles h.manager.toFormed hsmooth h.mode
  refine ⟨filteredLux, brightenDelta, darkenDelta, ?_, hvalues⟩
  rw [step, heq]
  rfl

theorem aligned_reading (h : s.Aligned mode)
    (hsmooth : s.NotNegative (.isNeedUpdateBrightness lux currentTime))
    (ht : s.step (.isNeedUpdateBrightness lux currentTime) = some t) : t.Aligned mode := by
  obtain ⟨filteredLux, brightenDelta, darkenDelta, heq, _⟩ := reading_step h hsmooth
  obtain rfl := Option.some.inj (heq.symm.trans ht)
  exact ⟨LightLuxManager.aligned_settle
    (LightLuxManager.aligned_observe h.manager lux currentTime) _ _ _, h.mode⟩

theorem aligned_step (h : s.Aligned mode) {call : LuxCall F} (hsmooth : s.NotNegative call)
    (ht : s.step call = some t) : t.Aligned mode := by
  cases call with
  | isNeedUpdateBrightness lux currentTime => exact aligned_reading h hsmooth ht
  | setLux lux currentTime =>
    rw [step_setLux] at ht
    exact aligned_reading h hsmooth ht
  | clearLuxData =>
    obtain rfl := Option.some.inj ht
    exact ⟨LightLuxManager.aligned_clearLuxData h.manager, h.mode⟩

theorem aligned_start (hmode : modeArray.lookup "DefaultMode" = some mode) :
    (start modeArray).Aligned mode :=
  ⟨LightLuxManager.aligned_initial modeArray, hmode⟩

end LuxTrace

/-! ## Exact arithmetic

In exact arithmetic no smoothed value is negative: all values stay in the range of the sensor. -/

theorem LightLuxManager.meanOfMiddle_rat (last : ℚ) (readings : List ℚ) :
    meanOfMiddle last readings =
      (readings.sum - readings.foldl min last - readings.foldl max last) / 3 := by
  have hmin : (fun luxMin lux : ℚ => if luxMin > lux then lux else luxMin) = min := by
    funext luxMin lux
    rw [min_def]
    grind
  have hmax : (fun luxMax lux : ℚ => if luxMax < lux then lux else luxMax) = max := by
    funext luxMax lux
    rw [max_def]
    grind
  rw [meanOfMiddle, hmin, hmax, List.sum_eq_foldl]
  rfl

def InRange (lux : ℚ) : Prop := 0 ≤ lux ∧ lux ≤ LightLuxManager.LIGHT_MAX_LUX

theorem meanOfMiddle_inRange {a b c d e : ℚ} (h : ∀ x ∈ [a, b, c, d, e], InRange x) :
    InRange (LightLuxManager.meanOfMiddle a [a, b, c, d, e]) := by
  have hmean : mean (middle [a, b, c, d, e]) = ([a, b, c, d, e].sum -
      [a, b, c, d, e].foldl min a - [a, b, c, d, e].foldl max a) / 3 :=
    mean_middle (by simp) (by simp)
  have hne : middle [a, b, c, d, e] ≠ [] := by
    apply List.ne_nil_of_length_pos
    simp [length_middle]
  rw [LightLuxManager.meanOfMiddle_rat, ← hmean]
  constructor
  · obtain ⟨v, hv, hle⟩ := exists_le_mean hne
    exact (h v (middle_subset v hv)).1.trans hle
  · obtain ⟨v, hv, hle⟩ := exists_mean_le hne
    exact hle.trans (h v (middle_subset v hv)).2

theorem smoothOf_inRange {values : List ℚ} (hne : values ≠ []) (h : ∀ x ∈ values, InRange x) :
    InRange (smoothOf values) := by
  rcases values with _ | ⟨a, _ | ⟨b, _ | ⟨c, _ | ⟨d, _ | ⟨e, rest⟩⟩⟩⟩⟩
  · exact absurd rfl hne
  iterate 4 exact h a (by simp)
  · apply meanOfMiddle_inRange
    intro x hx
    exact h x (by simp only [List.mem_cons] at *; tauto)

namespace LightLuxManager

variable {m : LightLuxManager} {mode : LuxThresholdMode} {lux : ℚ} {currentTime : ℤ}

theorem getValidLux_rat (lux : ℚ) : getValidLux lux =
    if (if lux > 40000 then 40000 else lux) < 0 then 0 else if lux > 40000 then 40000 else lux :=
  rfl

theorem getValidLux_inRange (lux : ℚ) : InRange (getValidLux lux) := by
  rw [getValidLux_rat]
  simp only [InRange, LIGHT_MAX_LUX]
  by_cases hmax : lux > 40000
  · simp only [hmax, if_true]
    norm_num
  · by_cases hneg : lux < 0
    · simp [hmax, hneg]
    · simp only [hmax, hneg, if_false]
      exact ⟨not_lt.mp hneg, not_lt.mp hmax⟩

structure Sound (m : LightLuxManager) : Prop extends m.Aligned where
  newest : ∀ v ∈ m.luxBuffer.newest, InRange v
  lux : InRange m.lux
  filteredLux : InRange m.filteredLux
  smoothedButNotStabledLux : InRange m.smoothedButNotStabledLux

theorem Sound.recordLux_inRange (h : m.Sound) (lux : ℚ) (currentTime : ℤ) :
    (m.recordLux lux currentTime).newest ≠ [] ∧
      ∀ v ∈ (m.recordLux lux currentTime).newest, InRange v :=
  h.recordLux_forall h.newest (getValidLux_inRange lux) currentTime

theorem Sound.smoothLux_inRange (h : m.Sound) (lux : ℚ) (currentTime : ℤ) :
    InRange (m.smoothLux lux currentTime) := by
  obtain ⟨hne, hrange⟩ := h.recordLux_inRange lux currentTime
  exact smoothOf_inRange hne hrange

theorem Sound.smoothLux_nonneg (h : m.Sound) (lux : ℚ) (currentTime : ℤ) :
    ¬ m.smoothLux lux currentTime < (0 : ℚ) := not_lt.mpr (h.smoothLux_inRange lux currentTime).1

theorem sound_observe (h : m.Sound) (lux : ℚ) (currentTime : ℤ) :
    (m.observe lux currentTime).Sound :=
  ⟨aligned_observe h.toAligned lux currentTime, (h.recordLux_inRange lux _).2,
    getValidLux_inRange lux, h.filteredLux, h.smoothLux_inRange lux currentTime⟩

theorem reading_spec (h : m.Sound) (hmode : m.getCurrentModeData = some mode) (lux : ℚ)
    (currentTime : ℤ) : ∃ filteredLux brightenDelta darkenDelta,
      m.isNeedUpdateBrightness lux currentTime =
          some ((m.observe lux currentTime).settle filteredLux brightenDelta darkenDelta,
            (m.observe lux currentTime).decides mode currentTime) ∧
        InRange filteredLux := by
  obtain ⟨filteredLux, brightenDelta, darkenDelta, heq, hfiltered, _⟩ :=
    reading_settles h.toFormed (h.smoothLux_nonneg lux currentTime) hmode
  refine ⟨filteredLux, brightenDelta, darkenDelta, heq, ?_⟩
  rcases hfiltered with rfl | rfl
  · exact h.filteredLux
  · exact h.smoothLux_inRange lux currentTime

theorem sound_settle (h : m.Sound) {filteredLux : ℚ} (hrange : InRange filteredLux)
    (brightenDelta darkenDelta : ℚ) : (m.settle filteredLux brightenDelta darkenDelta).Sound :=
  ⟨aligned_settle h.toAligned _ _ _, h.newest, h.lux, hrange, h.smoothedButNotStabledLux⟩

theorem sound_clearLuxData (h : m.Sound) : m.clearLuxData.Sound := by
  have hentries := (LightLuxBuffer.clear_spec h.wellFormed).2.2
  refine ⟨aligned_clearLuxData h.toAligned, ?_, h.lux, h.filteredLux, h.smoothedButNotStabledLux⟩
  simp [clearLuxData, LightLuxBuffer.newest, hentries]

theorem sound_initial (modeArray : List (String × LuxThresholdMode)) :
    (initParameters {} modeArray).Sound := by
  have hzero : InRange (0 : ℚ) := by simp [InRange, LIGHT_MAX_LUX]
  refine ⟨aligned_initial modeArray, ?_, hzero, hzero, hzero⟩
  simp [initParameters, LightLuxBuffer.newest, LightLuxBuffer.entries_default]

end LightLuxManager

namespace LuxTrace

variable {s t : LuxTrace} {mode : LuxThresholdMode} {modeArray : List (String × LuxThresholdMode)}

structure Sound (mode : LuxThresholdMode) (s : LuxTrace) : Prop where
  manager : s.manager.Sound
  mode : s.manager.getCurrentModeData = some mode

theorem Sound.aligned (h : s.Sound mode) : s.Aligned mode := ⟨h.manager.toAligned, h.mode⟩

theorem Sound.notNegative (h : s.Sound mode) (call : LuxCall) : s.NotNegative call := by
  cases call with
  | isNeedUpdateBrightness lux currentTime => exact h.manager.smoothLux_nonneg lux currentTime
  | setLux lux currentTime => exact h.manager.smoothLux_nonneg lux currentTime
  | clearLuxData => trivial

theorem sound_reading (h : s.Sound mode) {lux : ℚ} {currentTime : ℤ}
    (ht : s.step (.isNeedUpdateBrightness lux currentTime) = some t) : t.Sound mode := by
  obtain ⟨filteredLux, brightenDelta, darkenDelta, heq, hrange⟩ :=
    LightLuxManager.reading_spec h.manager h.mode lux currentTime
  rw [step, heq] at ht
  obtain rfl := Option.some.inj ht
  exact ⟨LightLuxManager.sound_settle (LightLuxManager.sound_observe h.manager lux currentTime)
    hrange _ _, h.mode⟩

theorem sound_step (h : s.Sound mode) {call : LuxCall} (ht : s.step call = some t) :
    t.Sound mode := by
  cases call with
  | isNeedUpdateBrightness lux currentTime => exact sound_reading h ht
  | setLux lux currentTime =>
    rw [step_setLux] at ht
    exact sound_reading h ht
  | clearLuxData =>
    obtain rfl := Option.some.inj ht
    exact ⟨LightLuxManager.sound_clearLuxData h.manager, h.mode⟩

theorem step_isSome (h : s.Sound mode) (call : LuxCall) : ∃ t, s.step call = some t := by
  cases call with
  | isNeedUpdateBrightness lux currentTime =>
    obtain ⟨_, _, _, heq, _⟩ := reading_step h.aligned (h.notNegative _)
    exact ⟨_, heq⟩
  | setLux lux currentTime =>
    obtain ⟨_, _, _, heq, _⟩ := reading_step h.aligned (h.notNegative _)
    exact ⟨_, (step_setLux s lux currentTime).trans heq⟩
  | clearLuxData => exact ⟨_, rfl⟩

theorem sound_start (hmode : modeArray.lookup "DefaultMode" = some mode) :
    (start modeArray).Sound mode :=
  ⟨LightLuxManager.sound_initial modeArray, hmode⟩

/-- With a mode for the scene, no run ends in an exception. -/
theorem run_isSome (h : s.Sound mode) (calls : List LuxCall) :
    ∃ t, Runs.run step s calls = some t ∧ t.Sound mode := by
  induction calls generalizing s with
  | nil => exact ⟨s, rfl, h⟩
  | cons call calls ih =>
    obtain ⟨u, hu⟩ := step_isSome h call
    obtain ⟨t, ht, hsound⟩ := ih (sound_step h hu)
    exact ⟨t, Runs.run_cons_some.mpr ⟨u, hu, ht⟩, hsound⟩

/-- A run that did not end keeps the manager sound, also under a configuration without the mode:
there no reading has a successor. -/
theorem run_manager_sound {calls : List LuxCall}
    (ht : Runs.run step (start modeArray) calls = some t) : t.manager.Sound := by
  refine Runs.run_invariant (C := fun _ _ => True) (J := fun s => s.manager.Sound) ?_
    (LightLuxManager.sound_initial modeArray) (Runs.always_of_forall (fun _ _ _ => trivial) _) ht
  intro s call u h _ hu
  cases hmode : s.manager.getCurrentModeData with
  | some mode =>
    have hsound : s.Sound mode := ⟨h, hmode⟩
    exact (sound_step hsound hu).manager
  | none =>
    have hnone (lux : ℚ) (currentTime : ℤ) :
        s.step (.isNeedUpdateBrightness lux currentTime) = none := by
      rw [step, LightLuxManager.isNeedUpdateBrightness_missing h.toAligned
        (h.smoothLux_nonneg lux currentTime) hmode]
      rfl
    cases call with
    | isNeedUpdateBrightness lux currentTime => exact absurd ((hnone _ _).symm.trans hu) nofun
    | setLux lux currentTime =>
      rw [step_setLux] at hu
      exact absurd ((hnone _ _).symm.trans hu) nofun
    | clearLuxData =>
      obtain rfl := Option.some.inj hu
      exact LightLuxManager.sound_clearLuxData h

end LuxTrace

end DisplayPowerMgr
