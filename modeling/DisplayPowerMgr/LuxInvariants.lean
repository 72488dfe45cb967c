import DisplayPowerMgr.LuxRuns
import DisplayPowerMgr.BrightnessService

/-! What every run of `LightLuxManager` keeps: the ranges of its values, the lockstep of its
buffers and with them the reset of the user's offset; and when the newest reading is kept. -/
namespace DisplayPowerMgr

namespace LuxTrace

/-- The values, the two buffers, the next smoothed value, and the offset that `ClearOffset` of
a service with this manager resets. -/
structure Kept (s : LuxTrace) : Prop where
  lux : InRange s.manager.lux
  filteredLux : InRange s.manager.filteredLux
  smoothedButNotStabledLux : InRange s.manager.smoothedButNotStabledLux
  getSize_eq : s.manager.luxBuffer.getSize = s.manager.luxBufferFilter.getSize
  getTime_eq : ∀ i < s.manager.luxBuffer.getSize,
    s.manager.luxBuffer.getTime i = s.manager.luxBufferFilter.getTime i
  nonneg : ∀ lux currentTime, ¬ (LightLuxManager.updateLuxBuffer { s.manager with
    lux := LightLuxManager.getValidLux lux } currentTime
    (LightLuxManager.getValidLux lux)).calcSmoothLux < 0
  resets : ∀ bs : BrightnessService, bs.lightLuxManager = s.manager →
    bs.clearOffset.calculationManager.NoOffset

end LuxTrace

theorem getSmoothedLux_inRange {m : LightLuxManager} (h : InRange m.filteredLux) :
    InRange m.getSmoothedLux := by
  have hfloor : m.getSmoothedLux = ((⌊m.filteredLux⌋ : ℤ) : ℚ) :=
    congrArg Int.cast (if_neg (not_lt.mpr h.1))
  rw [hfloor]
  exact ⟨by exact_mod_cast Int.floor_nonneg.mpr h.1, (Int.floor_le _).trans h.2⟩

/-- The light that `ClearOffset` passes on is never out of the range it asks for. -/
theorem clearOffset_resets {bs : BrightnessService} (h : InRange bs.lightLuxManager.filteredLux) :
    bs.clearOffset.calculationManager.NoOffset := by
  have hsame : bs.stopIfDimming.calculationManager = bs.calculationManager ∧
      bs.stopIfDimming.lightLuxManager = bs.lightLuxManager := by
    rw [BrightnessService.stopIfDimming]
    split <;> exact ⟨rfl, rfl⟩
  have hmin : BrightnessCalculationManager.AMBIENT_VALID_MIN_LUX ≤
      bs.lightLuxManager.getSmoothedLux := (getSmoothedLux_inRange h).1
  have hmax : bs.lightLuxManager.getSmoothedLux ≤
      BrightnessCalculationManager.AMBIENT_VALID_MAX_LUX := (getSmoothedLux_inRange h).2
  rw [BrightnessService.clearOffset]
  simp only [hsame.1, hsame.2, BrightnessCalculationManager.updateBrightnessOffset]
  have hvalid : ¬ (decide (bs.lightLuxManager.getSmoothedLux <
      float BrightnessCalculationManager.AMBIENT_VALID_MIN_LUX) ||
      decide (bs.lightLuxManager.getSmoothedLux >
        float BrightnessCalculationManager.AMBIENT_VALID_MAX_LUX)) = true := by
    simpa using And.intro hmin hmax
  rw [if_neg hvalid, if_pos (by simp [BrightnessCalculationManager.SMALL_VALUE])]
  exact BrightnessCalculationManager.resetDefaultBrightnessOffset_noOffset _

namespace LuxTrace

variable {s t : LuxTrace} {mode : LuxThresholdMode} {modeArray : List (String × LuxThresholdMode)}

theorem Sound.kept (h : s.Sound mode) : s.Kept := by
  refine ⟨h.manager.lux, h.manager.filteredLux, h.manager.smoothedButNotStabledLux,
    h.manager.lockstep.count_eq, ?_, ?_, ?_⟩
  · intro i hi
    have hcount : i < s.manager.luxBufferFilter.getSize := by
      rw [LightLuxBuffer.getSize, ← h.manager.lockstep.count_eq]
      exact hi
    have htimes := congrArg (fun times => times[i]?) h.manager.lockstep.times_eq
    simpa [LightLuxBuffer.entries, hi, hcount] using htimes
  · intro lux currentTime
    rw [LightLuxManager.calcSmoothLux_eq]
    exact not_lt.mpr (h.manager.smoothLux_inRange lux currentTime).1
  · rintro bs heq
    apply clearOffset_resets
    rw [heq]
    exact h.manager.filteredLux

/-- Whatever readings and clears a run is made of, it goes on and keeps its values in range. -/
theorem lux_manager_kept (hmode : modeArray.lookup "DefaultMode" = some mode)
    (calls : List LuxCall) : ∃ s, Runs.run step (start modeArray) calls = some s ∧ s.Kept := by
  obtain ⟨s, hs, hsound⟩ := run_isSome (sound_start hmode) calls
  exact ⟨s, hs, hsound.kept⟩

theorem lux_manager_kept_default : ∃ s,
    Runs.run step (start [("DefaultMode", defaultLuxThresholdMode)])
      [.setLux 7 0, .isNeedUpdateBrightness 50000 1, .clearLuxData] = some s ∧ s.Kept :=
  lux_manager_kept rfl _

def HasRoom (s : LuxTrace) : LuxCall → Prop
  | .isNeedUpdateBrightness _ currentTime | .setLux _ currentTime =>
    (s.manager.luxBuffer.prune (currentTime - LightLuxManager.LIGHT_LUX_BUFFER_RANGE)).getSize <
      LightLuxBuffer.LUX_BUFFER_SIZE_MAX
  | .clearLuxData => True

def StoresNewest (s : LuxTrace) : LuxCall → Prop
  | .isNeedUpdateBrightness lux currentTime | .setLux lux currentTime =>
    ∀ t, s.step (.isNeedUpdateBrightness lux currentTime) = some t →
      t.manager.luxBuffer.entries.getLast? = some (currentTime, LightLuxManager.getValidLux lux)
  | .clearLuxData => True

/-- A reading leaves the values of the buffer as they were. -/
def DropsNewest (s : LuxTrace) : LuxCall → Prop
  | .isNeedUpdateBrightness lux currentTime | .setLux lux currentTime =>
    ∀ t, s.step (.isNeedUpdateBrightness lux currentTime) = some t →
      t.manager.luxBuffer.newest = s.manager.luxBuffer.newest
  | .clearLuxData => True

def HoldsLatest (s : LuxTrace) (call : LuxCall) : Prop :=
  ∀ t, s.step call = some t →
    t.manager.luxBuffer.newest <+: (t.readings.map Prod.snd).reverse ∧
      t.manager.calcSmoothLux = smoothOf t.manager.luxBuffer.newest

theorem noRoom_iff (h : s.Sound mode) (currentTime : ℤ) :
    s.manager.luxBuffer.NoRoom currentTime ↔
      ¬ (s.manager.luxBuffer.prune (currentTime - LightLuxManager.LIGHT_LUX_BUFFER_RANGE)).getSize <
        LightLuxBuffer.LUX_BUFFER_SIZE_MAX := by
  obtain ⟨hwell, hcap, _⟩ := LightLuxBuffer.prune_spec h.manager.wellFormed
    (currentTime - LightLuxManager.LIGHT_LUX_BUFFER_RANGE)
  have hsize := h.manager.sizes
  rw [← hcap] at hsize
  have hle := hwell.count_le
  have hmax := hwell.capacity_le
  rw [LightLuxBuffer.NoRoom, LightLuxBuffer.isFull_iff hwell hsize, LightLuxBuffer.getSize]
  omega

theorem luxBuffer_reading (h : s.Sound mode) {lux : ℚ} {currentTime : ℤ}
    (ht : s.step (.isNeedUpdateBrightness lux currentTime) = some t) :
    t.manager.luxBuffer = s.manager.recordLux lux currentTime ∧
      t.readings = s.readings ++ [(currentTime, LightLuxManager.getValidLux lux)] := by
  obtain ⟨_, _, _, heq, _⟩ := reading_step h.aligned (h.notNegative _)
  obtain rfl := Option.some.inj (heq.symm.trans ht)
  exact ⟨rfl, rfl⟩

theorem reading_stores (h : s.Sound mode) {lux : ℚ} {currentTime : ℤ}
    (hroom : ¬ s.manager.luxBuffer.NoRoom currentTime)
    (ht : s.step (.isNeedUpdateBrightness lux currentTime) = some t) :
    t.manager.luxBuffer.entries.getLast? =
      some (currentTime, LightLuxManager.getValidLux lux) := by
  rw [(luxBuffer_reading h ht).1, LightLuxManager.recordLux,
    (LightLuxBuffer.record_entries h.manager.wellFormed _ _).2, if_neg hroom]
  simp

theorem reading_drops (h : s.Sound mode) {lux : ℚ} {currentTime : ℤ}
    (hfull : s.manager.luxBuffer.NoRoom currentTime)
    (ht : s.step (.isNeedUpdateBrightness lux currentTime) = some t) :
    t.manager.luxBuffer.newest = s.manager.luxBuffer.newest := by
  have hpruned := h.manager.wellFormed.newest_prune
    (currentTime - LightLuxManager.LIGHT_LUX_BUFFER_RANGE)
  rw [(luxBuffer_reading h ht).1, LightLuxManager.recordLux, LightLuxBuffer.record_full hfull]
  apply hpruned.eq_of_length
  -- the window dropped nothing, since a buffer never holds more than it may
  have hmax : s.manager.luxBuffer.count ≤ LightLuxBuffer.LUX_BUFFER_SIZE_MAX :=
    h.manager.wellFormed.count_le.trans h.manager.wellFormed.capacity_le
  have hcount := Nat.le_of_not_lt ((noRoom_iff h currentTime).mp hfull)
  have hle := hpruned.length_le
  simp only [LightLuxBuffer.newest, List.length_reverse, List.length_map,
    LightLuxBuffer.length_entries, LightLuxBuffer.getSize] at hcount hle ⊢
  omega

theorem stores_or_drops (h : s.Sound mode) (call : LuxCall) :
    (s.HasRoom call → s.StoresNewest call) ∧ (¬ s.HasRoom call → s.DropsNewest call) := by
  cases call with
  | clearLuxData => exact ⟨fun _ => trivial, fun _ => trivial⟩
  | isNeedUpdateBrightness lux currentTime | setLux lux currentTime =>
    refine ⟨fun hroom t ht => ?_, fun hfull t ht => ?_⟩
    · exact reading_stores h (fun hno => (noRoom_iff h currentTime).mp hno hroom) ht
    · exact reading_drops h ((noRoom_iff h currentTime).mpr hfull) ht

def Latest (s : LuxTrace) : Prop :=
  s.manager.luxBuffer.newest <+: (s.readings.map Prod.snd).reverse

theorem latest_reading (h : s.Sound mode) (hlatest : s.Latest) {lux : ℚ} {currentTime : ℤ}
    (hroom : s.HasRoom (.isNeedUpdateBrightness lux currentTime))
    (ht : s.step (.isNeedUpdateBrightness lux currentTime) = some t) : t.Latest := by
  obtain ⟨hbuffer, hreadings⟩ := luxBuffer_reading h ht
  rw [Latest, hbuffer, hreadings, List.map_append, List.reverse_append]
  rcases h.manager.newest_recordLux lux currentTime with ⟨hfull, _⟩ | ⟨_, older, hnewer, heq⟩
  · exact absurd hroom ((noRoom_iff h currentTime).mp hfull)
  · rw [heq]
    exact List.cons_prefix_cons.mpr ⟨rfl, hnewer.trans hlatest⟩

theorem latest_step (h : s.Sound mode) (hlatest : s.Latest) {call : LuxCall}
    (hroom : s.HasRoom call) (ht : s.step call = some t) : t.Latest := by
  cases call with
  | isNeedUpdateBrightness lux currentTime => exact latest_reading h hlatest hroom ht
  | setLux lux currentTime =>
    rw [step_setLux] at ht
    exact latest_reading h hlatest hroom ht
  | clearLuxData =>
    obtain rfl := Option.some.inj ht
    have hnil := (LightLuxBuffer.clear_spec h.manager.wellFormed).2.2
    simp [Latest, LightLuxManager.clearLuxData, LightLuxBuffer.newest, hnil]

theorem latest_start : (start modeArray).Latest := by
  simp [Latest, start, LightLuxManager.initParameters, LightLuxBuffer.newest,
    LightLuxBuffer.entries_default]

/-- In every run, a reading that finds room is the newest entry and one that finds none is
dropped; while all find room, the smoothed value is that of the latest readings. -/
theorem newest_reading_kept (hmode : modeArray.lookup "DefaultMode" = some mode)
    (calls : List LuxCall) :
    Runs.Always step (fun s call => (s.HasRoom call → s.StoresNewest call) ∧
        (¬ s.HasRoom call → s.DropsNewest call)) (start modeArray) calls ∧
      (Runs.Always step HasRoom (start modeArray) calls →
        Runs.Always step HoldsLatest (start modeArray) calls) := by
  constructor
  · refine Runs.always_of_invariant (C := fun _ _ => True) (J := Sound mode) ?_ ?_
      (sound_start hmode) (Runs.always_of_forall (fun _ _ _ => trivial) _)
    · exact fun s call t hs _ ht => sound_step hs ht
    · exact fun s call hs _ => stores_or_drops hs call
  · refine Runs.always_of_invariant (J := fun s => s.Sound mode ∧ s.Latest) ?_ ?_
      ⟨sound_start hmode, latest_start⟩
    · exact fun s call t hs hroom ht => ⟨sound_step hs.1 ht, latest_step hs.1 hs.2 hroom ht⟩
    · exact fun s call hs hroom t ht =>
        ⟨latest_step hs.1 hs.2 hroom ht, LightLuxManager.calcSmoothLux_eq _⟩

theorem newest_reading_kept_default :
    Runs.Always step (fun s call => (s.HasRoom call → s.StoresNewest call) ∧
        (¬ s.HasRoom call → s.DropsNewest call))
        (start [("DefaultMode", defaultLuxThresholdMode)]) [.isNeedUpdateBrightness 7 0] ∧
      (Runs.Always step HasRoom (start [("DefaultMode", defaultLuxThresholdMode)])
          [.isNeedUpdateBrightness 7 0] →
        Runs.Always step HoldsLatest (start [("DefaultMode", defaultLuxThresholdMode)])
          [.isNeedUpdateBrightness 7 0]) :=
  newest_reading_kept rfl _

theorem replicate_room (h : s.Sound mode) {n : ℕ}
    (hentries : s.manager.luxBuffer.entries = List.replicate n (0, 0)) :
    Samples.prune (0 - LightLuxManager.LIGHT_LUX_BUFFER_RANGE) s.manager.luxBuffer.entries =
        List.replicate n (0, 0) ∧
      (s.manager.luxBuffer.NoRoom 0 ↔ ¬ n < LightLuxBuffer.LUX_BUFFER_SIZE_MAX) := by
  have hpruned : Samples.prune (0 - LightLuxManager.LIGHT_LUX_BUFFER_RANGE)
      s.manager.luxBuffer.entries = List.replicate n (0, 0) := by
    rw [hentries]
    apply Samples.prune_eq_self
    intro x hx
    rw [List.eq_of_mem_replicate hx]
    decide
  have hcount := congrArg List.length ((LightLuxBuffer.prune_spec h.manager.wellFormed
    (0 - LightLuxManager.LIGHT_LUX_BUFFER_RANGE)).2.2.trans hpruned)
  rw [LightLuxBuffer.length_entries, List.length_replicate] at hcount
  refine ⟨hpruned, ?_⟩
  rw [noRoom_iff h, LightLuxBuffer.getSize, hcount]

theorem entries_replicate (hmode : modeArray.lookup "DefaultMode" = some mode) {n : ℕ}
    (hn : n ≤ LightLuxBuffer.LUX_BUFFER_SIZE_MAX) :
    ∀ t, Runs.run step (start modeArray) (List.replicate n (.isNeedUpdateBrightness 0 0)) = some t →
      t.Sound mode ∧ t.manager.luxBuffer.entries = List.replicate n (0, 0) := by
  induction n with
  | zero =>
    rintro t ht
    obtain rfl := Option.some.inj ht
    exact ⟨sound_start hmode, LightLuxBuffer.entries_default⟩
  | succ n ih =>
    intro t ht
    rw [List.replicate_succ', Runs.run_append_some] at ht
    obtain ⟨u, hu, hut⟩ := ht
    obtain ⟨hsound, hentries⟩ := ih (by omega) u hu
    obtain ⟨v, hv, hvt⟩ := Runs.run_cons_some.mp hut
    obtain rfl := Option.some.inj hvt
    refine ⟨sound_step hsound hv, ?_⟩
    obtain ⟨hpruned, hno⟩ := replicate_room hsound hentries
    have hroom : ¬ u.manager.luxBuffer.NoRoom 0 := fun hfull => hno.mp hfull (by omega)
    rw [(luxBuffer_reading hsound hv).1, LightLuxManager.recordLux,
      (LightLuxBuffer.record_entries hsound.manager.wellFormed _ _).2, if_neg hroom, hpruned,
      List.replicate_succ']
    rfl

/-- The 513th reading of a millisecond is lost. -/
theorem newest_reading_lost :
    ¬ Runs.Always step StoresNewest (start [("DefaultMode", defaultLuxThresholdMode)])
      (List.replicate 512 (.isNeedUpdateBrightness 0 0) ++ [.isNeedUpdateBrightness 1 0]) := by
  intro halways
  have hmode : [("DefaultMode", defaultLuxThresholdMode)].lookup "DefaultMode" =
      some (defaultLuxThresholdMode : LuxThresholdMode) := rfl
  obtain ⟨s, hs, hsound⟩ := run_isSome (sound_start hmode)
    (List.replicate 512 (.isNeedUpdateBrightness 0 0))
  obtain ⟨_, hentries⟩ := entries_replicate hmode (by decide) s hs
  obtain ⟨t, ht⟩ := step_isSome hsound (.isNeedUpdateBrightness 1 0)
  have hnewest := ((Runs.always_append.mp halways).2 s hs).1 t ht
  obtain ⟨hpruned, hno⟩ := replicate_room hsound hentries
  have hfull : s.manager.luxBuffer.NoRoom 0 := hno.mpr (by decide)
  rw [(luxBuffer_reading hsound ht).1, LightLuxManager.recordLux,
    (LightLuxBuffer.record_entries hsound.manager.wellFormed _ _).2, if_pos hfull, hpruned,
    List.append_nil, List.getLast?_replicate] at hnewest
  simp [LightLuxManager.getValidLux, LightLuxManager.LIGHT_MAX_LUX] at hnewest

end LuxTrace

end DisplayPowerMgr
