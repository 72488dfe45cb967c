import DisplayPowerMgr.LuxRuns

/-! The debounce of `LightLuxManager` against the signal it samples: a reading changes the filtered
light exactly when all smoothed samples of the debounce time lie beyond a threshold. -/
namespace DisplayPowerMgr

open Samples (InOrder HeldThrough Sustained Agree)

variable {F : Type} [FloatArithmetic F]

namespace LightLuxManager

variable {m : LightLuxManager F} {mode : LuxThresholdMode F} {lux : F} {currentTime : ℤ}

/-- The loop over the ring walks back through the list of its entries. -/
theorem earliestValidTime_eq (b : LightLuxBuffer F) (beyond : F → Bool) {n : ℕ} (hn : n ≤ b.count)
    (earliest : ℤ) : earliestValidTime b beyond earliest n =
      Samples.earliest beyond earliest (b.entries.take n).reverse := by
  induction n generalizing earliest with
  | zero => rfl
  | succ n ih =>
    have hlt : n < b.entries.length := by simpa using Nat.lt_of_succ_le hn
    have hentry : b.entries[n] = (b.getTime n, b.getData n) := by
      simp [LightLuxBuffer.entries]
    rw [List.take_succ_eq_append_getElem hlt, List.reverse_append, List.reverse_singleton,
      List.singleton_append, hentry, earliestValidTime, Samples.earliest, ih (by omega)]

theorem earliestValidTime_entries (b : LightLuxBuffer F) (beyond : F → Bool) (currentTime : ℤ) :
    earliestValidTime b beyond currentTime b.getSize =
      Samples.earliest beyond currentTime b.entries.reverse := by
  have htake : b.entries.take b.getSize = b.entries := by
    apply List.take_of_length_le
    rw [LightLuxBuffer.length_entries, LightLuxBuffer.getSize]
  rw [earliestValidTime_eq b beyond (n := b.getSize) le_rfl, htake]

theorem responseTime_of_pos {debounceTime : ℤ} (hpos : 0 < debounceTime) :
    responseTime debounceTime = debounceTime := by
  rw [responseTime, if_neg]
  simp only [INVALID_VALUE]
  omega

/-- With a positive debounce time and more than one sample, a threshold is due once all samples
since the debounce time lie beyond it. -/
theorem isDue_iff (hin : InOrder m.luxBufferFilter.entries)
    (hpast : ∀ x ∈ m.luxBufferFilter.entries, x.1 ≤ currentTime)
    (hsize : m.luxBufferFilter.getSize ≠ 1) {debounceTime : ℤ} (hpos : 0 < debounceTime)
    (beyond : F → Bool) :
    m.isDue beyond debounceTime currentTime = true ↔
      Sustained (fun v => beyond v = true) (currentTime - debounceTime)
        m.luxBufferFilter.entries := by
  have hnot : ¬ currentTime ≤ currentTime - debounceTime := by omega
  have hwalk := Samples.earliest_le_iff (P := beyond) (a := currentTime - debounceTime) hin hpast
  rw [isDue, if_neg hsize, responseTime_of_pos hpos, earliestValidTime_entries,
    decide_eq_true_iff, ← le_sub_iff_add_le, hwalk]
  exact or_iff_right hnot

theorem isDue_of_nonpos (hpast : ∀ x ∈ m.luxBufferFilter.entries, x.1 ≤ currentTime)
    {debounceTime : ℤ} (hnonpos : debounceTime ≤ 0) (beyond : F → Bool) :
    m.isDue beyond debounceTime currentTime = true := by
  have hwalk : Samples.earliest beyond currentTime m.luxBufferFilter.entries.reverse ≤
      currentTime := by
    apply Samples.earliest_le le_rfl
    intro x hx
    exact hpast x (List.mem_reverse.mp hx)
  have hresponse : responseTime debounceTime ≤ 0 := by
    rw [responseTime]
    split
    · exact le_rfl
    · exact hnonpos
  rw [isDue, earliestValidTime_entries, decide_eq_true_iff]
  split
  · omega
  · omega

end LightLuxManager

namespace LuxTrace

variable {s t : LuxTrace F} {mode : LuxThresholdMode F}
variable {modeArray : List (String × LuxThresholdMode F)}
variable {lux : F} {currentTime : ℤ} {P : F → Prop} {a : ℤ}

def ClockForward (s : LuxTrace F) : LuxCall F → Prop
  | .isNeedUpdateBrightness _ currentTime | .setLux _ currentTime =>
    ∀ c ∈ s.clock, c ≤ currentTime
  | .clearLuxData => True

/-- The samples the manager still has. -/
def window (s : LuxTrace F) : List (ℤ × F) := s.manager.luxBufferFilter.entries

/-- The smoothed samples since the last clear, with that of one more reading. -/
def smoothedWith (s : LuxTrace F) (lux : F) (currentTime : ℤ) : List (ℤ × F) :=
  s.smoothed ++ [(currentTime, s.manager.smoothLux lux currentTime)]

def windowWith (s : LuxTrace F) (lux : F) (currentTime : ℤ) : List (ℤ × F) :=
  (s.manager.observe lux currentTime).luxBufferFilter.entries

/-- The window answers for the samples of the last `LIGHT_LUX_BUFFER_RANGE` milliseconds. -/
structure Tracks (mode : LuxThresholdMode F) (s : LuxTrace F) : Prop where
  aligned : s.Aligned mode
  empty_iff : s.window = [] ↔ s.smoothed = []
  unclocked : s.clock = none → s.smoothed = []
  smoothedInOrder : InOrder s.smoothed
  windowInOrder : InOrder s.window
  smoothedPast : ∀ c ∈ s.clock, ∀ x ∈ s.smoothed, x.1 ≤ c
  windowPast : ∀ c ∈ s.clock, ∀ x ∈ s.window, x.1 ≤ c
  agree : ∀ c ∈ s.clock, Agree (c - LightLuxManager.LIGHT_LUX_BUFFER_RANGE) s.smoothed s.window

theorem Tracks.smoothed_le (h : s.Tracks mode) (hclock : ∀ c ∈ s.clock, c ≤ currentTime) :
    ∀ x ∈ s.smoothed, x.1 ≤ currentTime := by
  intro x hx
  cases hc : s.clock with
  | none => simp [h.unclocked hc] at hx
  | some c => exact (h.smoothedPast c hc x hx).trans (hclock c hc)

theorem Tracks.window_le (h : s.Tracks mode) (hclock : ∀ c ∈ s.clock, c ≤ currentTime) :
    ∀ x ∈ s.window, x.1 ≤ currentTime := by
  intro x hx
  cases hc : s.clock with
  | none => simp [h.empty_iff.mpr (h.unclocked hc)] at hx
  | some c => exact (h.windowPast c hc x hx).trans (hclock c hc)

theorem windowWith_eq (h : s.Aligned mode) (lux : F) (currentTime : ℤ) :
    s.windowWith lux currentTime =
      Samples.prune (currentTime - LightLuxManager.LIGHT_LUX_BUFFER_RANGE) s.window ++
        if s.manager.luxBufferFilter.NoRoom currentTime then []
        else [(currentTime, s.manager.smoothLux lux currentTime)] :=
  (LightLuxBuffer.record_entries h.manager.filterWellFormed _ _).2

theorem windowWith_ne_nil (h : s.Aligned mode) : s.windowWith lux currentTime ≠ [] := by
  intro hnil
  apply LightLuxManager.observe_getSize_ne_zero h.manager.toFormed lux currentTime
  rw [LightLuxBuffer.getSize, ← LightLuxBuffer.length_entries]
  exact congrArg List.length hnil

theorem windowWith_last (h : s.Aligned mode) {before : List (ℤ × F)} {x : ℤ × F}
    (heq : s.windowWith lux currentTime = before ++ [x]) :
    x.2 = s.manager.smoothLux lux currentTime := by
  apply (LightLuxManager.aligned_observe h.manager lux currentTime).smooth
  have hnewest : (s.manager.observe lux currentTime).luxBufferFilter.newest =
      ((before ++ [x]).map Prod.snd).reverse := congrArg (fun l => (l.map Prod.snd).reverse) heq
  simp [hnewest]

theorem Tracks.windowWith_inOrder (h : s.Tracks mode) (lux : F)
    (hclock : ∀ c ∈ s.clock, c ≤ currentTime) :
    InOrder (s.windowWith lux currentTime) ∧ ∀ x ∈ s.windowWith lux currentTime,
      currentTime - LightLuxManager.LIGHT_LUX_BUFFER_RANGE ≤ x.1 ∧ x.1 ≤ currentTime := by
  have hrange : currentTime - LightLuxManager.LIGHT_LUX_BUFFER_RANGE ≤ currentTime := by
    simp only [LightLuxManager.LIGHT_LUX_BUFFER_RANGE]
    omega
  have hin := Samples.inOrder_prune (h := currentTime - LightLuxManager.LIGHT_LUX_BUFFER_RANGE)
    h.windowInOrder
  have hold := Samples.le_of_mem_prune
    (h := currentTime - LightLuxManager.LIGHT_LUX_BUFFER_RANGE) h.windowInOrder
  have hpast := Samples.prune_le (h.window_le hclock) hrange
  rw [windowWith_eq h.aligned]
  split
  · rw [List.append_nil]
    exact ⟨hin, fun x hx => ⟨hold x hx, hpast x hx⟩⟩
  · refine ⟨Samples.inOrder_concat hin hpast, ?_⟩
    intro x hx
    rcases List.mem_append.mp hx with hx | hx
    · exact ⟨hold x hx, hpast x hx⟩
    · obtain rfl := List.mem_singleton.mp hx
      exact ⟨hrange, le_rfl⟩

theorem windowWith_length (h : s.Aligned mode) (lux : F) (currentTime : ℤ) (hne : s.window ≠ []) :
    2 ≤ (s.windowWith lux currentTime).length := by
  have hkept : Samples.prune (currentTime - LightLuxManager.LIGHT_LUX_BUFFER_RANGE) s.window ≠ [] :=
    fun hnil => hne ((Samples.prune_eq_nil_iff _ _).mp hnil)
  rw [windowWith_eq h]
  by_cases hfull : s.manager.luxBufferFilter.NoRoom currentTime
  · have hcount := hfull.1
    have hmax := hfull.2
    have hentries := congrArg List.length (LightLuxBuffer.prune_spec h.manager.filterWellFormed
      (currentTime - LightLuxManager.LIGHT_LUX_BUFFER_RANGE)).2.2
    rw [LightLuxBuffer.length_entries, hcount] at hentries
    rw [if_pos hfull, List.append_nil, window, ← hentries]
    simp only [LightLuxBuffer.BUFFER_SIZE_INCREASE, LightLuxBuffer.LUX_BUFFER_SIZE_MAX] at hmax
    omega
  · have hpos := List.length_pos_iff.mpr hkept
    rw [if_neg hfull, List.length_append, List.length_singleton]
    omega

/-- The window goes on answering for the samples. A sample that a full buffer refuses repeats the
newest one, and is not missed. -/
theorem Tracks.agree_windowWith (h : s.Tracks mode) (lux : F)
    (hclock : ∀ c ∈ s.clock, c ≤ currentTime) :
    Agree (currentTime - LightLuxManager.LIGHT_LUX_BUFFER_RANGE) (s.smoothedWith lux currentTime)
      (s.windowWith lux currentTime) := by
  have hpruned : Agree (currentTime - LightLuxManager.LIGHT_LUX_BUFFER_RANGE) s.smoothed
      (Samples.prune (currentTime - LightLuxManager.LIGHT_LUX_BUFFER_RANGE) s.window) := by
    cases hc : s.clock with
    | none =>
      have hnil := h.unclocked hc
      rw [h.empty_iff.mpr hnil, hnil]
      exact fun _ _ _ => Iff.rfl
    | some c =>
      apply (h.agree c hc).prune
      have := hclock c hc
      omega
  have hwindow := windowWith_eq h.aligned lux currentTime
  by_cases hfull : s.manager.luxBufferFilter.NoRoom currentTime
  · rw [if_pos hfull, List.append_nil] at hwindow
    rcases List.eq_nil_or_concat (s.windowWith lux currentTime) with hnil | ⟨before, x, hconcat⟩
    · exact absurd hnil (windowWith_ne_nil h.aligned)
    · rw [List.concat_eq_append] at hconcat
      have hpast := ((h.windowWith_inOrder lux hclock).2 x (by simp [hconcat])).2
      have hvalue := windowWith_last h.aligned hconcat
      rw [← hwindow, hconcat] at hpruned
      rw [hconcat]
      exact hpruned.repeat hpast hvalue.symm
  · rw [if_neg hfull] at hwindow
    rw [hwindow]
    exact hpruned.concat _

theorem smoothedWith_le (h : s.Tracks mode) (lux : F) (hclock : ∀ c ∈ s.clock, c ≤ currentTime) :
    InOrder (s.smoothedWith lux currentTime) ∧
      ∀ x ∈ s.smoothedWith lux currentTime, x.1 ≤ currentTime := by
  have hpast := h.smoothed_le hclock
  refine ⟨Samples.inOrder_concat h.smoothedInOrder hpast, ?_⟩
  intro x hx
  rcases List.mem_append.mp hx with hx | hx
  · exact hpast x hx
  · rw [List.mem_singleton.mp hx]

theorem tracks_reading (h : s.Tracks mode) (hclock : ∀ c ∈ s.clock, c ≤ currentTime)
    (hsmooth : s.NotNegative (.isNeedUpdateBrightness lux currentTime))
    (ht : s.step (.isNeedUpdateBrightness lux currentTime) = some t) : t.Tracks mode := by
  have haligned := aligned_reading h.aligned hsmooth ht
  obtain ⟨_, _, _, heq, _⟩ := reading_step h.aligned hsmooth
  obtain rfl := Option.some.inj (heq.symm.trans ht)
  obtain ⟨hin, hpast⟩ := smoothedWith_le h lux hclock
  obtain ⟨hwin, hwpast⟩ := h.windowWith_inOrder lux hclock
  refine ⟨haligned, ?_, by simp [remember], hin, hwin, ?_, ?_, ?_⟩
  · exact iff_of_false (windowWith_ne_nil h.aligned) (by simp [remember])
  · rintro c ⟨⟩
    exact hpast
  · rintro c ⟨⟩
    exact fun x hx => (hwpast x hx).2
  · rintro c ⟨⟩
    exact h.agree_windowWith lux hclock

theorem tracks_step (h : s.Tracks mode) {call : LuxCall F} (hclock : s.ClockForward call)
    (hsmooth : s.NotNegative call) (ht : s.step call = some t) : t.Tracks mode := by
  cases call with
  | isNeedUpdateBrightness lux currentTime => exact tracks_reading h hclock hsmooth ht
  | setLux lux currentTime =>
    rw [step_setLux] at ht
    exact tracks_reading h hclock hsmooth ht
  | clearLuxData =>
    have haligned := aligned_step h.aligned hsmooth ht
    obtain rfl := Option.some.inj ht
    have hwindow : window { s with
        manager := s.manager.clearLuxData, readings := [], smoothed := [] } = [] :=
      (LightLuxBuffer.clear_spec h.aligned.manager.filterWellFormed).2.2
    refine ⟨haligned, iff_of_true hwindow rfl, fun _ => rfl, List.Pairwise.nil, ?_, by simp, ?_, ?_⟩
    · rw [hwindow]
      exact List.Pairwise.nil
    · simp [hwindow]
    · rw [hwindow]
      exact fun _ _ _ _ _ => Iff.rfl

theorem tracks_start (hmode : modeArray.lookup "DefaultMode" = some mode) :
    (start modeArray).Tracks mode := by
  have hwindow : (start modeArray).window = [] := LightLuxBuffer.entries_default
  refine ⟨aligned_start hmode, iff_of_true hwindow rfl, fun _ => rfl, List.Pairwise.nil, ?_,
    by simp [start], by simp [start], by simp [start]⟩
  rw [hwindow]
  exact List.Pairwise.nil

theorem answer_spec (h : s.Aligned mode)
    (hsmooth : s.NotNegative (.isNeedUpdateBrightness lux currentTime)) :
    ∃ answer, s.manager.isNeedUpdateBrightness lux currentTime = some answer ∧
      answer.2 = (s.manager.observe lux currentTime).decides mode currentTime ∧
      answer.1.smoothedButNotStabledLux = s.manager.smoothLux lux currentTime := by
  obtain ⟨_, _, _, heq, _⟩ := LightLuxManager.reading_settles h.manager.toFormed hsmooth h.mode
  exact ⟨_, heq, rfl, rfl⟩

theorem isFirstLux_observe (h : s.Tracks mode) (lux : F) (currentTime : ℤ)
    (hfirst : s.smoothed ≠ []) :
    (s.manager.observe lux currentTime).luxBufferFilter.getSize ≠ 1 ∧
      (s.manager.observe lux currentTime).isFirstLux = false := by
  have hlength := windowWith_length h.aligned lux currentTime
    (fun hnil => hfirst (h.empty_iff.mp hnil))
  have hcount :=
    (LightLuxManager.aligned_observe h.aligned.manager lux currentTime).lockstep.count_eq
  rw [windowWith, LightLuxBuffer.length_entries] at hlength
  refine ⟨?_, decide_eq_false ?_⟩
  · rw [LightLuxBuffer.getSize]
    omega
  · change (s.manager.observe lux currentTime).luxBuffer.count ≠ 1
    omega

theorem decides_iff (h : s.Tracks mode) (lux : F) (hclock : ∀ c ∈ s.clock, c ≤ currentTime)
    (hfirst : s.smoothed ≠ []) (hbrighten : 0 < mode.brightenDebounceTime)
    (hdarken : 0 < mode.darkenDebounceTime) :
    (s.manager.observe lux currentTime).decides mode currentTime = true ↔
      Sustained (fun v => s.manager.isBrighter v = true) (currentTime - mode.brightenDebounceTime)
          (s.windowWith lux currentTime) ∨
        Sustained (fun v => s.manager.isDarker v = true) (currentTime - mode.darkenDebounceTime)
          (s.windowWith lux currentTime) := by
  obtain ⟨hin, hrange⟩ := h.windowWith_inOrder lux hclock
  have hpast : ∀ x ∈ s.windowWith lux currentTime, x.1 ≤ currentTime := fun x hx =>
    (hrange x hx).2
  obtain ⟨hsize, hnotfirst⟩ := isFirstLux_observe h lux currentTime hfirst
  rw [LightLuxManager.decides, hnotfirst, Bool.or_false, Bool.or_eq_true,
    LightLuxManager.isDue_iff hin hpast hsize hbrighten,
    LightLuxManager.isDue_iff hin hpast hsize hdarken]
  rfl

/-- Inside the window, the window and all the samples give the same answer. -/
theorem sustained_windowWith_iff (h : s.Tracks mode) (lux : F)
    (hclock : ∀ c ∈ s.clock, c ≤ currentTime) {debounceTime : ℤ}
    (hle : debounceTime ≤ LightLuxManager.LIGHT_LUX_BUFFER_RANGE) (P : F → Prop) :
    Sustained P (currentTime - debounceTime) (s.windowWith lux currentTime) ↔
      Sustained P (currentTime - debounceTime) (s.smoothedWith lux currentTime) :=
  (h.agree_windowWith lux hclock P _ (by omega)).symm

/-- With a debounce time that is not positive, every reading is answered with a change. -/
theorem decides_of_nonpos (h : s.Tracks mode) (lux : F) (hclock : ∀ c ∈ s.clock, c ≤ currentTime)
    (hnonpos : mode.brightenDebounceTime ≤ 0 ∨ mode.darkenDebounceTime ≤ 0) :
    (s.manager.observe lux currentTime).decides mode currentTime = true := by
  have hpast : ∀ x ∈ (s.manager.observe lux currentTime).luxBufferFilter.entries,
      x.1 ≤ currentTime := fun x hx => ((h.windowWith_inOrder lux hclock).2 x hx).2
  rw [LightLuxManager.decides]
  rcases hnonpos with hbrighten | hdarken
  · rw [LightLuxManager.isDue_of_nonpos hpast hbrighten]
    rfl
  · rw [LightLuxManager.isDue_of_nonpos hpast hdarken, Bool.or_true, Bool.true_or]

theorem sustained_windowWith (h : s.Tracks mode) (hclock : ∀ c ∈ s.clock, c ≤ currentTime)
    {debounceTime : ℤ}
    (hsustained : Sustained P (currentTime - debounceTime) (s.windowWith lux currentTime)) :
    P (s.manager.smoothLux lux currentTime) ∧
      debounceTime ≤ LightLuxManager.LIGHT_LUX_BUFFER_RANGE := by
  constructor
  · rcases List.eq_nil_or_concat (s.windowWith lux currentTime) with hnil | ⟨before, x, hconcat⟩
    · exact absurd hnil (windowWith_ne_nil h.aligned)
    · rw [List.concat_eq_append] at hconcat
      rw [hconcat, Samples.sustained_concat] at hsustained
      rw [← windowWith_last h.aligned hconcat]
      exact hsustained.1
  · obtain ⟨before, x, after, heq, hx, _⟩ := hsustained
    have hrange := ((h.windowWith_inOrder lux hclock).2 x (by simp [heq])).1
    omega

end LuxTrace

namespace LightLuxManager

@[simp] theorem isBrighter_iff (m : LightLuxManager) (v : ℚ) :
    m.isBrighter v = true ↔ m.filteredLux + m.brightenDelta ≤ v := by
  rw [isBrighter, decide_eq_true_iff, not_lt]
  constructor <;> intro h <;> linarith

@[simp] theorem isDarker_iff (m : LightLuxManager) (v : ℚ) :
    m.isDarker v = true ↔ v ≤ m.filteredLux - m.darkenDelta := by
  rw [isDarker, decide_eq_true_iff, not_lt]
  constructor <;> intro h <;> linarith

end LightLuxManager

namespace LuxTrace

variable {s : LuxTrace} {mode : LuxThresholdMode} {modeArray : List (String × LuxThresholdMode)}

def Brighter (s : LuxTrace) (v : ℚ) : Prop := s.manager.filteredLux + s.manager.brightenDelta ≤ v

def Darker (s : LuxTrace) (v : ℚ) : Prop := v ≤ s.manager.filteredLux - s.manager.darkenDelta

theorem isBrighter_eq (s : LuxTrace) : (fun v => s.manager.isBrighter v = true) = s.Brighter :=
  funext fun v => propext (LightLuxManager.isBrighter_iff _ v)

theorem isDarker_eq (s : LuxTrace) : (fun v => s.manager.isDarker v = true) = s.Darker :=
  funext fun v => propext (LightLuxManager.isDarker_iff _ v)

/-- A reading that is not the first is answered, and changes the filtered light according to the
samples in effect during either debounce time and the thresholds from before the reading. -/
def DebounceExact (mode : LuxThresholdMode) (s : LuxTrace) : LuxCall → Prop
  | .isNeedUpdateBrightness lux currentTime =>
    s.smoothed ≠ [] → ∃ answer, s.manager.isNeedUpdateBrightness lux currentTime = some answer ∧
      let samples := s.smoothed ++ [(currentTime, answer.1.smoothedButNotStabledLux)]
      (answer.2 = true ↔
        HeldThrough s.Brighter (currentTime - mode.brightenDebounceTime) currentTime samples ∨
          HeldThrough s.Darker (currentTime - mode.darkenDebounceTime) currentTime samples)
  | _ => True

theorem debounceExact (h : s.Tracks mode) (hsound : s.Sound mode) {call : LuxCall}
    (hclock : s.ClockForward call)
    (hbrighten : 1 ≤ mode.brightenDebounceTime ∧ mode.brightenDebounceTime ≤ 10000)
    (hdarken : 1 ≤ mode.darkenDebounceTime ∧ mode.darkenDebounceTime ≤ 10000) :
    DebounceExact mode s call := by
  cases call with
  | isNeedUpdateBrightness lux currentTime =>
    intro hfirst
    obtain ⟨answer, hanswer, hdecides, hvalue⟩ := answer_spec h.aligned (hsound.notNegative _)
    refine ⟨answer, hanswer, ?_⟩
    obtain ⟨hin, hpast⟩ := smoothedWith_le h lux hclock
    rw [hdecides, decides_iff h lux hclock hfirst (by omega) (by omega),
      sustained_windowWith_iff h lux hclock hbrighten.2,
      sustained_windowWith_iff h lux hclock hdarken.2, isBrighter_eq, isDarker_eq, hvalue]
    exact or_congr (Samples.heldThrough_iff_sustained hin hpast).symm
      (Samples.heldThrough_iff_sustained hin hpast).symm
  | setLux lux currentTime => trivial
  | clearLuxData => trivial

/-- With debounce times inside the window, every run debounces as the signal it samples says. -/
theorem debounce_exact (hmode : modeArray.lookup "DefaultMode" = some mode)
    (hbrighten : 1 ≤ mode.brightenDebounceTime ∧ mode.brightenDebounceTime ≤ 10000)
    (hdarken : 1 ≤ mode.darkenDebounceTime ∧ mode.darkenDebounceTime ≤ 10000)
    {calls : List LuxCall} (hclock : Runs.Always step ClockForward (start modeArray) calls) :
    Runs.Always step (DebounceExact mode) (start modeArray) calls :=
  Runs.always_of_invariant (J := fun s => s.Tracks mode ∧ s.Sound mode)
    (fun _ _ _ h hc ht => ⟨tracks_step h.1 hc (h.2.notNegative _) ht, sound_step h.2 ht⟩)
    (fun _ _ h hc => debounceExact h.1 h.2 hc hbrighten hdarken)
    ⟨tracks_start hmode, sound_start hmode⟩ hclock

theorem debounce_exact_default :
    Runs.Always step (DebounceExact defaultLuxThresholdMode)
      (start [("DefaultMode", defaultLuxThresholdMode)])
      [.isNeedUpdateBrightness 0 0, .isNeedUpdateBrightness 200 1] := by
  have hsound : (start [("DefaultMode", defaultLuxThresholdMode)]).Sound defaultLuxThresholdMode :=
    sound_start rfl
  refine debounce_exact rfl (by decide) (by decide) ⟨by simp [ClockForward, start], ?_⟩
  intro t ht
  obtain ⟨_, _, _, heq, _⟩ :=
    reading_step hsound.aligned (hsound.notNegative (.isNeedUpdateBrightness 0 0))
  obtain rfl := Option.some.inj (heq.symm.trans ht)
  simp [ClockForward, remember]

end LuxTrace

end DisplayPowerMgr
