import DisplayPowerMgr.LuxDebounce

/-! Changes of the light that last for the debounce time, in the single precision of the code. The
code asks whether a rounded difference reaches a threshold, and rounding never takes a difference
below a number that it reaches. -/
namespace DisplayPowerMgr

open Samples (Sustained)

namespace LightLuxManager

variable {m : LightLuxManager Single} {mode : LuxThresholdMode Single} {lux : Single}
variable {currentTime : ℤ}

theorem updateParam_bare (hmode : m.getCurrentModeData = some mode)
    (hbrighten : mode.brightenPoints = []) (hdarken : mode.darkenPoints = []) (lux : Single) :
    m.updateParam lux = some { m with filteredLux := lux } := by
  have hkept (old : Single) : keptDelta old (float INVALID_VALUE) = old :=
    if_neg (by decide +kernel)
  rw [updateParam_eq hmode, hbrighten, hdarken, calcDelta, hkept, hkept]
  rfl

theorem reading_bare (h : m.Formed) (hsmooth : ¬ m.smoothLux lux currentTime < float 0)
    (hmode : m.getCurrentModeData = some mode) (hbrighten : mode.brightenPoints = [])
    (hdarken : mode.darkenPoints = []) :
    m.isNeedUpdateBrightness lux currentTime =
      some ((m.observe lux currentTime).settle
        (if (m.observe lux currentTime).decides mode currentTime then m.smoothLux lux currentTime
          else m.filteredLux) m.brightenDelta m.darkenDelta,
        (m.observe lux currentTime).decides mode currentTime) := by
  rw [isNeedUpdateBrightness_eq h hsmooth hmode]
  cases (m.observe lux currentTime).decides mode currentTime with
  | false => rfl
  | true =>
    have hcurrent : (m.observe lux currentTime).getCurrentModeData = some mode := hmode
    rw [if_pos rfl, updateParam_bare hcurrent hbrighten hdarken]
    rfl

end LightLuxManager

namespace LuxTrace

variable {s t : LuxTrace Single} {mode : LuxThresholdMode Single}
variable {modeArray : List (String × LuxThresholdMode Single)} {lux : Single} {currentTime : ℤ}

/-- The value is at least `filteredLux + brightenDelta`, as numbers. -/
def ReachesBrighten (s : LuxTrace Single) (v : Single) : Prop :=
  BinaryFloat.Ahead s.manager.brightenDelta v s.manager.filteredLux

def ReachesDarken (s : LuxTrace Single) (v : Single) : Prop :=
  BinaryFloat.Ahead s.manager.darkenDelta s.manager.filteredLux v

theorem ReachesBrighten.isBrighter {v : Single} (h : s.ReachesBrighten v) :
    s.manager.isBrighter v = true := decide_eq_true h.not_sub_lt

theorem ReachesDarken.isDarker {v : Single} (h : s.ReachesDarken v) :
    s.manager.isDarker v = true := decide_eq_true h.not_sub_lt

/-- When the samples of the whole debounce time lie beyond a threshold, the reading is answered
with a change. -/
def FollowsSustained (mode : LuxThresholdMode Single) (s : LuxTrace Single) : LuxCall Single → Prop
  | .isNeedUpdateBrightness lux currentTime =>
    ∃ answer, s.manager.isNeedUpdateBrightness lux currentTime = some answer ∧
      let samples := s.smoothed ++ [(currentTime, answer.1.smoothedButNotStabledLux)]
      (Sustained s.ReachesBrighten (currentTime - mode.brightenDebounceTime) samples ∨
        Sustained s.ReachesDarken (currentTime - mode.darkenDebounceTime) samples →
          answer.2 = true)
  | _ => True

/-- The clock does not go back, and no smoothed value is negative: the loop of `CalcSmoothLux` sums
five readings before it takes two of them away, and the rounded sum may be too small for that. -/
def Smooths (s : LuxTrace Single) (call : LuxCall Single) : Prop :=
  s.ClockForward call ∧ s.NotNegative call

theorem tracks_smooths (h : s.Tracks mode) {call : LuxCall Single} (hcall : s.Smooths call)
    (ht : s.step call = some t) : t.Tracks mode := tracks_step h hcall.1 hcall.2 ht

theorem followsSustained (h : s.Tracks mode) {call : LuxCall Single} (hcall : s.Smooths call)
    (hbrighten : 0 < mode.brightenDebounceTime ∧ mode.brightenDebounceTime ≤ 10000)
    (hdarken : 0 < mode.darkenDebounceTime ∧ mode.darkenDebounceTime ≤ 10000) :
    FollowsSustained mode s call := by
  obtain ⟨hclock, hsmooth⟩ := hcall
  cases call with
  | isNeedUpdateBrightness lux currentTime =>
    obtain ⟨answer, hanswer, hdecides, hvalue⟩ := answer_spec h.aligned hsmooth
    refine ⟨answer, hanswer, ?_⟩
    rw [hdecides, hvalue]
    intro samples hsustained
    have hfirst : s.smoothed ≠ [] := by
      -- the reading itself was not taken before the debounce time
      intro hnil
      simp only [samples, hnil, List.nil_append, Samples.sustained_cons, Samples.not_sustained_nil,
        or_false] at hsustained
      omega
    rw [decides_iff h lux hclock hfirst hbrighten.1 hdarken.1,
      sustained_windowWith_iff h lux hclock hbrighten.2,
      sustained_windowWith_iff h lux hclock hdarken.2]
    exact hsustained.imp (Sustained.mono fun _ hv => ReachesBrighten.isBrighter hv)
      (Sustained.mono fun _ hv => ReachesDarken.isDarker hv)
  | setLux lux currentTime => trivial
  | clearLuxData => trivial

/-! Under a mode without points the thresholds of a short run stay those of a manager just made. -/

def Valid (lux : Single) : Prop :=
  LightLuxManager.getValidLux lux = lux ∧ ¬ lux < float 0

instance : DecidablePred Valid := fun _ => inferInstanceAs (Decidable (_ ∧ _))

structure Early (mode : LuxThresholdMode Single) (s : LuxTrace Single) (filteredLux : Single)
    (samples : List (ℤ × Single)) : Prop where
  tracks : s.Tracks mode
  brightenDelta : s.manager.brightenDelta = float 120
  darkenDelta : s.manager.darkenDelta = float 110
  filteredLux_eq : s.manager.filteredLux = filteredLux
  smoothed_eq : s.smoothed = samples
  count_le : s.manager.luxBuffer.count ≤ samples.length

theorem early_start (hmode : modeArray.lookup "DefaultMode" = some mode) :
    Early mode (start modeArray) (float 0) [] :=
  ⟨tracks_start hmode, rfl, rfl, rfl, rfl, le_rfl⟩

variable {filteredLux : Single} {samples : List (ℤ × Single)}

theorem Early.smoothLux_eq (h : Early mode s filteredLux samples) (hshort : samples.length < 4)
    (hlux : Valid lux) (currentTime : ℤ) : s.manager.smoothLux lux currentTime = lux ∧
      (s.manager.recordLux lux currentTime).count ≤ samples.length + 1 := by
  have hcount := h.count_le
  obtain ⟨hsmooth, hmore⟩ := h.tracks.aligned.manager.smoothLux_short (by omega) hlux.1 currentTime
  exact ⟨hsmooth, by omega⟩

theorem Early.notNegative (h : Early mode s filteredLux samples) (hshort : samples.length < 4)
    (hlux : Valid lux) (currentTime : ℤ) :
    s.NotNegative (.isNeedUpdateBrightness lux currentTime) := by
  rw [NotNegative, (h.smoothLux_eq hshort hlux currentTime).1]
  exact hlux.2

theorem Early.reading (h : Early mode s filteredLux samples)
    (hpoints : mode.brightenPoints = [] ∧ mode.darkenPoints = []) (hshort : samples.length < 4)
    (hlux : Valid lux) (currentTime : ℤ) (hclock : ∀ c ∈ s.clock, c ≤ currentTime) :
    ∃ t, s.step (.isNeedUpdateBrightness lux currentTime) = some t ∧ t.clock = some currentTime ∧
      Early mode t
        (if (s.manager.observe lux currentTime).decides mode currentTime then lux else filteredLux)
        (samples ++ [(currentTime, lux)]) := by
  obtain ⟨hsmooth, hmore⟩ := h.smoothLux_eq hshort hlux currentTime
  have hnonneg := h.notNegative hshort hlux currentTime
  have haligned := h.tracks.aligned
  have hreading := LightLuxManager.reading_bare haligned.manager.toFormed hnonneg haligned.mode
    hpoints.1 hpoints.2
  have hstep : ∃ t, s.step (.isNeedUpdateBrightness lux currentTime) = some t := by
    rw [step, hreading]
    exact ⟨_, rfl⟩
  obtain ⟨t, ht⟩ := hstep
  have htracks := tracks_reading h.tracks hclock hnonneg ht
  rw [step, hreading] at ht
  obtain rfl := Option.some.inj ht
  refine ⟨_, by rw [step, hreading]; rfl, rfl, htracks, h.brightenDelta, h.darkenDelta, ?_, ?_, ?_⟩
  · change (if (s.manager.observe lux currentTime).decides mode currentTime then
      s.manager.smoothLux lux currentTime else s.manager.filteredLux) = _
    rw [hsmooth, h.filteredLux_eq]
  · rw [← h.smoothed_eq]
    exact congrArg (fun v => s.smoothed ++ [(currentTime, v)]) hsmooth
  · rw [List.length_append, List.length_singleton]
    exact hmore

theorem Early.first (h : Early mode s filteredLux []) (hlux : Valid lux) (currentTime : ℤ) :
    (s.manager.observe lux currentTime).decides mode currentTime = true := by
  obtain ⟨_, hmore⟩ := h.smoothLux_eq (by simp) hlux currentTime
  have hpos := LightLuxManager.recordLux_getSize_ne_zero h.tracks.aligned.manager.toFormed lux
    currentTime
  rw [List.length_nil] at hmore
  rw [LightLuxBuffer.getSize] at hpos
  have hfirst : (s.manager.observe lux currentTime).isFirstLux = true := by
    refine decide_eq_true ?_
    rw [LightLuxBuffer.getSize]
    omega
  rw [LightLuxManager.decides, hfirst, Bool.or_true]

theorem early_after_first (hmode : modeArray.lookup "DefaultMode" = some mode)
    (hpoints : mode.brightenPoints = [] ∧ mode.darkenPoints = []) (hlux : Valid lux) :
    ∃ s, (start modeArray).step (.isNeedUpdateBrightness lux 0) = some s ∧ s.clock = some 0 ∧
      Early mode s lux [(0, lux)] := by
  obtain ⟨s, hs, hclock, hearly⟩ := (early_start hmode).reading hpoints (by simp) hlux 0
    (by simp [start])
  rw [if_pos ((early_start hmode).first hlux 0), List.nil_append] at hearly
  exact ⟨s, hs, hclock, hearly⟩

variable {first v : Single}

/-- No change is due while each threshold is either not passed or its debounce time is longer than
the window. -/
theorem Early.not_due (h : Early mode s filteredLux samples) (hne : samples ≠ [])
    (hshort : samples.length < 4) (hlux : Valid lux) (currentTime : ℤ)
    (hclock : ∀ c ∈ s.clock, c ≤ currentTime)
    (hpositive : 0 < mode.brightenDebounceTime ∧ 0 < mode.darkenDebounceTime)
    (hbrighter : 10000 < mode.brightenDebounceTime ∨ lux - filteredLux < float 120)
    (hdarker : 10000 < mode.darkenDebounceTime ∨ filteredLux - lux < float 110) :
    (s.manager.observe lux currentTime).decides mode currentTime = false := by
  obtain ⟨hsmooth, _⟩ := h.smoothLux_eq hshort hlux currentTime
  have hfirst : s.smoothed ≠ [] := by
    rw [h.smoothed_eq]
    exact hne
  apply Bool.eq_false_iff.mpr
  intro hdecides
  rcases (decides_iff h.tracks lux hclock hfirst hpositive.1 hpositive.2).mp hdecides with
    hsustained | hsustained
  · obtain ⟨hbeyond, hwindow⟩ := sustained_windowWith h.tracks hclock hsustained
    rw [hsmooth, LightLuxManager.isBrighter, h.filteredLux_eq, h.brightenDelta] at hbeyond
    rcases hbrighter with hlong | hnot
    · exact absurd hlong (not_lt.mpr hwindow)
    · exact absurd hnot (of_decide_eq_true hbeyond)
  · obtain ⟨hbeyond, hwindow⟩ := sustained_windowWith h.tracks hclock hsustained
    rw [hsmooth, LightLuxManager.isDarker, h.filteredLux_eq, h.darkenDelta] at hbeyond
    rcases hdarker with hlong | hnot
    · exact absurd hlong (not_lt.mpr hwindow)
    · exact absurd hnot (of_decide_eq_true hbeyond)

def changeRun (first v : Single) (debounceTime : ℤ) : List (LuxCall Single) :=
  [.isNeedUpdateBrightness first 0, .isNeedUpdateBrightness v 1,
    .isNeedUpdateBrightness v (debounceTime + 1)]

/-- A change is missed if its debounce time is longer than the window. -/
theorem sustained_missed (hmode : modeArray.lookup "DefaultMode" = some mode)
    (hpoints : mode.brightenPoints = [] ∧ mode.darkenPoints = [])
    (hpositive : 0 < mode.brightenDebounceTime ∧ 0 < mode.darkenDebounceTime)
    (hfirst : Valid first) (hv : Valid v)
    (hbrighter : 10000 < mode.brightenDebounceTime ∨ v - first < float 120)
    (hdarker : 10000 < mode.darkenDebounceTime ∨ first - v < float 110) {debounceTime : ℤ}
    (hlong : 10000 < debounceTime)
    (hbeyond : debounceTime = mode.brightenDebounceTime ∧ BinaryFloat.Ahead (float 120) v first ∨
      debounceTime = mode.darkenDebounceTime ∧ BinaryFloat.Ahead (float 110) first v) :
    Runs.Always step Smooths (start modeArray) (changeRun first v debounceTime) ∧
      ¬ Runs.Always step (FollowsSustained mode) (start modeArray)
        (changeRun first v debounceTime) := by
  obtain ⟨s, hs, hsclock, hsearly⟩ := early_after_first hmode hpoints hfirst
  have hsdue := hsearly.not_due (by simp) (by simp) hv 1 (by simp [hsclock]) hpositive hbrighter
    hdarker
  obtain ⟨t, ht, htclock, htearly⟩ := hsearly.reading hpoints (by simp) hv 1 (by simp [hsclock])
  rw [hsdue, if_neg Bool.false_ne_true, List.singleton_append] at htearly
  have hlater : ∀ c ∈ t.clock, c ≤ debounceTime + 1 := by
    rw [htclock]
    rintro c ⟨⟩
    omega
  have htdue := htearly.not_due (by simp) (by simp) hv (debounceTime + 1) hlater hpositive
    hbrighter hdarker
  have htsmooths := htearly.notNegative (by simp) hv (debounceTime + 1)
  obtain ⟨hsmooth, _⟩ := htearly.smoothLux_eq (by simp) hv (debounceTime + 1)
  constructor
  · refine ⟨⟨by simp [ClockForward, start], (early_start hmode).notNegative (by simp) hfirst 0⟩,
      fun s' hs' => ?_⟩
    obtain rfl := Option.some.inj (hs.symm.trans hs')
    refine ⟨⟨by simp [ClockForward, hsclock], hsearly.notNegative (by simp) hv 1⟩, fun t' ht' => ?_⟩
    obtain rfl := Option.some.inj (ht.symm.trans ht')
    exact ⟨⟨hlater, htsmooths⟩, fun _ _ => trivial⟩
  · intro hfollows
    obtain ⟨answer, hanswer, hchange⟩ := ((hfollows.2 s hs).2 t ht).1
    obtain ⟨answer', hanswer', hdecides, hvalue⟩ := answer_spec htearly.tracks.aligned htsmooths
    obtain rfl := Option.some.inj (hanswer.symm.trans hanswer')
    have hsustained {P : Single → Prop} (hP : P v) :
        Sustained P (debounceTime + 1 - debounceTime)
          (t.smoothed ++ [(debounceTime + 1, answer.1.smoothedButNotStabledLux)]) := by
      refine ⟨[(0, first)], (1, v), [(debounceTime + 1, v)], ?_, by simp, by simp [hP]⟩
      rw [htearly.smoothed_eq, hvalue, hsmooth]
      rfl
    apply Bool.false_ne_true
    rw [← htdue, ← hdecides]
    apply hchange
    rcases hbeyond with ⟨rfl, hbrighter⟩ | ⟨rfl, hdarker⟩
    · apply Or.inl
      apply hsustained
      rw [ReachesBrighten, htearly.filteredLux_eq, htearly.brightenDelta]
      exact hbrighter
    · apply Or.inr
      apply hsustained
      rw [ReachesDarken, htearly.filteredLux_eq, htearly.darkenDelta]
      exact hdarker

/-- Sustained changes are followed in every run of every configuration with these debounce times
in which no smoothed value is negative, if and only if neither time is longer than the window. -/
theorem sustained_followed_iff {b d : ℤ} (hb : 0 < b) (hd : 0 < d) :
    (∀ (modeArray : List (String × LuxThresholdMode Single)) mode,
      modeArray.lookup "DefaultMode" = some mode →
      mode.brightenDebounceTime = b → mode.darkenDebounceTime = d →
      ∀ calls, Runs.Always step Smooths (start modeArray) calls →
        Runs.Always step (FollowsSustained mode) (start modeArray) calls) ↔
      b ≤ 10000 ∧ d ≤ 10000 := by
  constructor
  · intro hfollows
    have hmissed {first v : Single} :=
      @sustained_missed ⟨b, d, [], []⟩ [("DefaultMode", ⟨b, d, [], []⟩)] first v rfl ⟨rfl, rfl⟩
        ⟨hb, hd⟩
    have hfollows := hfollows [("DefaultMode", ⟨b, d, [], []⟩)] ⟨b, d, [], []⟩ rfl rfl rfl
    have h0 : Valid (float 0) := by decide +kernel
    have h200 : Valid (float 200) := by decide +kernel
    have hahead : BinaryFloat.Ahead (float 120) (float 200 : Single) (float 0) ∧
        BinaryFloat.Ahead (float 110) (float 200 : Single) (float 0) := by decide +kernel
    have hbehind : (float 0 - float 200 : Single) < float 110 ∧
        (float 0 - float 200 : Single) < float 120 := by decide +kernel
    constructor
    · by_contra hlong
      have hlong := lt_of_not_ge hlong
      obtain ⟨hclock, hnot⟩ := hmissed h0 h200 (.inl hlong) (.inr hbehind.1) hlong
        (.inl ⟨rfl, hahead.1⟩)
      exact hnot (hfollows _ hclock)
    · by_contra hlong
      have hlong := lt_of_not_ge hlong
      obtain ⟨hclock, hnot⟩ := hmissed h200 h0 (.inr hbehind.2) (.inl hlong) hlong
        (.inr ⟨rfl, hahead.2⟩)
      exact hnot (hfollows _ hclock)
  · rintro ⟨hbrange, hdrange⟩ modeArray mode hmode rfl rfl calls hcalls
    exact Runs.always_of_invariant (fun _ _ _ h hc ht => tracks_smooths h hc ht)
      (fun _ _ h hc => followsSustained h hc ⟨hb, hbrange⟩ ⟨hd, hdrange⟩) (tracks_start hmode)
      hcalls

theorem sustained_followed_iff_default :
    (∀ (modeArray : List (String × LuxThresholdMode Single)) mode,
      modeArray.lookup "DefaultMode" = some mode →
      mode.brightenDebounceTime = 1200 → mode.darkenDebounceTime = 1500 →
      ∀ calls, Runs.Always step Smooths (start modeArray) calls →
        Runs.Always step (FollowsSustained mode) (start modeArray) calls) ↔
      (1200 : ℤ) ≤ 10000 ∧ (1500 : ℤ) ≤ 10000 :=
  sustained_followed_iff (by decide) (by decide)

/-- With a debounce time of 20 seconds, 200 lux that follow on darkness for them are missed. -/
theorem sustained_change_missed :
    Runs.Always step Smooths (start [("DefaultMode", ⟨20000, 1500, [], []⟩)])
        (changeRun (float 0) (float 200) 20000) ∧
      ¬ Runs.Always step (FollowsSustained ⟨20000, 1500, [], []⟩)
        (start [("DefaultMode", ⟨20000, 1500, [], []⟩)])
        (changeRun (float 0) (float 200) 20000) := by
  have h0 : Valid (float 0) := by decide +kernel
  have h200 : Valid (float 200) := by decide +kernel
  have hbehind : (float 0 - float 200 : Single) < float 110 := by decide +kernel
  have hahead : BinaryFloat.Ahead (float 120) (float 200 : Single) (float 0) := by decide +kernel
  exact sustained_missed rfl ⟨rfl, rfl⟩ (by decide) h0 h200 (.inl (by decide)) (.inr hbehind)
    (by decide) (.inl ⟨rfl, hahead⟩)

end LuxTrace

end DisplayPowerMgr
