import DisplayPowerMgr.LuxRuns

/-! What `CalcSmoothLux` computes from five readings or more: its loop leaves the mean of the
middle three of the newest five, which no single reading moves out of the range of the others. -/
namespace DisplayPowerMgr

open TrimmedMean (mean middle mean_middle mean_middle_between length_middle)

namespace LightLuxManager

/-- The loop from the index `i` down to `stop`. -/
def smoothLoop (b : LightLuxBuffer) (stop : ℕ) : ℕ → ℚ → ℚ → ℚ → ℚ × ℚ × ℚ
  -- the unsigned index does not get below 0: `stop` is 1 at least
  | 0, sum, luxMin, luxMax => (sum, luxMin, luxMax)
  | i + 1, sum, luxMin, luxMax =>
    if i + 1 ≥ stop then
      let lux := b.getData i
      let luxMin := if luxMin > lux then lux else luxMin
      let luxMax := if luxMax < lux then lux else luxMax
      smoothLoop b stop i (sum + lux) luxMin luxMax
    else (sum, luxMin, luxMax)

def smoothLuxOfLoop (m : LightLuxManager) : ℚ :=
  let size := m.luxBuffer.getSize
  let last := m.luxBuffer.getData (size - 1)
  let (sum, luxMin, luxMax) :=
    smoothLoop m.luxBuffer (size - (LIGHT_LUX_BUFFER_MIN - 1)) size 0 last last
  (sum - luxMin - luxMax) / 3

/-- The readings the loop passes from the index `i` on. -/
def passed (b : LightLuxBuffer) (stop i : ℕ) : List ℚ :=
  (List.range (i + 1 - stop)).map fun k => b.getData (i - 1 - k)

variable {b : LightLuxBuffer} {stop i : ℕ}

theorem passed_stop (h : i < stop) : passed b stop i = [] := by
  have hzero : i + 1 - stop = 0 := by omega
  simp [passed, hzero]

theorem passed_succ (h : stop ≤ i + 1) :
    passed b stop (i + 1) = b.getData i :: passed b stop i := by
  have hsucc : i + 1 + 1 - stop = i + 1 - stop + 1 := by omega
  simp only [passed, hsucc, List.range_succ_eq_map, List.map_cons, List.map_map, List.cons.injEq]
  refine ⟨by simp, ?_⟩
  apply List.map_congr_left
  intro k _
  simp only [Function.comp]
  congr 1
  omega

/-- Induction on the index: the turns add up what they pass and keep its bounds. -/
theorem smoothLoop_eq (hstop : 0 < stop) (i : ℕ) (sum luxMin luxMax : ℚ) :
    smoothLoop b stop i sum luxMin luxMax =
      (sum + (passed b stop i).sum, (passed b stop i).foldl min luxMin,
        (passed b stop i).foldl max luxMax) := by
  induction i generalizing sum luxMin luxMax with
  | zero => simp [smoothLoop, passed_stop hstop]
  | succ i ih =>
    rw [smoothLoop]
    by_cases hturn : i + 1 ≥ stop
    · have hmin : (if luxMin > b.getData i then b.getData i else luxMin) =
          min luxMin (b.getData i) := by
        rw [min_def]
        grind
      have hmax : (if luxMax < b.getData i then b.getData i else luxMax) =
          max luxMax (b.getData i) := by
        rw [max_def]
        grind
      rw [if_pos hturn, ih, passed_succ hturn, hmin, hmax, List.sum_cons, ← add_assoc]
      simp only [List.foldl_cons]
    · rw [if_neg hturn, passed_stop (by omega)]
      simp

def newestFive (m : LightLuxManager) : List ℚ := m.luxBuffer.newest.take LIGHT_LUX_BUFFER_MIN

variable {m m' : LightLuxManager} {k : ℕ} {x : ℚ}

theorem newestLux_eq (h : LIGHT_LUX_BUFFER_MIN ≤ m.luxBuffer.getSize) :
    newestLux m.luxBuffer = m.newestFive := by
  have hmin : min LIGHT_LUX_BUFFER_MIN m.luxBuffer.count = LIGHT_LUX_BUFFER_MIN := min_eq_left h
  rw [newestFive, LightLuxBuffer.newest_eq, ← List.map_take, List.take_range, hmin]
  rfl

theorem passed_eq (h : LIGHT_LUX_BUFFER_MIN ≤ m.luxBuffer.getSize) :
    passed m.luxBuffer (m.luxBuffer.getSize - (LIGHT_LUX_BUFFER_MIN - 1)) m.luxBuffer.getSize =
      m.newestFive := by
  have hturns : m.luxBuffer.getSize + 1 - (m.luxBuffer.getSize - (LIGHT_LUX_BUFFER_MIN - 1)) =
      LIGHT_LUX_BUFFER_MIN := by
    simp only [LIGHT_LUX_BUFFER_MIN] at *
    omega
  rw [passed, hturns, ← newestLux_eq h, newestLux]

theorem length_newestFive (h : LIGHT_LUX_BUFFER_MIN ≤ m.luxBuffer.getSize) :
    m.newestFive.length = LIGHT_LUX_BUFFER_MIN := by
  rw [← newestLux_eq h]
  simp [newestLux]

theorem last_mem_newestFive (h : LIGHT_LUX_BUFFER_MIN ≤ m.luxBuffer.getSize) :
    m.luxBuffer.getData (m.luxBuffer.getSize - 1) ∈ m.newestFive := by
  rw [← newestLux_eq h]
  exact List.mem_map.mpr ⟨0, by decide, rfl⟩

theorem calcSmoothLux_five (h : LIGHT_LUX_BUFFER_MIN ≤ m.luxBuffer.getSize) :
    m.calcSmoothLux =
      (m.newestFive.sum - m.newestFive.foldl min (m.luxBuffer.getData (m.luxBuffer.getSize - 1)) -
        m.newestFive.foldl max (m.luxBuffer.getData (m.luxBuffer.getSize - 1))) / 3 := by
  have hsome : m.luxBuffer.getSize ≠ 0 := by
    simp only [LIGHT_LUX_BUFFER_MIN] at h
    omega
  simp only [calcSmoothLux, if_neg hsome, if_neg (Nat.not_lt_of_le h), newestLux_eq h,
    meanOfMiddle_rat]

theorem smoothLuxOfLoop_eq (h : LIGHT_LUX_BUFFER_MIN ≤ m.luxBuffer.getSize) :
    m.smoothLuxOfLoop = m.calcSmoothLux := by
  have hstop : 0 < m.luxBuffer.getSize - (LIGHT_LUX_BUFFER_MIN - 1) := by
    simp only [LIGHT_LUX_BUFFER_MIN] at *
    omega
  rw [calcSmoothLux_five h]
  simp only [smoothLuxOfLoop, smoothLoop_eq hstop, passed_eq h, zero_add]

/-- Sum less running bounds is the order statistic, whatever the order of the readings and their
ties. -/
theorem calcSmoothLux_eq_mean (h : LIGHT_LUX_BUFFER_MIN ≤ m.luxBuffer.getSize) :
    m.calcSmoothLux = mean (middle m.newestFive) := by
  have hlength := length_newestFive h
  rw [calcSmoothLux_five h, mean_middle (last_mem_newestFive h) (hlength.symm ▸ by decide), hlength]
  rfl

end LightLuxManager

namespace LightLuxBuffer

variable {b : LightLuxBuffer} {i j k : ℕ} {data : ℚ}

def overwrite (b : LightLuxBuffer) (index : ℕ) (data : ℚ) : LightLuxBuffer :=
  { b with bufferData := Function.update b.bufferData (b.offsetOf index) data }

theorem getData_overwrite (h : b.WellFormed) (hi : i < b.count) (hj : j < b.count) :
    (b.overwrite i data).getData j = if j = i then data else b.getData j := by
  have hle := h.count_le
  have hcount : (b.overwrite i data).count = b.count := rfl
  have hoffset : (b.overwrite i data).offsetOf j = b.offsetOf j := rfl
  rw [getData, getData, hcount, hoffset, if_neg (Nat.not_le_of_lt hj),
    if_neg (Nat.not_le_of_lt hj)]
  by_cases hij : j = i
  · subst hij
    simp [overwrite]
  · rw [if_neg hij]
    apply Function.update_of_ne
    rw [h.offsetOf_eq (by omega), h.offsetOf_eq (by omega)]
    rcases Nat.lt_or_gt_of_ne hij with hlt | hgt
    · exact RingBuffer.slot_ne hlt (by omega)
    · exact (RingBuffer.slot_ne hgt (by omega)).symm

theorem newest_overwrite (h : b.WellFormed) (hk : k < b.count) :
    (b.overwrite (b.count - 1 - k) data).newest = b.newest.set k data := by
  rw [newest_eq, newest_eq]
  apply List.ext_getElem
  · simp [overwrite]
  · intro j hj _
    have hj : j < b.count := by simpa [overwrite] using hj
    have hcount : (b.overwrite (b.count - 1 - k) data).count = b.count := rfl
    simp only [List.getElem_map, List.getElem_range, hcount, List.getElem_set]
    rw [getData_overwrite h (by omega) (by omega)]
    by_cases hkj : k = j
    · simp [hkj]
    · rw [if_neg (by omega), if_neg hkj]

end LightLuxBuffer

namespace LightLuxManager

variable {m m' : LightLuxManager} {k : ℕ} {x : ℚ}

def Between (readings : List ℚ) (smoothLux : ℚ) : Prop :=
  ∃ lower ∈ readings, ∃ upper ∈ readings, lower ≤ smoothLux ∧ smoothLux ≤ upper

theorem calcSmoothLux_between (h : LIGHT_LUX_BUFFER_MIN ≤ m.luxBuffer.getSize)
    (hk : k < LIGHT_LUX_BUFFER_MIN) (h' : LIGHT_LUX_BUFFER_MIN ≤ m'.luxBuffer.getSize)
    (hchanged : m'.newestFive = m.newestFive.set k x) :
    Between (m.newestFive.eraseIdx k) m'.calcSmoothLux := by
  have hindex : k < m.newestFive.length := (length_newestFive h).symm ▸ hk
  rw [calcSmoothLux_eq_mean h']
  apply mean_middle_between (x := x)
  · rw [hchanged]
    exact List.set_perm_cons_eraseIdx hindex x
  · rw [length_newestFive h']
    decide

def changeReading (m : LightLuxManager) (k : ℕ) (x : ℚ) : LightLuxManager :=
  { m with luxBuffer := m.luxBuffer.overwrite (m.luxBuffer.getSize - 1 - k) x }

theorem newestFive_changeReading (h : m.luxBuffer.WellFormed) (hk : k < m.luxBuffer.getSize)
    (x : ℚ) : (m.changeReading k x).newestFive = m.newestFive.set k x := by
  have hnewest : (m.changeReading k x).luxBuffer.newest = m.luxBuffer.newest.set k x :=
    LightLuxBuffer.newest_overwrite h hk
  rw [newestFive, newestFive, hnewest, List.take_set]

/-- Of five readings or more, the loop makes the mean of the three in the middle of the newest
five, and it stays in the range of four of these whatever the fifth one is. -/
theorem smooth_lux_robust (h : LIGHT_LUX_BUFFER_MIN ≤ m.luxBuffer.getSize) :
    m.smoothLuxOfLoop = m.calcSmoothLux ∧
      (middle m.newestFive).length = 3 ∧ m.calcSmoothLux = mean (middle m.newestFive) ∧
      ∀ k < LIGHT_LUX_BUFFER_MIN, ∀ (x : ℚ) (m' : LightLuxManager),
        LIGHT_LUX_BUFFER_MIN ≤ m'.luxBuffer.getSize → m'.newestFive = m.newestFive.set k x →
          Between (m.newestFive.eraseIdx k) m'.calcSmoothLux := by
  refine ⟨smoothLuxOfLoop_eq h, ?_, calcSmoothLux_eq_mean h, ?_⟩
  · rw [length_middle, length_newestFive h]
    rfl
  · intro k hk x m' h' hchanged
    exact calcSmoothLux_between h hk h' hchanged

def wrapped : LightLuxManager where
  luxBuffer :=
    { bufferData := fun i => [30, 10, 20, 0, 0, 7, 50, 10].getD i 0
      capacity := 8
      startIndex := 5
      endIndex := 3
      count := 6 }

theorem smooth_lux_robust_wrapped :
    wrapped.calcSmoothLux = mean (middle [20, 10, 30, 10, 50]) ∧
      Between [20, 10, 30, 10] (wrapped.changeReading 4 40000).calcSmoothLux := by
  have hnewest : wrapped.newestFive = [20, 10, 30, 10, 50] := by decide +kernel
  have hchanged : (wrapped.changeReading 4 40000).newestFive = wrapped.newestFive.set 4 40000 :=
    newestFive_changeReading (by constructor <;> decide) (by decide) _
  obtain ⟨_, _, hmean, hbetween⟩ := @smooth_lux_robust wrapped (by decide)
  have hothers := hbetween 4 (by decide) 40000 _ (by decide) hchanged
  rw [hnewest] at hmean hothers
  exact ⟨hmean, hothers⟩

end LightLuxManager

end DisplayPowerMgr
