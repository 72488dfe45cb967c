import DisplayPowerMgr.LightLuxManager
import DisplayPowerMgr.Library.RingBuffer
import DisplayPowerMgr.Library.Samples

/-! `LightLuxBuffer` refines a bounded list: whatever is pushed, pruned and cleared, the ring that
grows in place holds what a plain list would. -/
namespace DisplayPowerMgr

open RingBuffer (contents slot)

variable {F : Type} [FloatArithmetic F]

namespace LightLuxBuffer

variable {b : LightLuxBuffer F} {horizon timestamp : ℤ} {data : F}

/-- All that can be read from the buffer. -/
def entries (b : LightLuxBuffer F) : List (ℤ × F) :=
  (List.range b.getSize).map fun i => (b.getTime i, b.getData i)

structure WellFormed (b : LightLuxBuffer F) : Prop where
  start_lt : b.startIndex < b.capacity
  end_lt : b.endIndex < b.capacity
  count_le : b.count ≤ b.capacity
  capacity_le : b.capacity ≤ LUX_BUFFER_SIZE_MAX
  end_eq : b.endIndex = (b.startIndex + b.count) % b.capacity

def slots (b : LightLuxBuffer F) (i : ℕ) : ℤ × F := (b.bufferTime i, b.bufferData i)

@[simp] theorem length_entries (b : LightLuxBuffer F) : b.entries.length = b.count := by
  simp [entries, getSize]

theorem WellFormed.offsetOf_eq (h : b.WellFormed) {i : ℕ} (hi : i ≤ b.capacity) :
    b.offsetOf i = slot b.capacity b.startIndex i := by
  rw [RingBuffer.slot_eq_ite h.start_lt hi, offsetOf, Nat.add_comm]

theorem WellFormed.entries_eq (h : b.WellFormed) :
    b.entries = contents b.slots b.capacity b.startIndex b.count := by
  apply List.map_congr_left
  intro i hi
  have hi : i < b.count := List.mem_range.mp hi
  have hle := h.count_le
  rw [getTime, getData, if_neg (by omega), if_neg (by omega), h.offsetOf_eq (by omega)]
  rfl

theorem WellFormed.nextStart_eq (h : b.WellFormed) :
    b.nextStart = slot b.capacity b.startIndex 1 := by
  have := h.start_lt
  rw [RingBuffer.slot_eq_ite h.start_lt (by omega), nextStart]

theorem store_spec (hstart : b.startIndex < b.capacity) (hroom : b.count < b.capacity)
    (hmax : b.capacity ≤ LUX_BUFFER_SIZE_MAX) {next : ℕ}
    (hnext : next = slot b.capacity b.startIndex b.count) :
    (b.store next timestamp data).WellFormed ∧
      (b.store next timestamp data).entries =
        contents b.slots b.capacity b.startIndex b.count ++ [(timestamp, data)] := by
  have hlt : next < b.capacity := hnext ▸ RingBuffer.slot_lt (by omega)
  have hend : (b.store next timestamp data).endIndex =
      slot b.capacity b.startIndex (b.count + 1) := by
    rw [← RingBuffer.slot_slot, ← hnext, RingBuffer.slot_eq_ite hlt (by omega)]
    show (if next + 1 = b.capacity then 0 else next + 1) = _
    split <;> split <;> omega
  have hwell : (b.store next timestamp data).WellFormed := by
    refine ⟨hstart, ?_, by simp only [store]; omega, hmax, hend⟩
    rw [hend]
    exact RingBuffer.slot_lt (by omega)
  refine ⟨hwell, ?_⟩
  have hslots : (b.store next timestamp data).slots =
      Function.update b.slots next (timestamp, data) := by
    funext i
    by_cases hi : i = next
    · simp [slots, store, hi]
    · simp [slots, store, hi]
  rw [hwell.entries_eq, hslots, hnext]
  exact RingBuffer.contents_push hroom _

/-- The two partial copies put the entries in order from the first slot on. -/
theorem copyLuxBuffer_slots (h : b.WellFormed) {i : ℕ} (hi : i < b.capacity) :
    b.copyLuxBuffer.slots i = b.slots (slot b.capacity b.startIndex i) := by
  have hstart := h.start_lt
  rw [RingBuffer.slot_eq_ite hstart hi.le]
  by_cases hwrap : i < b.capacity - b.startIndex
  · rw [if_neg (by omega)]
    simp [slots, copyLuxBuffer, hwrap]
  · rw [if_pos (by omega), show b.startIndex + i - b.capacity = i - (b.capacity - b.startIndex) by
      omega]
    simp [slots, copyLuxBuffer, hwrap]

/-- The buffer between the copy and the write. -/
def grown (b : LightLuxBuffer F) : LightLuxBuffer F :=
  { b.copyLuxBuffer with capacity := b.capacity * BUFFER_SIZE_INCREASE, startIndex := 0 }

@[simp] theorem grown_count (b : LightLuxBuffer F) : b.grown.count = b.count := rfl
@[simp] theorem grown_startIndex (b : LightLuxBuffer F) : b.grown.startIndex = 0 := rfl
@[simp] theorem grown_capacity (b : LightLuxBuffer F) : b.grown.capacity = b.capacity * 2 := rfl

theorem grown_contents (h : b.WellFormed) :
    contents b.grown.slots b.grown.capacity 0 b.count = b.entries := by
  have hle := h.count_le
  rw [h.entries_eq]
  apply RingBuffer.contents_congr
  intro i hi
  rw [grown_capacity, RingBuffer.slot_start_zero (by omega)]
  exact copyLuxBuffer_slots h (by omega)

def IsFull (b : LightLuxBuffer F) : Prop :=
  b.count = b.capacity ∧ b.capacity * BUFFER_SIZE_INCREASE > LUX_BUFFER_SIZE_MAX

instance (b : LightLuxBuffer F) : Decidable b.IsFull := inferInstanceAs (Decidable (_ ∧ _))

theorem push_full (hfull : b.IsFull) (timestamp : ℤ) (data : F) :
    b.push timestamp data = b := by
  rw [push, if_pos hfull.1]
  exact if_pos hfull.2

theorem push_grows (h : b.WellFormed) (hcount : b.count = b.capacity)
    (hgrow : b.capacity * BUFFER_SIZE_INCREASE ≤ LUX_BUFFER_SIZE_MAX) :
    b.push timestamp data = b.grown.store b.capacity timestamp data := by
  rw [push, if_pos hcount]
  exact (if_neg (Nat.not_lt_of_le hgrow)).trans (if_neg (Nat.not_le_of_lt h.start_lt))

theorem push_room (hcount : b.count ≠ b.capacity) :
    b.push timestamp data = b.store b.endIndex timestamp data := by
  rw [push, if_neg hcount]

theorem push_spec (h : b.WellFormed) (hroom : ¬ b.IsFull) (timestamp : ℤ) (data : F) :
    (b.push timestamp data).WellFormed ∧
      (b.push timestamp data).entries = b.entries ++ [(timestamp, data)] ∧
      (b.push timestamp data).capacity =
        if b.count = b.capacity then b.capacity * BUFFER_SIZE_INCREASE else b.capacity := by
  have hstart := h.start_lt
  have hle := h.count_le
  by_cases hcount : b.count = b.capacity
  · have hgrow : b.capacity * BUFFER_SIZE_INCREASE ≤ LUX_BUFFER_SIZE_MAX :=
      Nat.le_of_not_lt fun hmax => hroom ⟨hcount, hmax⟩
    have hslot : b.capacity = slot b.grown.capacity 0 b.count := by
      rw [grown_capacity, RingBuffer.slot_start_zero (by omega), hcount]
    obtain ⟨hwell, hentries⟩ := @store_spec F _ b.grown timestamp data
      (by rw [grown_capacity, grown_startIndex]; omega)
      (by rw [grown_capacity, grown_count]; omega) hgrow b.capacity hslot
    rw [push_grows h hcount hgrow, if_pos hcount]
    refine ⟨hwell, hentries.trans ?_, rfl⟩
    rw [grown_startIndex, grown_count, grown_contents h]
  · obtain ⟨hwell, hentries⟩ := @store_spec F _ b timestamp data h.start_lt
      (by omega) h.capacity_le b.endIndex h.end_eq
    rw [push_room hcount, if_neg hcount]
    exact ⟨hwell, hentries.trans (by rw [h.entries_eq]), rfl⟩

theorem shift_spec (h : b.WellFormed) {n : ℕ} (hn : b.count = n + 1) :
    { b with startIndex := b.nextStart, count := n }.WellFormed ∧
      b.entries = b.slots b.startIndex ::
        { b with startIndex := b.nextStart, count := n }.entries := by
  have hpos : 0 < b.capacity := Nat.zero_lt_of_lt h.start_lt
  have hle := h.count_le
  have hwell : { b with startIndex := b.nextStart, count := n }.WellFormed := by
    refine ⟨?_, h.end_lt, show n ≤ b.capacity by omega, h.capacity_le, ?_⟩
    · rw [h.nextStart_eq]
      exact RingBuffer.slot_lt hpos
    · refine h.end_eq.trans ?_
      rw [h.nextStart_eq, hn, Nat.add_comm n]
      exact RingBuffer.slot_slot.symm
  refine ⟨hwell, ?_⟩
  rw [hwell.entries_eq, h.entries_eq, hn, RingBuffer.contents_cons, RingBuffer.slot_zero h.start_lt,
    ← h.nextStart_eq]
  rfl

theorem dropOld_spec (h : b.WellFormed) (horizon : ℤ) {fuel : ℕ} (hfuel : b.count ≤ fuel) :
    (dropOld horizon fuel b).WellFormed ∧ (dropOld horizon fuel b).capacity = b.capacity ∧
      (dropOld horizon fuel b).entries = Samples.dropBefore horizon b.entries := by
  induction fuel generalizing b with
  | zero =>
    have hnil : b.entries = [] := List.eq_nil_of_length_eq_zero (by simp; omega)
    exact ⟨h, rfl, by simp [dropOld, hnil, Samples.dropBefore]⟩
  | succ fuel ih =>
    rcases hcount : b.count with _ | _ | n
    · have hnil : b.entries = [] := List.eq_nil_of_length_eq_zero (by simp [hcount])
      have hstop : dropOld horizon (fuel + 1) b = b := by
        rw [dropOld, if_neg (by omega)]
      rw [hstop]
      exact ⟨h, rfl, by simp [hnil, Samples.dropBefore]⟩
    · obtain ⟨x, hone⟩ := List.length_eq_one_iff.mp ((length_entries b).trans hcount)
      have hstop : dropOld horizon (fuel + 1) b = b := by
        rw [dropOld, if_neg (by omega)]
      rw [hstop]
      exact ⟨h, rfl, by simp [hone, Samples.dropBefore]⟩
    · obtain ⟨hwell, hfirst⟩ := shift_spec h hcount
      obtain ⟨_, hsecond⟩ := shift_spec hwell (n := n) rfl
      have hstep : dropOld horizon (fuel + 1) b =
          if b.bufferTime b.nextStart > horizon then b
          else dropOld horizon fuel { b with startIndex := b.nextStart, count := n + 1 } := by
        rw [dropOld, if_pos (by omega), hcount]
        rfl
      rw [hstep, hfirst, hsecond, Samples.dropBefore]
      by_cases hold : b.bufferTime b.nextStart > horizon
      · rw [if_pos hold, if_neg (by simpa [slots] using hold), ← hsecond, ← hfirst]
        exact ⟨h, rfl, rfl⟩
      · rw [if_neg hold, if_pos (by simpa [slots] using hold), ← hsecond]
        exact ih hwell (show n + 1 ≤ fuel by omega)

theorem raise_spec (h : b.WellFormed) (horizon : ℤ) (hcount : b.count ≠ 0) :
    { b with bufferTime := Function.update b.bufferTime b.startIndex horizon }.WellFormed ∧
      { b with bufferTime := Function.update b.bufferTime b.startIndex horizon }.entries =
        (horizon, b.bufferData b.startIndex) :: b.entries.tail := by
  obtain ⟨n, hn⟩ := Nat.exists_eq_succ_of_ne_zero hcount
  have hle := h.count_le
  have hwell : { b with
      bufferTime := Function.update b.bufferTime b.startIndex horizon }.WellFormed :=
    ⟨h.start_lt, h.end_lt, h.count_le, h.capacity_le, h.end_eq⟩
  have hslots : { b with
      bufferTime := Function.update b.bufferTime b.startIndex horizon }.slots =
      Function.update b.slots b.startIndex (horizon, b.bufferData b.startIndex) := by
    funext i
    by_cases hi : i = b.startIndex
    · simp [slots, hi]
    · simp [slots, hi]
  refine ⟨hwell, ?_⟩
  rw [hwell.entries_eq, hslots, h.entries_eq, hn]
  rw [RingBuffer.contents_setFirst h.start_lt (by omega), RingBuffer.contents_cons, List.tail_cons]

theorem prune_spec (h : b.WellFormed) (horizon : ℤ) :
    (b.prune horizon).WellFormed ∧ (b.prune horizon).capacity = b.capacity ∧
      (b.prune horizon).entries = Samples.prune horizon b.entries := by
  by_cases hcount : b.count = 0
  · have hnil : b.entries = [] := List.eq_nil_of_length_eq_zero (by simp [hcount])
    rw [prune, if_pos hcount]
    exact ⟨h, rfl, by simp [hnil, Samples.prune, Samples.dropBefore, Samples.raiseFront]⟩
  · obtain ⟨hwell, hcap, hentries⟩ := dropOld_spec h horizon le_rfl
    rw [prune, if_neg hcount, Samples.prune, ← hentries]
    set kept := dropOld horizon b.count b
    have hkept : kept.count ≠ 0 := by
      intro hzero
      have hnil : kept.entries = [] := List.eq_nil_of_length_eq_zero (by simp [hzero])
      rw [hentries, Samples.dropBefore_eq_nil_iff] at hnil
      have := length_entries b
      simp only [hnil, List.length_nil] at this
      omega
    obtain ⟨n, hn⟩ := Nat.exists_eq_succ_of_ne_zero hkept
    obtain ⟨_, hfirst⟩ := shift_spec hwell hn
    by_cases hold : kept.bufferTime kept.startIndex < horizon
    · obtain ⟨hraised, hraise⟩ := raise_spec hwell horizon hkept
      refine ⟨?_, ?_, ?_⟩
      · simpa [hold] using hraised
      · simpa [hold] using hcap
      · simp only [hold, if_true]
        rw [hraise, hfirst, List.tail_cons, Samples.raiseFront, slots, max_eq_right hold.le]
    · refine ⟨?_, ?_, ?_⟩
      · simpa [hold] using hwell
      · simpa [hold] using hcap
      · simp only [hold, if_false]
        rw [hfirst, Samples.raiseFront, slots, max_eq_left (not_lt.mp hold)]

theorem clear_spec (h : b.WellFormed) :
    b.clear.WellFormed ∧ b.clear.capacity = b.capacity ∧ b.clear.entries = [] := by
  have hpos : 0 < b.capacity := Nat.zero_lt_of_lt h.start_lt
  exact ⟨⟨hpos, hpos, Nat.zero_le _, h.capacity_le, by simp [clear]⟩, rfl, rfl⟩

end LightLuxBuffer

/-- A list with a bound that may double up to `LUX_BUFFER_SIZE_MAX`. -/
structure LuxQueue (F : Type := ℚ) where
  capacity : ℕ
  entries : List (ℤ × F)
  pos : 0 < capacity
  bounded : capacity ≤ LightLuxBuffer.LUX_BUFFER_SIZE_MAX
  fits : entries.length ≤ capacity

namespace LuxQueue

open LightLuxBuffer (LUX_BUFFER_SIZE_DEFAULT LUX_BUFFER_SIZE_MAX)

/-- An initial capacity that is out of range is replaced by the default. -/
def create (initialCapacity : ℕ) : LuxQueue F :=
  if h : 0 < initialCapacity ∧ initialCapacity < LUX_BUFFER_SIZE_MAX then
    ⟨initialCapacity, [], h.1, h.2.le, Nat.zero_le _⟩
  else ⟨LUX_BUFFER_SIZE_DEFAULT, [], by decide, by decide, Nat.zero_le _⟩

def push (q : LuxQueue F) (entry : ℤ × F) : LuxQueue F :=
  if hroom : q.entries.length < q.capacity then
    { q with entries := q.entries ++ [entry], fits := by simpa using Nat.succ_le_of_lt hroom }
  else if hdouble : q.capacity * 2 ≤ LUX_BUFFER_SIZE_MAX then
    { capacity := q.capacity * 2
      entries := q.entries ++ [entry]
      pos := by have := q.pos; omega
      bounded := hdouble
      fits := by
        have hpos := q.pos
        have hfits := q.fits
        simp only [List.length_append, List.length_singleton]
        omega }
  else q

def prune (q : LuxQueue F) (horizon : ℤ) : LuxQueue F :=
  { q with
    entries := Samples.prune horizon q.entries
    fits := (Samples.length_prune_le horizon q.entries).trans q.fits }

def clear (q : LuxQueue F) : LuxQueue F := { q with entries := [], fits := Nat.zero_le _ }

end LuxQueue

inductive LuxBufferCall (F : Type := ℚ) where
  | push (timestamp : ℤ) (data : F)
  | prune (horizon : ℤ)
  | clear
  deriving DecidableEq, Repr

namespace LuxBufferCall

def onBuffer (b : LightLuxBuffer F) : LuxBufferCall F → LightLuxBuffer F
  | push timestamp data => b.push timestamp data
  | prune horizon => b.prune horizon
  | clear => b.clear

def onQueue (q : LuxQueue F) : LuxBufferCall F → LuxQueue F
  | push timestamp data => q.push (timestamp, data)
  | prune horizon => q.prune horizon
  | clear => q.clear

end LuxBufferCall

namespace LightLuxBuffer

variable {b : LightLuxBuffer F} {q : LuxQueue F}

structure Refines (b : LightLuxBuffer F) (q : LuxQueue F) : Prop where
  wellFormed : b.WellFormed
  capacity_eq : b.capacity = q.capacity
  entries_eq : b.entries = q.entries

theorem refines_create (initialCapacity : ℕ) :
    (create initialCapacity : LightLuxBuffer F).Refines (LuxQueue.create initialCapacity) := by
  by_cases h : 0 < initialCapacity ∧ initialCapacity < LUX_BUFFER_SIZE_MAX
  · have hcreate :
        (create initialCapacity : LightLuxBuffer F) = { capacity := initialCapacity } := by
      rw [create, if_neg]
      simp only [Bool.or_eq_true, decide_eq_true_eq]
      omega
    rw [hcreate, LuxQueue.create, dif_pos h]
    exact ⟨⟨h.1, h.1, Nat.zero_le _, h.2.le, by simp⟩, rfl, rfl⟩
  · have hcreate : (create initialCapacity : LightLuxBuffer F) =
        { capacity := LUX_BUFFER_SIZE_DEFAULT } := by
      rw [create, if_pos]
      simp only [Bool.or_eq_true, decide_eq_true_eq]
      omega
    rw [hcreate, LuxQueue.create, dif_neg h]
    have hpos : 0 < LUX_BUFFER_SIZE_DEFAULT := by decide
    have hmax : LUX_BUFFER_SIZE_DEFAULT ≤ LUX_BUFFER_SIZE_MAX := by decide
    exact ⟨⟨hpos, hpos, Nat.zero_le _, hmax, by simp⟩, rfl, rfl⟩

theorem entries_default :
    (create LUX_BUFFER_SIZE_DEFAULT : LightLuxBuffer F).entries = [] :=
  (refines_create LUX_BUFFER_SIZE_DEFAULT).entries_eq

theorem refines_push (h : b.Refines q) (timestamp : ℤ) (data : F) :
    (b.push timestamp data).Refines (q.push (timestamp, data)) := by
  have hlength : q.entries.length = b.count := by rw [← h.entries_eq, length_entries]
  have hle := h.wellFormed.count_le
  have hcap := h.capacity_eq
  by_cases hfull : b.IsFull
  · have hsame : q.push (timestamp, data) = q := by
      obtain ⟨hcount, hmax⟩ := hfull
      simp only [BUFFER_SIZE_INCREASE] at hmax
      rw [LuxQueue.push, dif_neg (by omega), dif_neg (by omega)]
    rw [push_full hfull, hsame]
    exact h
  · obtain ⟨hwell, hentries, hcapacity⟩ := push_spec h.wellFormed hfull timestamp data
    by_cases hcount : b.count = b.capacity
    · have hgrow : q.capacity * 2 ≤ LUX_BUFFER_SIZE_MAX := by
        apply Nat.le_of_not_lt
        intro hmax
        exact hfull ⟨hcount, by rw [hcap]; exact hmax⟩
      rw [if_pos hcount, hcap] at hcapacity
      rw [LuxQueue.push, dif_neg (by omega), dif_pos hgrow]
      exact ⟨hwell, hcapacity, by rw [hentries, h.entries_eq]⟩
    · rw [if_neg hcount, hcap] at hcapacity
      rw [LuxQueue.push, dif_pos (by omega)]
      exact ⟨hwell, hcapacity, by rw [hentries, h.entries_eq]⟩

theorem refines_call (h : b.Refines q) (call : LuxBufferCall F) :
    (call.onBuffer b).Refines (call.onQueue q) := by
  cases call with
  | push timestamp data => exact refines_push h timestamp data
  | prune horizon =>
    obtain ⟨hwell, hcap, hentries⟩ := prune_spec h.wellFormed horizon
    exact ⟨hwell, hcap.trans h.capacity_eq, hentries.trans (congrArg _ h.entries_eq)⟩
  | clear =>
    obtain ⟨hwell, hcap, hentries⟩ := clear_spec h.wellFormed
    exact ⟨hwell, hcap.trans h.capacity_eq, hentries⟩

/-- From any initial capacity and through any sequence of calls, the ring keeps its indices in
order and reads as the list does. -/
theorem lux_buffer_refines_list (initialCapacity : ℕ) (calls : List (LuxBufferCall F)) :
    (calls.foldl LuxBufferCall.onBuffer (create initialCapacity)).Refines
      (calls.foldl LuxBufferCall.onQueue (LuxQueue.create initialCapacity)) := by
  have hrun : ∀ (b : LightLuxBuffer F) (q : LuxQueue F), b.Refines q →
      (calls.foldl LuxBufferCall.onBuffer b).Refines (calls.foldl LuxBufferCall.onQueue q) := by
    induction calls with
    | nil => exact fun b q h => h
    | cons call calls ih => exact fun b q h => ih _ _ (refines_call h call)
  exact hrun _ _ (refines_create initialCapacity)

end LightLuxBuffer

end DisplayPowerMgr
