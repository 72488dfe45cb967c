import Mathlib.Data.List.Basic

/-! Circular storage read as a list. The slots are a function of which only those below the
capacity are used; the entries lie in consecutive slots from `start` on, wrapping round. -/
namespace RingBuffer

variable {α : Type*} {slots : ℕ → α} {capacity start count i j : ℕ}

/-- Where the entry lies that comes `i` places after the oldest one. -/
def slot (capacity start i : ℕ) : ℕ := (start + i) % capacity

def contents (slots : ℕ → α) (capacity start count : ℕ) : List α :=
  (List.range count).map fun i => slots (slot capacity start i)

theorem slot_lt (hpos : 0 < capacity) : slot capacity start i < capacity := Nat.mod_lt _ hpos

theorem slot_zero (hs : start < capacity) : slot capacity start 0 = start := Nat.mod_eq_of_lt hs

theorem slot_slot : slot capacity (slot capacity start i) j = slot capacity start (i + j) := by
  rw [slot, slot, slot, Nat.mod_add_mod, Nat.add_assoc]

theorem slot_start_zero (hi : i < capacity) : slot capacity 0 i = i := by
  rw [slot, Nat.zero_add, Nat.mod_eq_of_lt hi]

theorem slot_eq_ite (hs : start < capacity) (hi : i ≤ capacity) :
    slot capacity start i = if start + i ≥ capacity then start + i - capacity else start + i := by
  rw [slot]
  split
  · rw [Nat.mod_eq_sub_mod ‹_›]
    rcases Nat.lt_or_ge (start + i - capacity) capacity with hlt | hge
    · exact Nat.mod_eq_of_lt hlt
    · omega
  · apply Nat.mod_eq_of_lt
    omega

theorem slot_ne (hi : i < j) (hj : j < i + capacity) :
    slot capacity start i ≠ slot capacity start j := by
  intro heq
  have hdvd : capacity ∣ start + j - (start + i) :=
    Nat.dvd_of_mod_eq_zero (Nat.sub_mod_eq_zero_of_mod_eq heq.symm)
  have := Nat.le_of_dvd (by omega) hdvd
  omega

@[simp] theorem length_contents : (contents slots capacity start count).length = count := by
  simp [contents]

@[simp] theorem contents_zero : contents slots capacity start 0 = [] := rfl

theorem contents_congr {slots' : ℕ → α} {capacity' start' : ℕ}
    (h : ∀ i < count, slots (slot capacity start i) = slots' (slot capacity' start' i)) :
    contents slots capacity start count = contents slots' capacity' start' count := by
  apply List.map_congr_left
  intro i hi
  exact h i (List.mem_range.mp hi)

theorem contents_concat : contents slots capacity start (count + 1) =
    contents slots capacity start count ++ [slots (slot capacity start count)] := by
  simp [contents, List.range_succ]

theorem contents_cons : contents slots capacity start (count + 1) =
    slots (slot capacity start 0) ::
      contents slots capacity (slot capacity start 1) count := by
  simp only [contents, List.range_succ_eq_map, List.map_cons, List.map_map, List.cons.injEq,
    true_and]
  apply List.map_congr_left
  intro i _
  simp only [Function.comp, slot_slot, Nat.succ_eq_add_one, Nat.add_comm]

theorem contents_push (hroom : count < capacity) (a : α) :
    contents (Function.update slots (slot capacity start count) a) capacity start (count + 1) =
      contents slots capacity start count ++ [a] := by
  rw [contents_concat, Function.update_self]
  congr 1
  apply contents_congr
  intro i hi
  apply Function.update_of_ne
  exact slot_ne hi (by omega)

theorem contents_setFirst (hs : start < capacity) (hcount : count < capacity) (a : α) :
    contents (Function.update slots start a) capacity start (count + 1) =
      a :: contents slots capacity (slot capacity start 1) count := by
  rw [contents_cons, slot_zero hs, Function.update_self]
  congr 1
  apply contents_congr
  intro i hi
  apply Function.update_of_ne
  have hfirst : slot capacity start 0 ≠ slot capacity start (1 + i) :=
    slot_ne (by omega) (by omega)
  rw [slot_zero hs] at hfirst
  rw [slot_slot]
  exact hfirst.symm

end RingBuffer
