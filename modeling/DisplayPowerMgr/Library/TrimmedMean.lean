import Mathlib.Algebra.Order.BigOperators.Group.List
import Mathlib.Algebra.Order.Field.Basic
import Mathlib.Data.List.Sort
import Mathlib.Tactic.Abel
import Mathlib.Tactic.FieldSimp

/-! The mean of some values without a least and a greatest of them, and how far one value can
move it. Nothing here knows any program. -/
namespace TrimmedMean

section Order

theorem foldl_choice {α : Type*} {f : α → α → α} (hf : ∀ x y, f x y = x ∨ f x y = y) (a : α)
    (l : List α) : l.foldl f a ∈ a :: l := by
  induction l generalizing a with
  | nil => simp
  | cons x l ih =>
    rw [List.foldl_cons]
    rcases List.mem_cons.mp (ih (f a x)) with heq | hmem
    · rw [heq]
      rcases hf a x with hl | hr
      · simp [hl]
      · simp [hr]
    · simp [hmem]

theorem foldl_choice_mem {α : Type*} {f : α → α → α} (hf : ∀ x y, f x y = x ∨ f x y = y) {a : α}
    {l : List α} (ha : a ∈ l) : l.foldl f a ∈ l := by
  rcases List.mem_cons.mp (foldl_choice hf a l) with heq | hmem
  · rw [heq]
    exact ha
  · exact hmem

variable {α : Type*} [LinearOrder α] {values others : List α} {a x v : α}

theorem foldl_bounds (a : α) (l : List α) :
    ∀ x ∈ a :: l, l.foldl min a ≤ x ∧ x ≤ l.foldl max a := by
  induction l generalizing a with
  | nil => simp
  | cons y l ih =>
    have hmin := (ih (min a y) (min a y) (by simp)).1
    have hmax := (ih (max a y) (max a y) (by simp)).2
    simp only [List.mem_cons, List.foldl_cons]
    rintro x (rfl | rfl | hx)
    · exact ⟨hmin.trans (min_le_left _ _), (le_max_left _ _).trans hmax⟩
    · exact ⟨hmin.trans (min_le_right _ _), (le_max_right _ _).trans hmax⟩
    · exact ⟨(ih _ x (by simp [hx])).1, (ih _ x (by simp [hx])).2⟩

def middle (values : List α) : List α := (values.insertionSort (· ≤ ·)).tail.dropLast

theorem length_middle (values : List α) : (middle values).length = values.length - 2 := by
  rw [middle, List.length_dropLast, List.length_tail, List.length_insertionSort]
  omega

theorem exists_sorted (h : 2 ≤ values.length) :
    ∃ least most, values.Perm (least :: (middle values ++ [most])) ∧
      (∀ v ∈ values, least ≤ v) ∧ ∀ v ∈ values, v ≤ most := by
  have hperm := (List.perm_insertionSort (· ≤ ·) values).symm
  have hsorted := List.pairwise_insertionSort (· ≤ ·) values
  have hlength : 2 ≤ (values.insertionSort (· ≤ ·)).length := by
    rw [List.length_insertionSort]
    exact h
  rw [middle]
  rcases hcases : values.insertionSort (· ≤ ·) with _ | ⟨least, tail⟩
  · simp [hcases] at hlength
  · have hne : tail ≠ [] := by
      rintro rfl
      simp [hcases] at hlength
    rw [hcases] at hperm hsorted
    obtain ⟨hleast, htail⟩ := List.pairwise_cons.mp hsorted
    rw [← List.dropLast_append_getLast hne] at htail
    have hmost := (List.pairwise_append.mp htail).2.2
    refine ⟨least, tail.getLast hne, ?_, ?_, ?_⟩
    · rw [List.tail_cons, List.dropLast_append_getLast]
      exact hperm
    · intro v hv
      rcases List.mem_cons.mp (hperm.mem_iff.mp hv) with rfl | hv
      · exact le_refl v
      · exact hleast v hv
    · intro v hv
      rcases List.mem_cons.mp (hperm.mem_iff.mp hv) with rfl | hv
      · exact hleast _ (List.getLast_mem hne)
      · rw [← List.dropLast_append_getLast hne] at hv
        rcases List.mem_append.mp hv with hv | hv
        · exact hmost v hv _ (by simp)
        · exact (List.mem_singleton.mp hv).le

theorem sum_sub_min_sub_max {M : Type*} [LinearOrder M] [AddCommGroup M] {values : List M} {a : M}
    (ha : a ∈ values) (h : 2 ≤ values.length) :
    values.sum - values.foldl min a - values.foldl max a = (middle values).sum := by
  obtain ⟨least, most, hperm, hleast, hmost⟩ := exists_sorted h
  have hmin : values.foldl min a = least := by
    apply le_antisymm
    · exact (foldl_bounds a values least
        (List.mem_cons_of_mem a (hperm.mem_iff.mpr (by simp)))).1
    · exact hleast _ (foldl_choice_mem min_choice ha)
  have hmax : values.foldl max a = most := by
    apply le_antisymm
    · exact hmost _ (foldl_choice_mem max_choice ha)
    · exact (foldl_bounds a values most
        (List.mem_cons_of_mem a (hperm.mem_iff.mpr (by simp)))).2
  have hsum : values.sum = least + ((middle values).sum + most) := by
    rw [hperm.sum_eq]
    simp
  rw [hmin, hmax, hsum]
  abel

theorem middle_subset : ∀ v ∈ middle values, v ∈ values := by
  intro v hv
  exact (List.perm_insertionSort (· ≤ ·) values).mem_iff.mp
    (List.mem_of_mem_tail (List.dropLast_subset _ hv))

/-- Whatever one of the values is, the middle stays between some of the others: an end of the order
is one of the others, or else it is that value and the middle belongs to the others. -/
theorem middle_between (hperm : values.Perm (x :: others)) (hv : v ∈ middle values) :
    (∃ lower ∈ others, lower ≤ v) ∧ ∃ upper ∈ others, v ≤ upper := by
  have hlength : 2 ≤ values.length := by
    have hpos := List.length_pos_of_mem hv
    rw [length_middle] at hpos
    omega
  obtain ⟨least, most, hsorted, hleast, hmost⟩ := exists_sorted hlength
  have hothers := hsorted.symm.trans hperm
  have hvalue := middle_subset v hv
  constructor
  · rcases List.mem_cons.mp (hothers.mem_iff.mp (List.mem_cons_self ..)) with rfl | hmem
    · have hrest := hothers.cons_inv
      exact ⟨v, hrest.mem_iff.mp (by simp [hv]), le_refl v⟩
    · exact ⟨least, hmem, hleast v hvalue⟩
  · have hlast : most ∈ x :: others := hothers.mem_iff.mp (by simp)
    rcases List.mem_cons.mp hlast with rfl | hmem
    · have hfront : (most :: (least :: middle values)).Perm (most :: others) :=
        (@List.perm_append_comm _ [most] _).trans hothers
      exact ⟨v, hfront.cons_inv.mem_iff.mp (by simp [hv]), le_refl v⟩
    · exact ⟨most, hmem, hmost v hvalue⟩

end Order

section Mean

variable {𝕜 : Type*} [Field 𝕜] [LinearOrder 𝕜] [IsStrictOrderedRing 𝕜] {values others : List 𝕜}
  {x : 𝕜}

def mean (values : List 𝕜) : 𝕜 := values.sum / values.length

omit [LinearOrder 𝕜] [IsStrictOrderedRing 𝕜] in
theorem sum_map_mean [CharZero 𝕜] (h : values ≠ []) :
    (values.map fun _ => mean values).sum = values.sum := by
  have hlength : (values.length : 𝕜) ≠ 0 := by
    intro hzero
    exact h (List.length_eq_zero_iff.mp (Nat.cast_eq_zero.mp hzero))
  rw [List.map_const', List.sum_replicate, nsmul_eq_mul, mean]
  field_simp

omit [IsStrictOrderedRing 𝕜] in
/-- The mean of the middle, as code computes it with running bounds. -/
theorem mean_middle {a : 𝕜} (ha : a ∈ values) (h : 2 ≤ values.length) :
    mean (middle values) =
      (values.sum - values.foldl min a - values.foldl max a) / (values.length - 2 : ℕ) := by
  rw [mean, length_middle, sum_sub_min_sub_max ha h]

theorem exists_le_mean (h : values ≠ []) : ∃ v ∈ values, v ≤ mean values := by
  apply List.exists_le_of_sum_le h (fun v => v) fun _ => mean values
  rw [sum_map_mean h]
  simp

theorem exists_mean_le (h : values ≠ []) : ∃ v ∈ values, mean values ≤ v := by
  apply List.exists_le_of_sum_le h (fun _ => mean values) fun v => v
  rw [sum_map_mean h]
  simp

/-- A single value, whatever it is, does not move the mean of the middle out of the range of the
others. -/
theorem mean_middle_between (hperm : values.Perm (x :: others)) (h : 2 < values.length) :
    ∃ lower ∈ others, ∃ upper ∈ others,
      lower ≤ mean (middle values) ∧ mean (middle values) ≤ upper := by
  have hne : middle values ≠ [] := by
    apply List.ne_nil_of_length_pos
    rw [length_middle]
    omega
  obtain ⟨v, hv, hbelow⟩ := exists_le_mean hne
  obtain ⟨w, hw, habove⟩ := exists_mean_le hne
  obtain ⟨lower, hlower, hle⟩ := (middle_between hperm hv).1
  obtain ⟨upper, hupper, hge⟩ := (middle_between hperm hw).2
  exact ⟨lower, hlower, upper, hupper, hle.trans hbelow, habove.trans hge⟩

end Mean

end TrimmedMean
