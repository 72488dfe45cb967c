import Mathlib.Order.Lattice
import Mathlib.Data.List.Chain

/-! Sequences of values that move towards a target and never pass it. -/
namespace Approach

variable {α : Type*} [LinearOrder α] {target x y z : α} {l : List α}

def Toward (target x y : α) : Prop := (x ≤ y ∧ y ≤ target) ∨ (target ≤ y ∧ y ≤ x)

def StrictlyToward (target x y : α) : Prop := (x < y ∧ y ≤ target) ∨ (target ≤ y ∧ y < x)

instance (target x y : α) : Decidable (Toward target x y) :=
  inferInstanceAs (Decidable ((_ ∧ _) ∨ (_ ∧ _)))

instance (target x y : α) : Decidable (StrictlyToward target x y) :=
  inferInstanceAs (Decidable ((_ ∧ _) ∨ (_ ∧ _)))

def Monotonic (target x : α) (l : List α) : Prop := List.IsChain (Toward target) (x :: l)

def StrictlyMonotonic (target x : α) (l : List α) : Prop :=
  List.IsChain (StrictlyToward target) (x :: l)

instance (target x : α) (l : List α) : Decidable (Monotonic target x l) :=
  inferInstanceAs (Decidable (List.IsChain _ _))

theorem StrictlyToward.toward (h : StrictlyToward target x y) : Toward target x y := by
  rcases h with ⟨hx, hy⟩ | ⟨hy, hx⟩
  · exact Or.inl ⟨le_of_lt hx, hy⟩
  · exact Or.inr ⟨hy, le_of_lt hx⟩

theorem Toward.trans (h : Toward target x y) (h' : Toward target y z) : Toward target x z := by
  rcases h with ⟨hx, hy⟩ | ⟨hy, hx⟩ <;> rcases h' with ⟨hy', hz⟩ | ⟨hz, hy'⟩
  · exact Or.inl ⟨le_trans hx hy', hz⟩
  · exact Or.inl ⟨le_trans hx (le_trans hy hz), le_trans hy' hy⟩
  · exact Or.inr ⟨le_trans hy hy', le_trans hz (le_trans hy hx)⟩
  · exact Or.inr ⟨hz, le_trans hy' hx⟩

theorem StrictlyMonotonic.monotonic (h : StrictlyMonotonic target x l) :
    Monotonic target x l :=
  List.IsChain.imp (fun _ _ => StrictlyToward.toward) h

@[simp] theorem monotonic_nil : Monotonic target x [] := List.IsChain.singleton x

@[simp] theorem monotonic_cons :
    Monotonic target x (y :: l) ↔ Toward target x y ∧ Monotonic target y l :=
  List.isChain_cons_cons

@[simp] theorem strictlyMonotonic_nil : StrictlyMonotonic target x [] := List.IsChain.singleton x

@[simp] theorem strictlyMonotonic_cons :
    StrictlyMonotonic target x (y :: l) ↔
      StrictlyToward target x y ∧ StrictlyMonotonic target y l :=
  List.isChain_cons_cons

/-- A first move seen from another starting point `z`: it is a move towards the target
exactly when it reaches the target or `z` lies on the far side of it. -/
theorem StrictlyToward.toward_from (h : StrictlyToward target x y) :
    Toward target z y ↔ y = target ∨ (x < target ∧ z ≤ y) ∨ (target < x ∧ y ≤ z) := by
  rcases h with ⟨hx, hy⟩ | ⟨hy, hx⟩
  · constructor
    · rintro (⟨hz, _⟩ | ⟨ht, _⟩)
      · exact Or.inr (Or.inl ⟨lt_of_lt_of_le hx hy, hz⟩)
      · exact Or.inl (le_antisymm hy ht)
    · rintro (rfl | ⟨_, hz⟩ | ⟨ht, _⟩)
      · exact (le_total z y).imp (fun h => ⟨h, le_rfl⟩) (fun h => ⟨le_rfl, h⟩)
      · exact Or.inl ⟨hz, hy⟩
      · exact absurd (lt_of_lt_of_le hx hy) (lt_asymm ht)
  · constructor
    · rintro (⟨_, ht⟩ | ⟨_, hz⟩)
      · exact Or.inl (le_antisymm ht hy)
      · exact Or.inr (Or.inr ⟨lt_of_le_of_lt hy hx, hz⟩)
    · rintro (rfl | ⟨ht, _⟩ | ⟨_, hz⟩)
      · exact (le_total z y).imp (fun h => ⟨h, le_rfl⟩) (fun h => ⟨le_rfl, h⟩)
      · exact absurd (lt_of_le_of_lt hy hx) (lt_asymm ht)
      · exact Or.inr ⟨hy, hz⟩

end Approach
