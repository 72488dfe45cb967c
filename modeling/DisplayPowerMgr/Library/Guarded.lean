import DisplayPowerMgr.Library.Runs

/-! Objects that threads touch only under a lock of their own. A thread's section takes the object
from where it was when the lock was taken to where it is now; between the sections an object
keeps what every finished section keeps. Nothing here knows any machine. -/
namespace Guarded

variable {σ ε κ τ π ν : Type*}

/-- What a machine of threads shows of its locks: who holds the one of each key, the object it
guards, the point each thread is at, and what a section has done to its object at each point. -/
structure Sections (σ κ τ π ν : Type*) where
  holder : σ → κ → Option τ
  object : σ → κ → ν
  point : σ → τ → π
  Does : π → ν → ν → Prop

variable {S : Sections σ κ τ π ν} {key : κ}

/-- The section of `k` took its object as `v` and has done to it what its point says. -/
structure Sections.Inside (S : Sections σ κ τ π ν) (key : κ) (k : τ) (v : ν) (s : σ) : Prop where
  holds : S.holder s key = some k
  does : S.Does (S.point s k) v (S.object s key)

/-- What one step may do to the object of a key and to its lock. -/
inductive Sections.Moves (S : Sections σ κ τ π ν) (key : κ) (s t : σ) : Prop
  | stays (hs : S.holder s key = none) (ht : S.holder t key = none)
    (same : S.object t key = S.object s key)
  | takes (k : τ) (hs : S.holder s key = none) (inside : S.Inside key k (S.object s key) t)
  | works (k : τ) (hs : S.holder s key = some k) (ht : S.holder t key = some k)
    (does : ∀ v, S.Does (S.point s k) v (S.object s key) →
      S.Does (S.point t k) v (S.object t key))
  | drops (k : τ) (hs : S.holder s key = some k) (ht : S.holder t key = none)
    (does : ∀ v, S.Does (S.point s k) v (S.object s key) →
      S.Does (S.point t k) v (S.object t key))

/-- What holds of the object of a key: an invariant of finished sections while the lock is free,
and of the object as the section took it while the lock is held. -/
inductive Sections.Kept (S : Sections σ κ τ π ν) (I : ν → Prop) (key : κ) (s : σ) : Prop
  | free (hs : S.holder s key = none) (inv : I (S.object s key))
  | held (k : τ) (v : ν) (inside : S.Inside key k v s) (inv : I v)

theorem Sections.Kept.of_free {I : ν → Prop} {s : σ} (h : S.Kept I key s)
    (hs : S.holder s key = none) : I (S.object s key) := by
  cases h with
  | free _ inv => exact inv
  | held k v inside => exact absurd (hs.symm.trans inside.holds) (by simp)

theorem Sections.Kept.of_held {I : ν → Prop} {s : σ} {k : τ} (h : S.Kept I key s)
    (hs : S.holder s key = some k) : ∃ v, I v ∧ S.Does (S.point s k) v (S.object s key) := by
  cases h with
  | free hnone => exact absurd (hs.symm.trans hnone) (by simp)
  | held j v inside inv =>
    obtain rfl : k = j := Option.some.inj (hs.symm.trans inside.holds)
    exact ⟨v, inv, inside.does⟩

theorem Sections.Kept.step {I : ν → Prop} {s t : σ} (h : S.Kept I key s)
    (moves : S.Moves key s t)
    (ends : ∀ k v, S.holder s key = some k → S.holder t key = none → I v →
      S.Does (S.point t k) v (S.object t key) → I (S.object t key)) : S.Kept I key t := by
  cases moves with
  | stays hs ht same =>
    refine .free ht ?_
    rw [same]
    exact h.of_free hs
  | takes k hs inside => exact .held k _ inside (h.of_free hs)
  | works k hs ht does =>
    obtain ⟨v, inv, hdoes⟩ := h.of_held hs
    exact .held k v ⟨ht, does v hdoes⟩ inv
  | drops k hs ht does =>
    obtain ⟨v, inv, hdoes⟩ := h.of_held hs
    exact .free ht (ends k v hs ht inv (does v hdoes))

end Guarded
