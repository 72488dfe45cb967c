import DisplayPowerMgr.Library.Approach

/-! A task that submits itself again until it is done, run with nothing in between: its execution
from a state, and the rule for a task each of whose turns shows a value nearer to a target.
Nothing here knows any program. -/
namespace Repeating

variable {σ α : Type*}

/-- What one turn of the task does: the state it leaves, the value it shows, and whether it
submitted itself again. -/
structure Turn (σ α : Type*) where
  next : σ
  shown : Option α
  again : Bool

/-- The task that is submitted in the first state shows the values one after the other, and the
last state is the one in which nothing is submitted any more. -/
inductive Executes (turn : σ → Turn σ α) : σ → List α → σ → Prop where
  | last {s : σ} (h : (turn s).again = false) :
      Executes turn s (turn s).shown.toList (turn s).next
  | more {s t : σ} {l : List α} (h : (turn s).again = true)
      (rest : Executes turn (turn s).next l t) : Executes turn s ((turn s).shown.toList ++ l) t

variable {turn : σ → Turn σ α}

theorem Executes.unique {s t t' : σ} {l l' : List α} (h : Executes turn s l t)
    (h' : Executes turn s l' t') : l' = l ∧ t' = t := by
  induction h generalizing l' t' with
  | last hend =>
    cases h' with
    | last => exact ⟨rfl, rfl⟩
    | more hagain => exact absurd (hend.symm.trans hagain) (by simp)
  | more hagain _ ih =>
    cases h' with
    | last hend => exact absurd (hend.symm.trans hagain) (by simp)
    | more _ hrest =>
      obtain ⟨rfl, rfl⟩ := ih hrest
      exact ⟨rfl, rfl⟩

variable [LinearOrder α]

/-- The values lead from `x` to the target: each one nearer than the one before, none past it,
the last one the target itself, and not more than `n` of them. -/
structure Reaches (target x : α) (l : List α) (n : ℕ) : Prop where
  monotonic : Approach.StrictlyMonotonic target x l
  between : ∀ y ∈ l, Approach.Toward target x y
  last : l.getLast? = some target
  length_le : l.length ≤ n

theorem reaches_target {target x : α} (h : Approach.StrictlyToward target x target) (n : ℕ) :
    Reaches target x [target] (n + 1) where
  monotonic := Approach.strictlyMonotonic_cons.mpr ⟨h, Approach.strictlyMonotonic_nil⟩
  between y hy := List.mem_singleton.mp hy ▸ h.toward
  last := rfl
  length_le := by simp

theorem Reaches.cons {target x y : α} {l : List α} {n : ℕ} (h : Reaches target y l n)
    (hxy : Approach.StrictlyToward target x y) : Reaches target x (y :: l) (n + 1) where
  monotonic := Approach.strictlyMonotonic_cons.mpr ⟨hxy, h.monotonic⟩
  between z hz := by
    rcases List.mem_cons.mp hz with rfl | hz
    · exact hxy.toward
    · exact hxy.toward.trans (h.between z hz)
  last := by
    rw [List.getLast?_cons, h.last]
    rfl
  length_le := by simpa using h.length_le

/-- A turn within an execution that has at most `n` turns left after it. -/
structure Advances (turn : σ → Turn σ α) (target position : σ → α) (Over : σ → Prop)
    (J : ℕ → σ → Prop) (n : ℕ) (s : σ) (v : α) : Prop where
  shown : (turn s).shown = some v
  closer : Approach.StrictlyToward (target s) (position s) v
  outcome : ((turn s).again = true ∧ J n (turn s).next ∧ target (turn s).next = target s ∧
      position (turn s).next = v) ∨
    ((turn s).again = false ∧ Over (turn s).next ∧ v = target s)

/-- The induction rule: when every turn advances, the task reaches its target and ends. -/
theorem executes_of_advances {target position : σ → α} {Over : σ → Prop} {J : ℕ → σ → Prop}
    (left : ∀ s, ¬ J 0 s)
    (advance : ∀ n s, J (n + 1) s → ∃ v, Advances turn target position Over J n s v)
    {n : ℕ} {s : σ} (h : J n s) :
    ∃ l t, Executes turn s l t ∧ Over t ∧ Reaches (target s) (position s) l n := by
  induction n generalizing s with
  | zero => exact absurd h (left s)
  | succ n ih =>
    obtain ⟨v, hadv⟩ := advance n s h
    have hclose := hadv.closer
    rcases hadv.outcome with ⟨hagain, hnext, htarget, hpos⟩ | ⟨hend, hover, rfl⟩
    · obtain ⟨l, t, hexec, hover, hreach⟩ := ih hnext
      rw [htarget, hpos] at hreach
      have hmore := Executes.more hagain hexec
      rw [hadv.shown] at hmore
      exact ⟨v :: l, t, hmore, hover, hreach.cons hclose⟩
    · have hlast := Executes.last hend
      rw [hadv.shown] at hlast
      exact ⟨[target s], (turn s).next, hlast, hover, reaches_target hclose n⟩

end Repeating
