import Mathlib.Data.List.Chain
import DisplayPowerMgr.Library.Runs

/-! A log with one entry for each change of a Boolean level: it alternates, and its last entry
is the level that was reached. -/
namespace Edges

/-- What one step adds to the log. -/
def edge (before after : Bool) : List Bool := if after = before then [] else [after]

/-- The log of a level that went from `first` to `now`. -/
structure Tracks (first now : Bool) (log : List Bool) : Prop where
  alternates : (first :: log).IsChain (· ≠ ·)
  last : log.getLastD first = now

theorem Tracks.refl (first : Bool) : Tracks first first [] where
  alternates := List.isChain_singleton first
  last := rfl

theorem isChain_concat {first next : Bool} {log : List Bool}
    (h : (first :: log).IsChain (· ≠ ·)) (hnext : log.getLastD first ≠ next) :
    (first :: (log ++ [next])).IsChain (· ≠ ·) := by
  induction log generalizing first with
  | nil => exact List.isChain_cons_cons.mpr ⟨hnext, List.isChain_singleton next⟩
  | cons b log ih =>
    obtain ⟨hne, hrest⟩ := List.isChain_cons_cons.mp h
    rw [List.getLastD_cons] at hnext
    exact List.isChain_cons_cons.mpr ⟨hne, ih hrest hnext⟩

theorem Tracks.step {first now : Bool} {log : List Bool} (h : Tracks first now log)
    (next : Bool) : Tracks first next (log ++ edge now next) := by
  by_cases heq : next = now
  · rw [edge, if_pos heq, List.append_nil, heq]
    exact h
  · rw [edge, if_neg heq]
    refine ⟨isChain_concat h.alternates ?_, ?_⟩
    · rw [h.last]
      exact fun hnow => heq hnow.symm
    · simp

theorem tracks_of_run {σ ε : Type*} {step : σ → ε → Option σ} {level : σ → Bool} {α : Type*}
    {log : σ → List α} {entry : Bool → α} {s t : σ} {es : List ε}
    (h : Runs.Always step (fun s e => ∀ t, step s e = some t →
      log t = log s ++ (edge (level s) (level t)).map entry) s es)
    (hrun : Runs.run step s es = some t) :
    ∃ added, log t = log s ++ added.map entry ∧ Tracks (level s) (level t) added := by
  refine Runs.run_invariant
    (J := fun u => ∃ added, log u = log s ++ added.map entry ∧ Tracks (level s) (level u) added)
    ?_ ?_ h hrun
  · rintro u e v ⟨added, hlog, htracks⟩ hedge hstep
    refine ⟨added ++ edge (level u) (level v), ?_, htracks.step (level v)⟩
    rw [hedge v hstep, hlog, List.map_append, List.append_assoc]
  · exact ⟨[], by simp, Tracks.refl _⟩

end Edges
