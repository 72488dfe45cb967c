import DisplayPowerMgr.Library.Runs

/-! A machine inside another one: where each event of the outer machine is a run of the inner one,
so is each of its runs, and what holds over all runs of the inner machine holds inside the outer
one. Events of which nothing is seen can be left out of a run, and a condition on what is seen can
be asked of the inner machine. -/
namespace Runs

variable {σ τ ε δ : Type*} {step : σ → ε → Option σ} {inner : τ → δ → Option τ} {view : σ → τ}

def Leads (step : σ → ε → Option σ) (s t : σ) : Prop := ∃ es, run step s es = some t

namespace Leads

@[refl] theorem refl (s : σ) : Leads step s s := ⟨[], rfl⟩

theorem trans {s t u : σ} (hst : Leads step s t) (htu : Leads step t u) : Leads step s u := by
  obtain ⟨es, hes⟩ := hst
  obtain ⟨fs, hfs⟩ := htu
  exact ⟨es ++ fs, run_append_some.mpr ⟨t, hes, hfs⟩⟩

theorem of_step {s t : σ} {e : ε} (h : step s e = some t) : Leads step s t :=
  ⟨[e], run_cons_some.mpr ⟨t, h, rfl⟩⟩

theorem reachable {I : σ → Prop} {s t : σ} (h : Leads step s t) (hs : Reachable step I s) :
    Reachable step I t := by
  obtain ⟨es, hes⟩ := h
  exact hs.run hes

end Leads

/-- The events that `C` admits keep `J` and are runs of the inner machine. -/
theorem run_refines {J : σ → Prop} {C : σ → ε → Prop}
    (keep : ∀ s e t, J s → C s e → step s e = some t → J t)
    (simulate : ∀ s e t, J s → C s e → step s e = some t → Leads inner (view s) (view t))
    {s t : σ} {es : List ε} (hs : J s) (hc : Always step C s es) (ht : run step s es = some t) :
    Leads inner (view s) (view t) := by
  induction es generalizing s with
  | nil =>
    obtain rfl := Option.some.inj ht
    exact .refl _
  | cons e es ih =>
    obtain ⟨u, hu, hut⟩ := run_cons_some.mp ht
    have hnow := simulate s e u hs hc.1 hu
    exact hnow.trans (ih (keep s e u hs hc.1 hu) (hc.2 u hu) hut)

/-- Where the events of one kind move a view of the state as a machine of its own does, a condition
on them that looks at the view alone holds of a run exactly if it holds of the run of the view. -/
theorem always_view {J : σ → Prop} {event : δ → ε} {C : σ → ε → Prop} {D : τ → δ → Prop}
    (keep : ∀ s d t, J s → step s (event d) = some t → J t)
    (same : ∀ s d, J s → (step s (event d)).map view = inner (view s) d)
    (agree : ∀ s d, J s → (C s (event d) ↔ D (view s) d)) {s : σ} (hs : J s) (ds : List δ) :
    Always step C s (ds.map event) ↔ Always inner D (view s) ds := by
  induction ds generalizing s with
  | nil => exact Iff.rfl
  | cons d ds ih =>
    rw [List.map_cons, always_cons, always_cons, agree s d hs, ← same s d hs]
    apply and_congr_right
    intro _
    constructor
    · intro hrest v hv
      obtain ⟨t, ht, rfl⟩ := Option.map_eq_some_iff.mp hv
      exact (ih (keep s d t hs ht)).mp (hrest t ht)
    · intro hrest t ht
      exact (ih (keep s d t hs ht)).mpr (hrest _ (by rw [ht]; rfl))

end Runs
