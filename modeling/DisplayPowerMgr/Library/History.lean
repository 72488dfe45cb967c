import DisplayPowerMgr.Library.Runs
import Mathlib.Data.List.Induction

/-! What a run did last: a value that only the latest of certain events decides, a flag that events
switch on and off, and the induction rule for what is said about a state and the events that led
to it. -/
namespace Runs

variable {σ ε α : Type*} {step : σ → ε → Option σ}

/-- What the latest event that says something about `f` says. -/
def latest (f : ε → Option α) (es : List ε) : Option α := (es.filterMap f).getLast?

theorem latest_snoc (f : ε → Option α) (es : List ε) (e : ε) :
    latest f (es ++ [e]) = (f e).or (latest f es) := by
  rw [latest, latest, List.filterMap_append]
  cases h : f e with
  | none => simp [h]
  | some a => simp [h]

theorem latest_of_some {f : ε → Option α} {es : List ε} {e : ε} {a : α} (h : f e = some a) :
    latest f (es ++ [e]) = some a := by
  rw [latest_snoc, h]
  rfl

theorem latest_of_none {f : ε → Option α} {es : List ε} {e : ε} (h : f e = none) :
    latest f (es ++ [e]) = latest f es := by
  rw [latest_snoc, h]
  rfl

/-- What holds at the start, and after each event of all events so far, holds after the run. -/
theorem run_history {J : List ε → σ → Prop} {s t : σ} {es : List ε} (hs : J [] s)
    (keep : ∀ past u e v, J past u → e ∈ es → step u e = some v → J (past ++ [e]) v)
    (ht : run step s es = some t) : J es t := by
  have hrest : ∀ rest past u, J past u → (∀ e ∈ rest, e ∈ es) → run step u rest = some t →
      J (past ++ rest) t := by
    intro rest
    induction rest with
    | nil =>
      intro past u hu _ hr
      obtain rfl := Option.some.inj hr
      rw [List.append_nil]
      exact hu
    | cons e rest ih =>
      intro past u hu hmem hr
      obtain ⟨v, hv, hvt⟩ := run_cons_some.mp hr
      have hnext := keep past u e v hu (hmem e (by simp)) hv
      have hend := ih (past ++ [e]) v hnext (fun f hf => hmem f (by simp [hf])) hvt
      rw [List.append_assoc] at hend
      exact hend
  exact hrest es [] s hs (fun _ he => he) ht

def Throughout (step : σ → ε → Option σ) (C : List ε → σ → ε → Prop) (s : σ) (es : List ε) :
    Prop :=
  ∀ past e rest, es = past ++ e :: rest → ∀ t, run step s past = some t → C past t e

theorem throughout_nil {C : List ε → σ → ε → Prop} (s : σ) : Throughout step C s [] := by
  intro past e rest h
  simp at h

theorem throughout_snoc {C : List ε → σ → ε → Prop} {s : σ} {es : List ε} {e : ε} :
    Throughout step C s (es ++ [e]) ↔
      Throughout step C s es ∧ ∀ t, run step s es = some t → C es t e := by
  constructor
  · intro h
    refine ⟨?_, fun t ht => h es e [] rfl t ht⟩
    rintro past f rest rfl
    exact h past f (rest ++ [e]) (by simp)
  · rintro ⟨hpast, hlast⟩ past f rest heq
    rcases rest.eq_nil_or_concat with rfl | ⟨rest, g, rfl⟩
    · obtain ⟨rfl, hsingle⟩ := List.append_inj' heq rfl
      obtain rfl := List.singleton_inj.mp hsingle
      exact hlast
    · have hsplit : es ++ [e] = (past ++ f :: rest) ++ [g] := by simpa using heq
      exact hpast past f rest (List.append_inj' hsplit rfl).1

/-- Some event of the run met `On`, and none after it met `Off`. -/
def Since (step : σ → ε → Option σ) (On Off : σ → ε → Prop) : σ → List ε → Prop
  | _, [] => False
  | s, e :: es =>
    (On s e ∧ ∀ t, step s e = some t → Always step (fun u f => ¬ Off u f) t es) ∨
      ∃ t, step s e = some t ∧ Since step On Off t es

instance decidableSince {On Off : σ → ε → Prop} [∀ s e, Decidable (On s e)]
    [∀ s e, Decidable (Off s e)] : ∀ (s : σ) (es : List ε), Decidable (Since step On Off s es)
  | _, [] => isFalse id
  | s, e :: es =>
    match h : step s e with
    | none => decidable_of_iff (On s e) (by simp [Since, h])
    | some t =>
      have : Decidable (Since step On Off t es) := decidableSince t es
      decidable_of_iff ((On s e ∧ Always step (fun u f => ¬ Off u f) t es) ∨ Since step On Off t es)
        (by simp [Since, h])

theorem since_snoc {On Off : σ → ε → Prop} {s t : σ} {es : List ε} (ht : run step s es = some t)
    (e : ε) : Since step On Off s (es ++ [e]) ↔ On t e ∨ (Since step On Off s es ∧ ¬ Off t e) := by
  induction es generalizing s with
  | nil =>
    obtain rfl := Option.some.inj ht
    simp [Since]
  | cons f es ih =>
    obtain ⟨u, hu, hut⟩ := run_cons_some.mp ht
    have hnext {P : σ → Prop} : (∃ v, step s f = some v ∧ P v) ↔ P u := by
      simp [hu]
    rw [List.cons_append, Since, Since, forall_step_iff hu, forall_step_iff hu, hnext, hnext,
      ih hut,
      always_append, forall_step_iff hut]
    simp only [always_cons, always_nil, implies_true, and_true]
    tauto

/-- A flag is on after a run that started with it off exactly if it was switched on and not
switched off since. -/
theorem holds_iff_since {On Off : σ → ε → Prop} {B : σ → Prop} {s t : σ} {es : List ε} (hs : ¬ B s)
    (h : Always step (fun u e => ∀ v, step u e = some v → (B v ↔ On u e ∨ (B u ∧ ¬ Off u e))) s es)
    (ht : run step s es = some t) : B t ↔ Since step On Off s es := by
  induction es using List.reverseRecOn generalizing t with
  | nil =>
    obtain rfl := Option.some.inj ht
    exact iff_of_false hs id
  | append_singleton es e ih =>
    obtain ⟨u, hu, hut⟩ := run_append_some.mp ht
    obtain ⟨v, hv, hvt⟩ := run_cons_some.mp hut
    obtain rfl := Option.some.inj hvt
    obtain ⟨hpast, hlast⟩ := always_append.mp h
    rw [(hlast u hu).1 v hv, since_snoc hu, ih hpast hu]

end Runs
