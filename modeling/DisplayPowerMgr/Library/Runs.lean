import Mathlib.Data.List.Basic

/-! Finite runs of a machine whose events may be disabled, and the rules that carry
what a single step keeps over to whole runs. Nothing here knows any machine. -/
namespace Runs

variable {σ ε : Type*} {step : σ → ε → Option σ}

def run (step : σ → ε → Option σ) : σ → List ε → Option σ
  | s, [] => some s
  | s, e :: es => (step s e).bind fun t => run step t es

/-- `C` holds of every event of the run in the state the event happens in. -/
def Always (step : σ → ε → Option σ) (C : σ → ε → Prop) : σ → List ε → Prop
  | _, [] => True
  | s, e :: es => C s e ∧ ∀ t, step s e = some t → Always step C t es

def Reachable (step : σ → ε → Option σ) (I : σ → Prop) (s : σ) : Prop :=
  ∃ s₀ es, I s₀ ∧ run step s₀ es = some s

@[simp] theorem run_nil (s : σ) : run step s [] = some s := rfl

@[simp] theorem run_cons (s : σ) (e : ε) (es : List ε) :
    run step s (e :: es) = (step s e).bind fun t => run step t es := rfl

theorem run_cons_some {s t : σ} {e : ε} {es : List ε} :
    run step s (e :: es) = some t ↔ ∃ u, step s e = some u ∧ run step u es = some t := by
  simp [Option.bind_eq_some_iff]

theorem run_append_some {s t : σ} {es fs : List ε} :
    run step s (es ++ fs) = some t ↔ ∃ u, run step s es = some u ∧ run step u fs = some t := by
  induction es generalizing s with
  | nil => simp
  | cons e es ih =>
    rw [List.cons_append, run_cons_some]
    constructor
    · rintro ⟨v, hv, hvt⟩
      obtain ⟨u, hu, hut⟩ := ih.mp hvt
      exact ⟨u, run_cons_some.mpr ⟨v, hv, hu⟩, hut⟩
    · rintro ⟨u, hu, hut⟩
      obtain ⟨v, hv, hvu⟩ := run_cons_some.mp hu
      exact ⟨v, hv, ih.mpr ⟨u, hvu, hut⟩⟩

theorem forall_step_iff {A : σ → Prop} {s t : σ} {e : ε} (h : step s e = some t) :
    (∀ u, step s e = some u → A u) ↔ A t := by
  constructor
  · intro hall
    exact hall t h
  · rintro ht u hu
    exact Option.some.inj (h.symm.trans hu) ▸ ht

@[simp] theorem always_nil {C : σ → ε → Prop} (s : σ) : Always step C s [] := trivial

@[simp] theorem always_cons {C : σ → ε → Prop} (s : σ) (e : ε) (es : List ε) :
    Always step C s (e :: es) ↔ C s e ∧ ∀ t, step s e = some t → Always step C t es := Iff.rfl

theorem always_append {C : σ → ε → Prop} {s : σ} {es fs : List ε} :
    Always step C s (es ++ fs) ↔
      Always step C s es ∧ ∀ t, run step s es = some t → Always step C t fs := by
  induction es generalizing s with
  | nil => simp
  | cons e es ih =>
    constructor
    · rintro ⟨hc, hrest⟩
      refine ⟨⟨hc, fun t ht => (ih.mp (hrest t ht)).1⟩, ?_⟩
      intro t ht
      obtain ⟨u, hu, hut⟩ := run_cons_some.mp ht
      exact (ih.mp (hrest u hu)).2 t hut
    · rintro ⟨⟨hc, hes⟩, hfs⟩
      refine ⟨hc, fun t ht => ih.mpr ⟨hes t ht, ?_⟩⟩
      intro u hu
      exact hfs u (run_cons_some.mpr ⟨t, ht, hu⟩)

instance decidableAlways {C : σ → ε → Prop} [∀ s e, Decidable (C s e)] :
    ∀ (s : σ) (es : List ε), Decidable (Always step C s es)
  | _, [] => isTrue trivial
  | s, e :: es =>
    have : Decidable (∀ t, step s e = some t → Always step C t es) :=
      match step s e with
      | none => isTrue fun _ ht => nomatch ht
      | some u =>
        match decidableAlways u es with
        | isTrue hu => isTrue fun _ ht => Option.some.inj ht ▸ hu
        | isFalse hu => isFalse fun hall => hu (hall u rfl)
    inferInstanceAs (Decidable (C s e ∧ _))

/-- The induction rule: a step that meets `C` keeps `J`, so a run that always meets it does. -/
theorem run_invariant {C : σ → ε → Prop} {J : σ → Prop}
    (keep : ∀ s e t, J s → C s e → step s e = some t → J t) {s t : σ} {es : List ε}
    (hs : J s) (hc : Always step C s es) (hr : run step s es = some t) : J t := by
  induction es generalizing s with
  | nil => exact Option.some.inj hr ▸ hs
  | cons e es ih =>
    obtain ⟨u, hu, hut⟩ := run_cons_some.mp hr
    exact ih (keep s e u hs hc.1 hu) (hc.2 u hu) hut

theorem always_of_invariant {C D : σ → ε → Prop} {J : σ → Prop}
    (keep : ∀ s e t, J s → C s e → step s e = some t → J t)
    (use : ∀ s e, J s → C s e → D s e) {s : σ} {es : List ε}
    (hs : J s) (hc : Always step C s es) : Always step D s es := by
  induction es generalizing s with
  | nil => trivial
  | cons e es ih =>
    refine ⟨use s e hs hc.1, ?_⟩
    intro t ht
    exact ih (keep s e t hs hc.1 ht) (hc.2 t ht)

theorem Always.mono {C D : σ → ε → Prop} (h : ∀ s e, C s e → D s e) {s : σ} {es : List ε}
    (hc : Always step C s es) : Always step D s es :=
  @always_of_invariant σ ε step C D (fun _ => True) (fun _ _ _ _ _ _ => trivial)
    (fun s e _ => h s e) s es trivial hc

theorem Always.and {C D : σ → ε → Prop} {s : σ} {es : List ε} (hc : Always step C s es)
    (hd : Always step D s es) : Always step (fun s e => C s e ∧ D s e) s es := by
  induction es generalizing s with
  | nil => trivial
  | cons e es ih => exact ⟨⟨hc.1, hd.1⟩, fun t ht => ih (hc.2 t ht) (hd.2 t ht)⟩

theorem always_of_forall {C : σ → ε → Prop} {es : List ε} (h : ∀ s, ∀ e ∈ es, C s e) (s : σ) :
    Always step C s es := by
  induction es generalizing s with
  | nil => trivial
  | cons e es ih =>
    exact ⟨h s e (by simp), fun t _ => ih (fun u f hf => h u f (by simp [hf])) t⟩

theorem always_forall {ι : Sort*} {C : ι → σ → ε → Prop} {s : σ} {es : List ε} :
    (∀ i, Always step (C i) s es) ↔ Always step (fun s e => ∀ i, C i s e) s es := by
  induction es generalizing s with
  | nil => exact iff_of_true (fun _ => trivial) trivial
  | cons e es ih =>
    constructor
    · intro h
      exact ⟨fun i => (h i).1, fun t ht => ih.mp fun i => (h i).2 t ht⟩
    · rintro ⟨hc, hrest⟩ i
      exact ⟨hc i, fun t ht => ih.mpr (hrest t ht) i⟩

/-- Conditions on single steps that agree under an invariant agree on whole runs, also when only
the steps that meet them keep it; the events of the run may be restricted to those of `P`. -/
theorem always_iff {C D : σ → ε → Prop} {J : σ → Prop} {P : ε → Prop}
    (keep : ∀ s e t, J s → P e → D s e → step s e = some t → J t)
    (agree : ∀ s e, J s → P e → (C s e ↔ D s e)) {s : σ} {es : List ε}
    (hs : J s) (hP : ∀ e ∈ es, P e) : Always step C s es ↔ Always step D s es := by
  induction es generalizing s with
  | nil => exact Iff.rfl
  | cons e es ih =>
    have he : P e := hP e (by simp)
    have hes : ∀ f ∈ es, P f := fun f hf => hP f (by simp [hf])
    rw [always_cons, always_cons, agree s e hs he]
    constructor
    · rintro ⟨hd, hrest⟩
      refine ⟨hd, ?_⟩
      intro t ht
      exact (ih (keep s e t hs he hd ht) hes).mp (hrest t ht)
    · rintro ⟨hd, hrest⟩
      refine ⟨hd, ?_⟩
      intro t ht
      exact (ih (keep s e t hs he hd ht) hes).mpr (hrest t ht)

theorem always_congr {C D : σ → ε → Prop} {J : σ → Prop} {P : ε → Prop}
    (keep : ∀ s e t, J s → P e → step s e = some t → J t)
    (agree : ∀ s e, J s → P e → (C s e ↔ D s e)) {s : σ} {es : List ε}
    (hs : J s) (hP : ∀ e ∈ es, P e) : Always step C s es ↔ Always step D s es :=
  always_iff (fun s e t hs he _ ht => keep s e t hs he ht) agree hs hP

/-- When a step keeps `A` exactly if it meets `C`, a run that starts in `A` stays in it exactly
if all its steps meet `C`; `J` collects what every step keeps. -/
theorem always_keeps_iff {C : σ → ε → Prop} {J A : σ → Prop} {P : ε → Prop}
    (keep : ∀ s e t, J s → P e → step s e = some t → J t)
    (exact : ∀ s e, J s → A s → P e → (C s e ↔ ∀ t, step s e = some t → A t))
    {s : σ} {es : List ε} (hJ : J s) (hA : A s) (hP : ∀ e ∈ es, P e) :
    Always step (fun s e => ∀ t, step s e = some t → A t) s es ↔ Always step C s es := by
  refine always_iff (J := fun s => J s ∧ A s) ?_ ?_ ⟨hJ, hA⟩ hP
  · intro s e t hs he hc ht
    exact ⟨keep s e t hs.1 he ht, (exact s e hs.1 hs.2 he).mp hc t ht⟩
  · intro s e hs he
    exact (exact s e hs.1 hs.2 he).symm

theorem always_keeps_iff_of {C P : σ → ε → Prop} {A : σ → Prop}
    (exact : ∀ s e, A s → P s e → (C s e ↔ ∀ t, step s e = some t → A t))
    {s : σ} {es : List ε} (hA : A s) (hP : Always step P s es) :
    Always step (fun s e => ∀ t, step s e = some t → A t) s es ↔ Always step C s es := by
  induction es generalizing s with
  | nil => exact Iff.rfl
  | cons e es ih =>
    rw [always_cons, always_cons, exact s e hA hP.1]
    constructor
    · rintro ⟨hkeeps, hrest⟩
      exact ⟨hkeeps, fun t ht => (ih (hkeeps t ht) (hP.2 t ht)).mp (hrest t ht)⟩
    · rintro ⟨hkeeps, hrest⟩
      exact ⟨hkeeps, fun t ht => (ih (hkeeps t ht) (hP.2 t ht)).mpr (hrest t ht)⟩

theorem run_invariant_of {J : σ → Prop} {P : ε → Prop}
    (keep : ∀ s e t, J s → P e → step s e = some t → J t) {s t : σ} {es : List ε}
    (hs : J s) (hP : ∀ e ∈ es, P e) (hr : run step s es = some t) : J t :=
  run_invariant (C := fun _ e => P e) keep hs (always_of_forall (fun _ => hP) s) hr

theorem Reachable.run {I : σ → Prop} {s t : σ} {es : List ε} (h : Reachable step I s)
    (hr : run step s es = some t) : Reachable step I t := by
  obtain ⟨s₀, fs, hi, hs⟩ := h
  exact ⟨s₀, fs ++ es, hi, run_append_some.mpr ⟨s, hs, hr⟩⟩

theorem Reachable.next {I : σ → Prop} {s t : σ} {e : ε} (h : Reachable step I s)
    (ht : step s e = some t) : Reachable step I t :=
  h.run (run_cons_some.mpr ⟨t, ht, run_nil t⟩)

/-- An invariant of single steps holds in every reachable state. -/
theorem reachable_invariant {I J : σ → Prop} (start : ∀ s, I s → J s)
    (keep : ∀ s e t, J s → step s e = some t → J t) {s : σ}
    (h : Reachable step I s) : J s := by
  obtain ⟨s₀, es, hi, hr⟩ := h
  exact run_invariant (C := fun _ _ => True) (fun s e t hs _ ht => keep s e t hs ht)
    (start s₀ hi) (always_of_forall (fun _ _ _ => trivial) s₀) hr

/-- However the run goes on with events of `P`, it ends in `A`. -/
def Whatever (step : σ → ε → Option σ) (P : ε → Prop) (A : σ → Prop) (s : σ) : Prop :=
  ∀ es, (∀ e ∈ es, P e) → ∀ t, run step s es = some t → A t

theorem Whatever.now {P : ε → Prop} {A : σ → Prop} {s : σ} (h : Whatever step P A s) : A s :=
  h [] (by simp) s rfl

theorem Whatever.next {P : ε → Prop} {A : σ → Prop} {s t : σ} {e : ε} (h : Whatever step P A s)
    (he : P e) (ht : step s e = some t) : Whatever step P A t := by
  intro es hes u hu
  refine h (e :: es) ?_ u (run_cons_some.mpr ⟨t, ht, hu⟩)
  intro f hf
  rcases List.mem_cons.mp hf with rfl | hf
  · exact he
  · exact hes f hf

theorem whatever_of_invariant {P : ε → Prop} {J A : σ → Prop}
    (keep : ∀ s e t, J s → P e → step s e = some t → J t) (now : ∀ s, J s → A s) {s : σ}
    (hs : J s) : Whatever step P A s :=
  fun _ hes t hr => now t (run_invariant_of keep hs hes hr)

/-- A machine that never has a choice comes to rest in one state. -/
theorem ends_unique {J : σ → Prop} {P : ε → Prop}
    (keep : ∀ s e t, J s → P e → step s e = some t → J t)
    (one : ∀ s e f t u, J s → P e → P f → step s e = some t → step s f = some u → e = f)
    {s t u : σ} {es fs : List ε} (hs : J s) (hes : ∀ e ∈ es, P e) (hfs : ∀ f ∈ fs, P f)
    (ht : run step s es = some t) (hu : run step s fs = some u)
    (rest_t : ∀ e, P e → step t e = none) (rest_u : ∀ e, P e → step u e = none) : t = u := by
  induction es generalizing s fs with
  | nil =>
    cases ht
    cases fs with
    | nil => exact Option.some.inj hu
    | cons f fs =>
      obtain ⟨v, hv, _⟩ := run_cons_some.mp hu
      exact absurd ((rest_t f (hfs f (by simp))).symm.trans hv) (by simp)
  | cons e es ih =>
    obtain ⟨v, hv, hvt⟩ := run_cons_some.mp ht
    have he : P e := hes e (by simp)
    cases fs with
    | nil =>
      cases hu
      exact absurd ((rest_u e he).symm.trans hv) (by simp)
    | cons f fs =>
      obtain ⟨w, hw, hwu⟩ := run_cons_some.mp hu
      obtain rfl := one s e f v w hs he (hfs f (by simp)) hv hw
      obtain rfl := Option.some.inj (hv.symm.trans hw)
      exact ih (keep s e v hs he hv) (fun g hg => hes g (by simp [hg]))
        (fun g hg => hfs g (by simp [hg])) hvt hwu

end Runs
