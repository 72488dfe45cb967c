import DisplayPowerMgr.AnimatorExecution

/-! The animations of several screens, whose steps share one task handle: which runs leave every
animation its own step. -/
namespace DisplayPowerMgr

/-- The calls on the animators, and a submitted step that runs. -/
inductive AnimatorEvent where
  | startAnimation (id fromBrightness toBrightness duration : ℕ)
  | stopAnimation (id : ℕ)
  | nextStep (task : ℕ)
  deriving DecidableEq, Repr

theorem GradualAnimator.nextStep_animating (a : GradualAnimator) :
    a.nextStep.1.animating = a.nextStep.2 := by
  rw [GradualAnimator.nextStep]
  dsimp only
  split
  · rename_i hidle
    simpa using hidle
  · rename_i hactive
    repeat' split
    all_goals simp_all

def GradualAnimator.left (a : GradualAnimator) : ℕ := a.totalSteps - (a.currentStep + 1) + 1

theorem GradualAnimator.nextStep_closer {a : GradualAnimator} (h : a.animating = true) :
    (a.nextStep.2 = true ∧ a.nextStep.1.toBrightness = a.toBrightness ∧
        a.nextStep.1.left + 1 ≤ a.left) ∨
      (a.nextStep.2 = false ∧ a.nextStep.1.currentBrightness = a.toBrightness) := by
  rw [GradualAnimator.nextStep]
  dsimp only
  rw [if_neg (by simp [h])]
  repeat' split
  all_goals first
    | exact Or.inr ⟨rfl, rfl⟩
    | refine Or.inl ⟨rfl, rfl, ?_⟩
      simp only [GradualAnimator.left]
      omega

namespace DisplayBrightness

def animator (s : DisplayBrightness) (id : ℕ) : GradualAnimator := (s.screens id).animator

def animatorStep (s : DisplayBrightness) : AnimatorEvent → Option DisplayBrightness
  | .startAnimation id fromBrightness toBrightness duration =>
    some (s.startAnimation id fromBrightness toBrightness duration)
  | .stopAnimation id => some (s.stopAnimation id)
  | .nextStep task => s.runAnimatorTask task

def Starts (s : DisplayBrightness) (id fromBrightness toBrightness : ℕ) : Prop :=
  (s.animator id).animating = false ∧ toInt32 toBrightness - toInt32 fromBrightness ≠ 0

instance (s : DisplayBrightness) (id f t : ℕ) : Decidable (s.Starts id f t) :=
  inferInstanceAs (Decidable (_ ∧ _))

theorem animator_setScreen_same (s : DisplayBrightness) (id : ℕ) (screen : ScreenBrightness) :
    (s.setScreen id screen).animator id = screen.animator :=
  congrArg ScreenBrightness.animator (Function.update_self _ _ _)

theorem animator_setScreen_other (s : DisplayBrightness) {id other : ℕ} (h : other ≠ id)
    (screen : ScreenBrightness) : (s.setScreen id screen).animator other = s.animator other :=
  congrArg ScreenBrightness.animator (Function.update_of_ne h _ _)

theorem startAnimation_same (s : DisplayBrightness) (id f t duration : ℕ) :
    (s.startAnimation id f t duration).animator id =
      ((s.animator id).startAnimation f t duration).1 := by
  rw [startAnimation]
  dsimp only
  split
  · exact s.animator_setScreen_same id _
  · exact s.animator_setScreen_same id _

theorem startAnimation_other (s : DisplayBrightness) {id other : ℕ} (h : other ≠ id)
    (f t duration : ℕ) :
    (s.startAnimation id f t duration).animator other = s.animator other := by
  rw [startAnimation]
  dsimp only
  split
  · exact s.animator_setScreen_other h _
  · exact s.animator_setScreen_other h _

theorem startAnimation_starts {s : DisplayBrightness} {id f t : ℕ} (h : s.Starts id f t)
    (duration : ℕ) :
    (s.startAnimation id f t duration).animatorTasks = s.animatorTasks.submit id ∧
      ((s.startAnimation id f t duration).animator id).animating = true := by
  constructor
  · have hsubmits : ((s.screens id).animator.startAnimation f t duration).2 = true :=
      (startAnimation_submits h.1 f t duration).trans (decide_eq_true h.2)
    rw [startAnimation]
    dsimp only
    rw [if_pos hsubmits]
    rfl
  · rw [startAnimation_same, GradualAnimator.startAnimation, if_neg (by simp [h.1])]
    dsimp only
    rw [if_neg h.2]

theorem startAnimation_stays {s : DisplayBrightness} {id f t : ℕ} (h : ¬ s.Starts id f t)
    (duration : ℕ) :
    (s.startAnimation id f t duration).animatorTasks = s.animatorTasks ∧
      ((s.startAnimation id f t duration).animator id).animating =
        (s.animator id).animating := by
  have hstays : ((s.animator id).startAnimation f t duration).2 = false ∧
      ((s.animator id).startAnimation f t duration).1.animating = (s.animator id).animating := by
    by_cases hactive : (s.animator id).animating = true
    · rw [GradualAnimator.startAnimation, if_pos hactive]
      exact ⟨rfl, rfl⟩
    · have hidle : (s.animator id).animating = false := by simpa using hactive
      have hzero : toInt32 t - toInt32 f = 0 := by
        by_contra hne
        exact h ⟨hidle, hne⟩
      rw [GradualAnimator.startAnimation, if_neg hactive]
      dsimp only
      rw [if_pos hzero]
      exact ⟨rfl, rfl⟩
  constructor
  · rw [animator] at hstays
    rw [startAnimation]
    dsimp only
    rw [if_neg (by simp [hstays.1])]
    rfl
  · rw [startAnimation_same, hstays.2]

theorem startAnimation_running {s : DisplayBrightness} {id : ℕ}
    (h : (s.animator id).animating = true) (f t duration : ℕ) :
    (s.startAnimation id f t duration).animator id = s.animator id := by
  rw [startAnimation_same, GradualAnimator.startAnimation, if_pos h]

theorem stopAnimation_animator (s : DisplayBrightness) (id : ℕ) :
    ((s.stopAnimation id).animator id).animating = false ∧
      ∀ other ≠ id, (s.stopAnimation id).animator other = s.animator other := by
  refine ⟨?_, ?_⟩
  · exact congrArg _ (animator_setScreen_same _ id _)
  · intro other hother
    exact animator_setScreen_other _ hother _

/-- A stop takes away the task that the handle names, whoever submitted it. -/
theorem mem_stopAnimation {s : DisplayBrightness} {id : ℕ} {p : ℕ × ℕ} :
    p ∈ (s.stopAnimation id).animatorTasks.pending ↔
      p ∈ s.animatorTasks.pending ∧ ∀ handle ∈ s.animatorTaskHandle, p.1 ≠ handle := by
  cases hhandle : s.animatorTaskHandle with
  | none =>
    have htasks : (s.stopAnimation id).animatorTasks = s.animatorTasks := by
      simp [stopAnimation, hhandle, setScreen]
    simp [htasks]
  | some handle =>
    have htasks : (s.stopAnimation id).animatorTasks = s.animatorTasks.remove handle := by
      simp [stopAnimation, hhandle, setScreen]
    simp [htasks]

theorem runAnimatorTask_eq {s t : DisplayBrightness} {task : ℕ}
    (ht : s.runAnimatorTask task = some t) :
    ∃ id, (task, id) ∈ s.animatorTasks.pending ∧
      t.animator id = (s.animator id).nextStep.1 ∧
      (∀ other ≠ id, t.animator other = s.animator other) ∧
      t.animatorTasks = if (s.animator id).nextStep.2 then
        (s.animatorTasks.remove task).submit id else s.animatorTasks.remove task := by
  obtain ⟨id, hfind, rfl⟩ := Option.map_eq_some_iff.mp ht
  refine ⟨id, Tasks.find?_eq_some.mp hfind, ?_⟩
  dsimp only
  cases hagain : (s.animator id).nextStep.2 with
  | true =>
    rw [animator] at hagain
    rw [if_pos hagain]
    refine ⟨animator_setScreen_same _ id _, ?_, rfl⟩
    intro other hother
    exact animator_setScreen_other _ hother _
  | false =>
    rw [animator] at hagain
    rw [if_neg (by simp [hagain])]
    refine ⟨animator_setScreen_same _ id _, ?_, rfl⟩
    intro other hother
    exact animator_setScreen_other _ hother _

/-- Every animator that is running has exactly one submitted step. -/
def OnePending (s : DisplayBrightness) : Prop :=
  ∀ id, (s.animator id).animating = true → ∃! task, (task, id) ∈ s.animatorTasks.pending

/-- A stop cancels steps of its own animator only. -/
def CancelsOwn (s : DisplayBrightness) : AnimatorEvent → Prop
  | .stopAnimation id => ∀ p ∈ s.animatorTasks.pending,
      p ∉ (s.stopAnimation id).animatorTasks.pending → p.2 = id
  | _ => True

/-- The event disturbs no animation. -/
def Undisturbed (s : DisplayBrightness) (e : AnimatorEvent) : Prop :=
  CancelsOwn s e ∧ ∀ t, s.animatorStep e = some t → OnePending t

/-- A stop finds no submitted step of another animator under the shared handle, a start none of
its own left behind. -/
def Harmless (s : DisplayBrightness) : AnimatorEvent → Prop
  | .startAnimation id f t _ => s.Starts id f t → ∀ task, (task, id) ∉ s.animatorTasks.pending
  | .stopAnimation id => ∀ handle ∈ s.animatorTaskHandle, ∀ other,
      (handle, other) ∈ s.animatorTasks.pending → other = id
  | .nextStep _ => True

theorem cancelsOwn_stop_iff (s : DisplayBrightness) (id : ℕ) :
    CancelsOwn s (.stopAnimation id) ↔ Harmless s (.stopAnimation id) := by
  constructor
  · intro hown handle hhandle other hmem
    refine hown _ hmem ?_
    intro hkept
    exact (mem_stopAnimation.mp hkept).2 handle hhandle rfl
  · rintro hharmless ⟨task, other⟩ hmem hgone
    have hhandle : ∃ handle ∈ s.animatorTaskHandle, task = handle := by
      by_contra hnone
      refine hgone (mem_stopAnimation.mpr ⟨hmem, ?_⟩)
      intro handle hhandle heq
      exact hnone ⟨handle, hhandle, heq⟩
    obtain ⟨handle, hhandle, rfl⟩ := hhandle
    exact hharmless task hhandle other hmem

theorem OnePending.untouched {s t : DisplayBrightness} (h : OnePending s) {id : ℕ}
    (hsame : t.animator id = s.animator id)
    (hpending : ∀ task, (task, id) ∈ t.animatorTasks.pending ↔ (task, id) ∈ s.animatorTasks.pending)
    (hrunning : (t.animator id).animating = true) :
    ∃! task, (task, id) ∈ t.animatorTasks.pending := by
  rw [hsame] at hrunning
  exact (existsUnique_congr hpending).mpr (h id hrunning)

theorem mem_submit_other {q : Tasks ℕ} {id other task : ℕ} (h : other ≠ id) :
    (task, other) ∈ (q.submit id).pending ↔ (task, other) ∈ q.pending := by
  simp [h]

theorem existsUnique_submit_iff {q : Tasks ℕ} {id : ℕ} :
    (∃! task, (task, id) ∈ (q.submit id).pending) ↔ ∀ task, (task, id) ∉ q.pending := by
  constructor
  · rintro ⟨task, _, hunique⟩ old hold
    have hnew := hunique q.next (by simp)
    have hsame := hunique old (by simp [hold])
    have hlt := q.fresh _ hold
    dsimp only at hlt hnew hsame
    omega
  · intro hnone
    refine ⟨q.next, by simp, ?_⟩
    intro task htask
    rcases List.mem_append.mp htask with hold | hnew
    · exact absurd hold (hnone task)
    · exact (Prod.mk.inj (List.mem_singleton.mp hnew)).1

theorem OnePending.startAnimation_iff {s : DisplayBrightness} (h : OnePending s)
    (id f t duration : ℕ) :
    OnePending (s.startAnimation id f t duration) ↔
      Harmless s (.startAnimation id f t duration) := by
  by_cases hstarts : s.Starts id f t
  · obtain ⟨htasks, hactive⟩ := startAnimation_starts hstarts duration
    constructor
    · intro hone _
      have hunique := hone id hactive
      rw [htasks] at hunique
      exact existsUnique_submit_iff.mp hunique
    · intro hharmless other hrunning
      by_cases heq : other = id
      · rw [htasks, heq]
        exact existsUnique_submit_iff.mpr (hharmless hstarts)
      · apply h.untouched (s.startAnimation_other heq f t duration) _ hrunning
        intro task
        rw [htasks]
        exact mem_submit_other heq
  · obtain ⟨htasks, hsame⟩ := startAnimation_stays hstarts duration
    refine iff_of_true ?_ fun hs => absurd hs hstarts
    intro other hrunning
    by_cases heq : other = id
    · subst heq
      rw [htasks]
      exact h other (hsame ▸ hrunning)
    · apply h.untouched (s.startAnimation_other heq f t duration) _ hrunning
      intro task
      rw [htasks]

theorem OnePending.stopAnimation {s : DisplayBrightness} (h : OnePending s) {id : ℕ}
    (hown : Harmless s (.stopAnimation id)) : OnePending (s.stopAnimation id) := by
  obtain ⟨hidle, hother⟩ := s.stopAnimation_animator id
  intro other hrunning
  have hne : other ≠ id := by
    rintro rfl
    exact absurd (hidle.symm.trans hrunning) (by simp)
  apply h.untouched (hother other hne) _ hrunning
  intro task
  constructor
  · intro hmem
    exact (mem_stopAnimation.mp hmem).1
  · intro hmem
    refine mem_stopAnimation.mpr ⟨hmem, ?_⟩
    rintro handle hhandle rfl
    exact hne (hown task hhandle other hmem)

theorem OnePending.runAnimatorTask {s t : DisplayBrightness} (h : OnePending s) {task : ℕ}
    (ht : s.runAnimatorTask task = some t) : OnePending t := by
  obtain ⟨id, hmem, hself, hother, htasks⟩ := runAnimatorTask_eq ht
  intro other hrunning
  by_cases heq : other = id
  · subst heq
    rw [hself, GradualAnimator.nextStep_animating] at hrunning
    have hwas : (s.animator other).animating = true := by
      by_contra hidle
      rw [GradualAnimator.nextStep, if_pos (by simpa using hidle)] at hrunning
      cases hrunning
    rw [htasks, if_pos hrunning]
    -- the step that ran was the only one
    obtain ⟨only, _, hunique⟩ := h other hwas
    apply existsUnique_submit_iff.mpr
    intro old hold
    obtain ⟨hold, hne⟩ := Tasks.mem_remove.mp hold
    exact hne ((hunique old hold).trans (hunique task hmem).symm)
  · apply h.untouched (hother other heq) _ hrunning
    intro i
    have hkept : (i, other) ∈ (s.animatorTasks.remove task).pending ↔
        (i, other) ∈ s.animatorTasks.pending := by
      rw [Tasks.mem_remove, and_iff_left_iff_imp]
      rintro hi rfl
      exact heq (Tasks.mem_unique hi hmem)
    rw [htasks]
    split
    · rw [mem_submit_other heq, hkept]
    · exact hkept

theorem OnePending.step {s t : DisplayBrightness} {e : AnimatorEvent} (h : OnePending s)
    (hharmless : Harmless s e) (ht : s.animatorStep e = some t) : OnePending t := by
  cases e with
  | startAnimation id f goal duration =>
    cases ht
    exact (h.startAnimation_iff id f goal duration).mpr hharmless
  | stopAnimation id =>
    cases ht
    exact h.stopAnimation hharmless
  | nextStep task => exact h.runAnimatorTask ht

theorem undisturbed_iff {s : DisplayBrightness} (h : OnePending s) (e : AnimatorEvent) :
    Undisturbed s e ↔ Harmless s e := by
  constructor
  · rintro ⟨hown, hone⟩
    cases e with
    | startAnimation id f goal duration =>
      exact (h.startAnimation_iff id f goal duration).mp (hone _ rfl)
    | stopAnimation id => exact (cancelsOwn_stop_iff s id).mp hown
    | nextStep task => trivial
  · intro hharmless
    refine ⟨?_, fun t ht => h.step hharmless ht⟩
    cases e with
    | startAnimation id f goal duration => trivial
    | stopAnimation id => exact (cancelsOwn_stop_iff s id).mpr hharmless
    | nextStep task => trivial

structure Still (s : DisplayBrightness) : Prop where
  idle : ∀ id, (s.animator id).animating = false
  empty : s.animatorTasks.pending = []

theorem Still.onePending {s : DisplayBrightness} (h : Still s) : OnePending s := by
  intro id hrunning
  exact absurd ((h.idle id).symm.trans hrunning) (by simp)

def isStepOf (s : DisplayBrightness) (id : ℕ) : AnimatorEvent → Bool
  | .nextStep task => s.animatorTasks.find? task = some id
  | _ => false

def ownSteps (id : ℕ) : DisplayBrightness → List AnimatorEvent → ℕ
  | _, [] => 0
  | s, e :: es =>
    (if s.isStepOf id e then 1 else 0) +
      match s.animatorStep e with
      | some t => ownSteps id t es
      | none => 0

/-- However the run goes on, the animator comes to stand at its target once it took the steps it
has left, unless it is stopped. -/
def Arrives (s : DisplayBrightness) (id : ℕ) : Prop :=
  ∀ es t, Runs.run animatorStep s es = some t → .stopAnimation id ∉ es →
    (s.animator id).left ≤ ownSteps id s es →
    ∃ fs u, fs <+: es ∧ Runs.run animatorStep s fs = some u ∧
      (u.animator id).animating = false ∧
      (u.animator id).currentBrightness = (s.animator id).toBrightness

theorem arrives {s : DisplayBrightness} {id : ℕ} (h : (s.animator id).animating = true) :
    Arrives s id := by
  intro es
  induction es generalizing s with
  | nil =>
    intro t _ _ hsteps
    rw [ownSteps, GradualAnimator.left] at hsteps
    omega
  | cons e es ih =>
    intro t hrun hstop hsteps
    obtain ⟨u, hu, hut⟩ := Runs.run_cons_some.mp hrun
    have hstop' : .stopAnimation id ∉ es := fun hmem => hstop (List.mem_cons_of_mem e hmem)
    -- an event that leaves the animator alone leaves the rest of the run to it
    have hskip (hsame : u.animator id = s.animator id)
        (hown : (s.animator id).left ≤ ownSteps id u es) :
        ∃ fs v, fs <+: e :: es ∧ Runs.run animatorStep s fs = some v ∧
          (v.animator id).animating = false ∧
          (v.animator id).currentBrightness = (s.animator id).toBrightness := by
      rw [← hsame] at hown ⊢
      obtain ⟨fs, v, hfront, hfs, hend⟩ := ih (hsame ▸ h) t hut hstop' hown
      exact ⟨e :: fs, v, List.cons_prefix_cons.mpr ⟨rfl, hfront⟩,
        Runs.run_cons_some.mpr ⟨u, hu, hfs⟩, hend⟩
    cases e with
    | startAnimation other f goal duration =>
      rw [ownSteps, hu, if_neg (by simp [isStepOf]), Nat.zero_add] at hsteps
      refine hskip ?_ hsteps
      cases hu
      by_cases heq : other = id
      · subst heq
        exact startAnimation_running h f goal duration
      · exact s.startAnimation_other (Ne.symm heq) f goal duration
    | stopAnimation other =>
      rw [ownSteps, hu, if_neg (by simp [isStepOf]), Nat.zero_add] at hsteps
      refine hskip ?_ hsteps
      cases hu
      refine (s.stopAnimation_animator other).2 id ?_
      rintro rfl
      exact hstop List.mem_cons_self
    | nextStep task =>
      obtain ⟨owner, hmem, hself, hother, _⟩ := runAnimatorTask_eq hu
      rw [ownSteps, hu, isStepOf, Tasks.find?_eq_some.mpr hmem] at hsteps
      by_cases heq : owner = id
      · subst heq
        rw [if_pos (by simp)] at hsteps
        dsimp only at hsteps
        rcases GradualAnimator.nextStep_closer h with ⟨hagain, htarget, hleft⟩ | ⟨hend, hlevel⟩
        · rw [← hself] at htarget hleft
          have hrunning : (u.animator owner).animating = true := by
            rw [hself, GradualAnimator.nextStep_animating, hagain]
          obtain ⟨fs, v, hfront, hfs, hidle, hlevel⟩ := ih hrunning t hut hstop' (by omega)
          exact ⟨.nextStep task :: fs, v, List.cons_prefix_cons.mpr ⟨rfl, hfront⟩,
            Runs.run_cons_some.mpr ⟨u, hu, hfs⟩, hidle, hlevel.trans htarget⟩
        · refine ⟨[.nextStep task], u, List.cons_prefix_cons.mpr ⟨rfl, List.nil_prefix⟩,
            Runs.run_cons_some.mpr ⟨u, hu, rfl⟩, ?_, ?_⟩
          · rw [hself, GradualAnimator.nextStep_animating, hend]
          · rw [hself, hlevel]
      · rw [if_neg (by simpa using heq), Nat.zero_add] at hsteps
        exact hskip (hother id (Ne.symm heq)) hsteps

def NeverDisturbed : Prop :=
  ∀ s, Still s → ∀ es, Runs.Always animatorStep Undisturbed s es

/-- A run disturbs no animation exactly if all its events are harmless where they happen; then in
every state it reaches each animation has its one step, and its steps lead it to its target. -/
theorem undisturbed_run_iff {s : DisplayBrightness} (h : Still s) (es : List AnimatorEvent) :
    (Runs.Always animatorStep Undisturbed s es ↔ Runs.Always animatorStep Harmless s es) ∧
      (Runs.Always animatorStep Harmless s es → ∀ t, Runs.run animatorStep s es = some t →
        OnePending t ∧ ∀ id, (t.animator id).animating = true → Arrives t id) := by
  constructor
  · exact Runs.always_iff (P := fun _ => True) (fun s e t hs _ he ht => hs.step he ht)
      (fun s e hs _ => undisturbed_iff hs e) h.onePending (fun _ _ => trivial)
  · intro hharmless t ht
    refine ⟨?_, fun id hrunning => arrives hrunning⟩
    exact Runs.run_invariant (fun s e t hs he ht => OnePending.step hs he ht) h.onePending
      hharmless ht

theorem still_switchedOff : Still switchedOff := ⟨fun _ => rfl, rfl⟩

/-- Two screens are animated at the same time and nothing is stopped. -/
theorem two_animations_undisturbed :
    Runs.Always animatorStep Undisturbed switchedOff
      [.startAnimation 0 10 50 300, .startAnimation 1 200 100 300, .nextStep 0] := by
  refine (undisturbed_run_iff still_switchedOff _).1.mpr ⟨?_, ?_⟩
  · intro _ task hmem
    cases hmem
  · rintro t ⟨⟩
    refine ⟨?_, fun u _ => ⟨trivial, fun _ _ => trivial⟩⟩
    intro _ task hmem
    simp [startAnimation, submitNextStep, switchedOff, Tasks.empty, setScreen,
      GradualAnimator.startAnimation, toInt32] at hmem

/-- The screen that started first is stopped: the step of the other one is cancelled. -/
theorem stop_cancels_other : ¬ NeverDisturbed := by
  intro h
  have hrun := h switchedOff still_switchedOff
    [.startAnimation 0 10 50 300, .startAnimation 1 200 100 300, .stopAnimation 0]
  have hstop := (hrun.2 _ rfl).2 _ rfl
  have hown := hstop.1.1 (1, 1) (by decide +kernel) (by decide +kernel)
  cases hown

end DisplayBrightness

end DisplayPowerMgr
