import Mathlib.Data.List.Chain
import DisplayPowerMgr.MultiScreenCalls

/-! The multi-screen protocol: whatever the managers answer and however the calls interleave, a
screen is told exactly the changes of its cached state, in the order in which they happened. -/
namespace DisplayPowerMgr

open MultiScreenService

def Alternates (log : List DisplayState) : Prop :=
  log.IsChain (· ≠ ·) ∧ ∀ state ∈ log, state = .on ∨ state = .off

theorem Alternates.concat {log : List DisplayState} {state : DisplayState} (h : Alternates log)
    (hne : log.getLastD .unknown ≠ state) (hstate : state = .on ∨ state = .off) :
    Alternates (log ++ [state]) := by
  refine ⟨List.isChain_append.mpr ⟨h.1, List.isChain_singleton state, ?_⟩, ?_⟩
  · intro last hlast next hnext
    obtain rfl : state = next := by simpa using hnext
    rw [List.getLastD_eq_getLast?, Option.mem_def.mp hlast] at hne
    exact hne
  · intro other hother
    rcases List.mem_append.mp hother with hold | hnew
    · exact h.2 other hold
    · rw [List.mem_singleton.mp hnew]
      exact hstate

namespace MultiScreenService.ScreenView

/-- Between the calls on a screen: it was told of every change, and of nothing else. -/
structure Settled (v : ScreenView) : Prop where
  published : v.published = v.notified
  last : v.state = v.notified.getLastD .unknown
  alternates : Alternates v.notified

theorem Settled.change {v : ScreenView} {state : DisplayState} (h : v.Settled)
    (hstate : state = .on ∨ state = .off) : (v.change state).Settled := by
  rw [ScreenView.change]
  split
  · exact h
  · refine ⟨?_, ?_, ?_⟩
    · exact congrArg (· ++ [state]) h.published
    · simp
    · exact h.alternates.concat (fun heq => ‹¬ v.state = state› (h.last.trans heq)) hstate

theorem Settled.reply {v : ScreenView} {state : DisplayState} (h : v.Settled)
    (hstate : state = .on ∨ state = .off) (error : DisplayErrors) :
    (v.reply state error).Settled := by
  rw [ScreenView.reply]
  split
  · exact h.change hstate
  · exact h

end MultiScreenService.ScreenView

namespace MultiScreenCalls

/-- The locks and what is seen of the screens that they guard. -/
def sections : Guarded.Sections MultiScreenCalls ℕ ℕ (Option MultiScreenCall) ScreenView where
  holder m id := m.screenLock id
  object m id := m.service.view id
  point m k := m.call k
  Does call v v' := ∀ c, call = some c → c.Does v v'

variable {m u : MultiScreenCalls} {e : MultiScreenEvent} {id k : ℕ}

theorem moves_idle (hlock : u.screenLock id = m.screenLock id)
    (hview : u.service.view id = m.service.view id)
    (hcall : ∀ j, m.screenLock id = some j → u.call j = m.call j) : sections.Moves id m u := by
  cases hs : m.screenLock id with
  | none => exact .stays hs (hlock.trans hs) hview
  | some j =>
    refine .works j hs (hlock.trans hs) ?_
    intro v hdoes c hc
    have hsame : sections.object u id = sections.object m id := hview
    rw [hsame]
    exact hdoes c ((hcall j hs).symm.trans hc)

theorem proceed_moves_inside {c : MultiScreenCall} (hm : Orderly m) (hcall : m.call k = some c)
    (hin : c.holds = true) (answer : Bool) :
    sections.Moves c.displayId m (m.proceed k answer c) := by
  have hlock := proceed_lock_self hm hcall answer
  have hs : m.screenLock c.displayId = some k := (hm.holder _ _).mpr ⟨c, hcall, rfl, hin⟩
  have hdoes (v : ScreenView) (hv : sections.Does (m.call k) v (m.service.view c.displayId)) :
      sections.Does ((m.proceed k answer c).call k) v
        ((m.proceed k answer c).service.view c.displayId) := by
    intro d hd
    obtain rfl := Option.some.inj ((proceed_call_self m k answer c).symm.trans hd)
    exact MultiScreenCall.advance_does hin (hv c hcall)
  cases hout : (c.advance m.service answer).2.holds with
  | true => exact .works k hs (hlock.trans (if_pos hout)) hdoes
  | false => exact .drops k hs ((hlock.trans (if_neg (by simp [hout]))).trans (if_pos hin)) hdoes

theorem proceed_moves_outside {c : MultiScreenCall} (hm : Orderly m) (hcall : m.call k = some c)
    (hin : c.holds = false) {answer : Bool}
    (may : c.mayAdvance (m.screenLock c.displayId) = true) :
    sections.Moves c.displayId m (m.proceed k answer c) := by
  have hlock := proceed_lock_self hm hcall answer
  have hview (i : ℕ) : (m.proceed k answer c).service.view i = m.service.view i :=
    MultiScreenCall.advance_view_outside hin i
  cases hout : (c.advance m.service answer).2.holds with
  | true =>
    refine .takes k (MultiScreenCall.mayAdvance_unlocked may hin hout) ⟨?_, ?_⟩
    · exact hlock.trans (if_pos hout)
    · intro d hd
      obtain rfl := Option.some.inj ((proceed_call_self m k answer c).symm.trans hd)
      have hsame : sections.object (m.proceed k answer c) c.displayId =
        sections.object m c.displayId := hview c.displayId
      rw [hsame]
      exact MultiScreenCall.advance_enters hin hout _
  | false =>
    refine moves_idle ?_ (hview c.displayId) ?_
    · rw [hlock, if_neg (by simp [hout]), if_neg (by simp [hin])]
    · intro j hj
      refine proceed_call_other ?_
      rintro rfl
      obtain ⟨d, hd, -, hholds⟩ := (hm.holder _ _).mp hj
      obtain rfl := Option.some.inj (hcall.symm.trans hd)
      exact absurd (hin.symm.trans hholds) (by simp)

theorem proceed_moves_other {c : MultiScreenCall} (hm : Orderly m) (hcall : m.call k = some c)
    {id : ℕ} (hid : id ≠ c.displayId) (answer : Bool) :
    sections.Moves id m (m.proceed k answer c) := by
  refine moves_idle (proceed_lock_other hid) (MultiScreenCall.advance_view_other hid) ?_
  intro j hj
  refine proceed_call_other ?_
  rintro rfl
  obtain ⟨d, hd, hdid, -⟩ := (hm.holder id j).mp hj
  obtain rfl := Option.some.inj (hcall.symm.trans hd)
  exact hid hdid.symm

theorem step_moves (hm : Orderly m) (h : step m e = some u) (id : ℕ) :
    sections.Moves id m u := by
  cases step_cases h with
  | enters k c fresh outside checked eq =>
    subst eq
    refine moves_idle rfl rfl ?_
    intro j hj
    obtain ⟨d, hd, -, -⟩ := (hm.holder id j).mp hj
    refine Function.update_of_ne ?_ _ _
    rintro rfl
    exact absurd (fresh.symm.trans hd) (by simp)
  | proceeds k answer c call may eq =>
    subst eq
    by_cases hid : id = c.displayId
    · subst hid
      cases hin : c.holds with
      | true => exact proceed_moves_inside hm call hin answer
      | false => exact proceed_moves_outside hm call hin may
    · exact proceed_moves_other hm call hid answer

/-- One step of a request that has not returned. -/
def Advances (r : MultiScreenRequest) (a b : MultiScreenService × SetPhase) : Prop :=
  (∀ error, a.2 ≠ .returned error) ∧ ∃ answer, b = a.2.advance a.1 r answer

section Alone
variable {s : MultiScreenService} {r : MultiScreenRequest}

theorem advances {phase phase' : SetPhase} {s' : MultiScreenService} (answer : Bool)
    (h : phase.advance s r answer = (s', phase')) (hphase : ∀ error, phase ≠ .returned error) :
    Advances r (s, phase) (s', phase') :=
  ⟨hphase, answer, h.symm⟩

theorem returns_now (error : DisplayErrors) :
    Relation.ReflTransGen (Advances r) (s, .leaving error) (s, .returned error) :=
  .single (advances true rfl (by simp))

theorem commands_all (hw : MultiScreenAnswer) : Relation.ReflTransGen (Advances r) (s, .told)
    (s.command (r.displayId % 2 ^ 32) r.state r.reason hw,
      .ended (hw.setDisplayState && hw.setScreenPower)) := by
  rw [← getDisplayId_eq s r.displayId]
  refine .head (advances hw.begins rfl (by simp)) ?_
  refine .head (advances hw.setDisplayState rfl (by simp)) ?_
  refine .head (advances hw.setScreenPower rfl (by simp)) ?_
  exact .single (advances hw.ends rfl (by simp))

theorem fails_alone : Relation.ReflTransGen (Advances r) (s, .ended false)
    (s.undoSetDisplayStateInner (r.displayId % 2 ^ 32) (s.getState r.displayId) r.reason,
      .returned .stateChangeFailed) := by
  refine .head (advances true rfl (by simp)) ?_
  refine .head (advances true rfl (by simp)) ?_
  exact returns_now .stateChangeFailed

theorem succeeds_alone : Relation.ReflTransGen (Advances r) (s, .ended true)
    ((((s.lightScreen (r.displayId % 2 ^ 32) r.state).cacheState r.displayId r.state
      r.reason).notifyMultiScreenStateChanged r.change), .returned .ok) := by
  rw [← getDisplayId_eq s r.displayId]
  refine .head (advances true rfl (by simp)) ?_
  refine .head (advances true rfl (by simp)) ?_
  refine .head (advances true rfl (by simp)) ?_
  refine .head (advances true rfl (by simp)) ?_
  exact returns_now .ok

theorem advances_inner (s : MultiScreenService) (r : MultiScreenRequest)
    (hw : MultiScreenAnswer) : Relation.ReflTransGen (Advances r) (s, .entered)
      ((s.setMultiScreenDisplayStateInner r hw).1,
        .returned (s.setMultiScreenDisplayStateInner r hw).2) := by
  rw [setMultiScreenDisplayStateInner]
  by_cases hcheck : checkRequest r = .ok
  · have hadmitted : SetPhase.entered.advance s r true = (s, .admitted) := by
      rw [SetPhase.advance, if_neg (not_not.mpr hcheck)]
    rw [if_neg (not_not.mpr hcheck)]
    refine .head (advances true hadmitted (by simp)) ?_
    refine .head (advances true rfl (by simp)) ?_
    refine .head (advances true rfl (by simp)) ?_
    by_cases hsame : (s.findController r.displayId).getState r.displayId = r.state
    · have hskip : SetPhase.locked.advance (s.findController r.displayId) r true =
          (s.findController r.displayId, .leaving .ok) := by
        rw [SetPhase.advance, if_pos hsame]
      refine .head (advances true hskip (by simp)) ?_
      dsimp only
      rw [if_pos hsame]
      exact returns_now .ok
    · have hchanging : SetPhase.locked.advance (s.findController r.displayId) r true =
          (s.findController r.displayId, .changing) := by
        rw [SetPhase.advance, if_neg hsame]
      refine .head (advances true hchanging (by simp)) ?_
      refine .head (advances true rfl (by simp)) ?_
      refine (commands_all hw).trans ?_
      dsimp only
      rw [if_neg hsame, updateMultiScreenState, getDisplayId_eq]
      cases hret : hw.setDisplayState && hw.setScreenPower with
      | false =>
        have hfails : (!hw.setDisplayState || !hw.setScreenPower) = true := by
          rw [← Bool.not_and, hret]
          rfl
        rw [if_pos hfails]
        exact fails_alone
      | true =>
        have hworks : (!hw.setDisplayState || !hw.setScreenPower) = false := by
          rw [← Bool.not_and, hret]
          rfl
        rw [if_neg (by simp [hworks])]
        exact succeeds_alone
  · have hrefused : SetPhase.entered.advance s r true = (s, .returned (checkRequest r)) := by
      rw [SetPhase.advance, if_pos hcheck]
    rw [if_pos hcheck]
    exact .single (advances true hrefused (by simp))

end Alone

def Goes (a b : MultiScreenService × MultiScreenCall) : Prop :=
  ¬ a.2.IsOver ∧ ∃ answer, b = a.2.advance a.1 answer

theorem Advances.goes {r : MultiScreenRequest} {a b : MultiScreenService × SetPhase}
    (h : Advances r a b) : Goes (a.1, .set r a.2) (b.1, .set r b.2) := by
  obtain ⟨hphase, answer, rfl⟩ := h
  refine ⟨?_, answer, rfl⟩
  rintro ⟨error, hreturned⟩
  exact hphase error hreturned

theorem query_goes (s : MultiScreenService) (caller : Caller) (displayId : ℕ) :
    Relation.ReflTransGen Goes (s, .get caller displayId .entered)
      ((s.getMultiScreenDisplayStateInner caller displayId).1, .get caller displayId
        (.returned (s.getMultiScreenDisplayStateInner caller displayId).2.1
          (s.getMultiScreenDisplayStateInner caller displayId).2.2)) := by
  have hgoes {t t' : MultiScreenService} {phase phase' : GetPhase}
      (hadvance : phase.advance t caller displayId = (t', phase'))
      (hphase : ∀ error state, phase ≠ .returned error state) :
      Goes (t, .get caller displayId phase) (t', .get caller displayId phase') := by
    refine ⟨?_, true, ?_⟩
    · rintro ⟨error, state, hreturned⟩
      exact hphase error state hreturned
    · rw [MultiScreenCall.advance, hadvance]
  rw [getMultiScreenDisplayStateInner]
  by_cases hcheck : checkPermission caller = .ok
  · rw [if_neg (not_not.mpr hcheck)]
    have hadmitted : GetPhase.advance s caller displayId .entered = (s, .admitted) := by
      rw [GetPhase.advance, if_neg (not_not.mpr hcheck)]
    refine .head (hgoes hadmitted (by simp)) ?_
    refine .head (hgoes rfl (by simp) : Goes _ (s.findController displayId, _)) ?_
    refine .head (hgoes rfl (by simp)) ?_
    refine .head (hgoes rfl (by simp)) ?_
    exact .single (hgoes rfl (by simp))
  · rw [if_pos hcheck]
    refine .single (hgoes ?_ (by simp))
    rw [GetPhase.advance, if_pos hcheck]

theorem mayAdvance_of_unlocked {c : MultiScreenCall} {lock : Option ℕ} (hover : ¬ c.IsOver)
    (hlock : c.holds = false → lock = none) : c.mayAdvance lock = true := by
  cases c with
  | set r phase =>
    cases phase with
    | returned error => exact absurd ⟨error, rfl⟩ hover
    | found =>
      rw [hlock rfl]
      rfl
    | _ => rfl
  | get caller displayId phase =>
    cases phase with
    | returned error state => exact absurd ⟨error, state, rfl⟩ hover
    | found =>
      rw [hlock rfl]
      rfl
    | _ => rfl

theorem runs_alone {c : MultiScreenCall} {b : MultiScreenService × MultiScreenCall}
    (hm : Orderly m) (hc : m.call k = some c)
    (hlock : m.screenLock c.displayId = none ∨ m.screenLock c.displayId = some k)
    (h : Relation.ReflTransGen Goes (m.service, c) b) :
    ∃ es u, Runs.run step m es = some u ∧ (∀ e ∈ es, ∃ answer, e = .proceed k answer) ∧
      Orderly u ∧ u.service = b.1 ∧ u.call k = some b.2 ∧ b.2.displayId = c.displayId ∧
      (u.screenLock c.displayId = none ∨ u.screenLock c.displayId = some k) := by
  induction h with
  | refl => exact ⟨[], m, rfl, by simp, hm, rfl, hc, rfl, hlock⟩
  | @tail b d _ hstep ih =>
    obtain ⟨es, u, hrun, hes, hu, hservice, hcall, hid, hheld⟩ := ih
    obtain ⟨hover, answer, rfl⟩ := hstep
    have hmay : b.2.mayAdvance (u.screenLock b.2.displayId) = true := by
      apply mayAdvance_of_unlocked hover
      intro hout
      rw [hid]
      rcases hheld with hnone | hself
      · exact hnone
      · obtain ⟨c', hc', -, hin⟩ := (hu.holder _ _).mp hself
        obtain rfl := Option.some.inj (hcall.symm.trans hc')
        exact absurd (hout.symm.trans hin) (by simp)
    have hnext : step u (.proceed k answer) = some (u.proceed k answer b.2) := by
      simp only [step, hcall]
      exact if_pos hmay
    refine ⟨es ++ [.proceed k answer], _, Runs.run_append_some.mpr ⟨u, hrun, ?_⟩, ?_,
      orderly_step hu hnext, ?_, ?_, MultiScreenCall.advance_displayId.trans hid, ?_⟩
    · rw [Runs.run_cons, hnext]
      rfl
    · intro e he
      rcases List.mem_append.mp he with hold | hnew
      · exact hes e hold
      · exact ⟨answer, List.mem_singleton.mp hnew⟩
    · rw [← hservice]
      rfl
    · rw [proceed_call_self, ← hservice]
    · have hafter := proceed_lock_self hu hcall answer
      rw [hid] at hafter
      refine hafter ▸ ?_
      split
      · exact Or.inr rfl
      · split
        · exact Or.inl rfl
        · exact hheld

theorem ends_alone {c : MultiScreenCall} {b : MultiScreenService × MultiScreenCall}
    (hm : Orderly m) (hc : m.call k = some c) (hfree : m.screenLock c.displayId = none)
    (h : Relation.ReflTransGen Goes (m.service, c) b) (hout : b.2.holds = false) :
    ∃ es u, Runs.run step m es = some u ∧ (∀ e ∈ es, ∃ answer, e = .proceed k answer) ∧
      u.service = b.1 ∧ u.call k = some b.2 ∧ u.screenLock c.displayId = none := by
  obtain ⟨es, u, hrun, hes, hu, hservice, hcall, -, hlock⟩ := runs_alone hm hc (Or.inl hfree) h
  refine ⟨es, u, hrun, hes, hservice, hcall, ?_⟩
  rcases hlock with hnone | hself
  · exact hnone
  · obtain ⟨c', hc', -, hin⟩ := (hu.holder _ _).mp hself
    obtain rfl := Option.some.inj (hcall.symm.trans hc')
    exact absurd (hout.symm.trans hin) (by simp)

/-- With its screen to itself a request returns, having done what the function computes. -/
theorem returns_alone {r : MultiScreenRequest} (hm : Orderly m)
    (hc : m.call k = some (.set r .entered)) (hfree : m.screenLock r.displayId = none)
    (hw : MultiScreenAnswer) :
    ∃ es u, Runs.run step m es = some u ∧ (∀ e ∈ es, ∃ answer, e = .proceed k answer) ∧
      u.service = (m.service.setMultiScreenDisplayStateInner r hw).1 ∧
      u.call k = some (.set r (.returned (m.service.setMultiScreenDisplayStateInner r hw).2)) ∧
      u.screenLock r.displayId = none := by
  have hgoes := (advances_inner m.service r hw).lift
    (fun p => (p.1, MultiScreenCall.set r p.2)) fun _ _ h => h.goes
  exact ends_alone hm hc hfree hgoes rfl

theorem query_returns_alone {caller : Caller} {displayId : ℕ} (hm : Orderly m)
    (hc : m.call k = some (.get caller displayId .entered))
    (hfree : m.screenLock displayId = none) :
    ∃ es u, Runs.run step m es = some u ∧ (∀ e ∈ es, ∃ answer, e = .proceed k answer) ∧
      u.service = (m.service.getMultiScreenDisplayStateInner caller displayId).1 ∧
      u.call k = some (.get caller displayId
        (.returned (m.service.getMultiScreenDisplayStateInner caller displayId).2.1
          (m.service.getMultiScreenDisplayStateInner caller displayId).2.2)) ∧
      u.screenLock displayId = none :=
  ends_alone hm hc hfree (query_goes m.service caller displayId) rfl

end MultiScreenCalls

end DisplayPowerMgr
