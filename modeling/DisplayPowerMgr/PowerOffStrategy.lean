import DisplayPowerMgr.MultiScreen

/-! The power-off strategy that clients set for all screens, and the watch over the client that
set it. A call hands its token to the watch in one critical section and sets the strategy in
another one; other calls and deaths come in between. -/
namespace DisplayPowerMgr

inductive PowerOffStrategy where
  | all | specific | unknown
  | other (code : ℕ)
  deriving DecidableEq, Repr

def STATE_CHANGE_REASON_UNKNOWN : StateChangeReason := .other 1000

structure MiscellaneousDisplayPowerStrategy where
  strategy : PowerOffStrategy := .all
  reason : StateChangeReason := STATE_CHANGE_REASON_UNKNOWN
  deriving DecidableEq, Repr

namespace MiscellaneousDisplayPowerStrategy

def setStrategy (_ : MiscellaneousDisplayPowerStrategy) (strategy : PowerOffStrategy)
    (reason : StateChangeReason) : MiscellaneousDisplayPowerStrategy :=
  ⟨strategy, reason⟩

def getSpecificStrategyReason (m : MiscellaneousDisplayPowerStrategy) (state : DisplayState)
    (originalReason : StateChangeReason) : StateChangeReason :=
  if m.strategy = .specific ∧ state ≠ .on then m.reason else originalReason

end MiscellaneousDisplayPowerStrategy

structure StrategyRequest where
  client : ℕ
  isSystem : Bool := true
  strategy : PowerOffStrategy
  reason : StateChangeReason := STATE_CHANGE_REASON_UNKNOWN
  token : Option ℕ
  deriving DecidableEq, Repr

/-- The strategy, the statics of the function that sets it, and the calls that are past the
exchange of the token. Each remote object lives in one process, its host; `owner` is the client
whose call put the strategy in force. -/
structure PowerOffStrategyCalls where
  miscellaneous : MiscellaneousDisplayPowerStrategy := {}
  thisInterfaceInvoker : Option ℕ := none
  attached : List ℕ := []
  isProxyObject : ℕ → Bool := fun _ => true
  host : ℕ → ℕ
  alive : ℕ → Bool := fun _ => true
  owner : Option ℕ := none
  call : ℕ → Option StrategyRequest := fun _ => none

namespace PowerOffStrategyCalls

/-- `RemoveDeathRecipient` at the client watched so far. -/
def detached (s : PowerOffStrategyCalls) : List ℕ :=
  match s.thisInterfaceInvoker with
  | none => s.attached
  | some invoker => s.attached.erase invoker

/-- The section under `localMutex_`. What `AddDeathRecipient` answers is not looked at; when it
refuses, nothing is attached. -/
def exchangeToken (s : PowerOffStrategyCalls) (token : Option ℕ) (accepted : Bool) :
    PowerOffStrategyCalls :=
  match token with
  | none => s
  | some token =>
    if s.isProxyObject token = true ∧ s.thisInterfaceInvoker ≠ some token then
      { s with
        attached := if accepted then s.detached ++ [token] else s.detached
        thisInterfaceInvoker := some token }
    else s

def setStrategy (s : PowerOffStrategyCalls) (r : StrategyRequest) : PowerOffStrategyCalls :=
  { s with
    miscellaneous := s.miscellaneous.setStrategy r.strategy r.reason
    owner := some r.client }

def setCall (s : PowerOffStrategyCalls) (k : ℕ) (r : Option StrategyRequest) :
    PowerOffStrategyCalls :=
  { s with call := Function.update s.call k r }

def setScreenPowerOffStrategyInner (s : PowerOffStrategyCalls) (r : StrategyRequest)
    (accepted : Bool) : PowerOffStrategyCalls × DisplayErrors :=
  if !r.isSystem then (s, .systemApiDenied)
  else ((s.exchangeToken r.token accepted).setStrategy r, .ok)

/-- `OnRemoteDied`, once for each object of the client that the recipient is attached to. -/
def remoteDied (s : PowerOffStrategyCalls) (client : ℕ) : PowerOffStrategyCalls :=
  { s with
    alive := Function.update s.alive client false
    attached := s.attached.filter fun token => s.host token ≠ client
    miscellaneous :=
      (s.attached.filter fun token => s.host token = client).foldl
        (fun m _ => m.setStrategy .all STATE_CHANGE_REASON_UNKNOWN) s.miscellaneous }

end PowerOffStrategyCalls

inductive StrategyEvent where
  | exchange (call : ℕ) (r : StrategyRequest) (accepted : Bool)
  | setStrategy (call : ℕ)
  | dies (client : ℕ)
  deriving DecidableEq, Repr

namespace PowerOffStrategyCalls

def step (s : PowerOffStrategyCalls) : StrategyEvent → Option PowerOffStrategyCalls
  | .exchange k r accepted =>
    if s.call k ≠ none then none
    else if !r.isSystem then some s
    else some ((s.exchangeToken r.token accepted).setCall k (some r))
  | .setStrategy k => (s.call k).map fun r => (s.setStrategy r).setCall k none
  | .dies client => if s.alive client = true then some (s.remoteDied client) else none

def start (isProxyObject : ℕ → Bool) (host : ℕ → ℕ) : PowerOffStrategyCalls where
  isProxyObject := isProxyObject
  host := host

/-- The client would tell of its death. -/
def Watched (s : PowerOffStrategyCalls) (client : ℕ) : Prop :=
  ∃ token ∈ s.attached, s.host token = client

/-- A specific strategy in force is that of a client which is alive and watched. -/
def Owned (s : PowerOffStrategyCalls) : Prop :=
  s.miscellaneous.strategy = .specific →
    ∃ client, s.owner = some client ∧ s.alive client = true ∧ s.Watched client

/-- The specific strategy in force, or of a call that is past its exchange, is the client's. -/
def Claims (s : PowerOffStrategyCalls) (client : ℕ) : Prop :=
  (s.miscellaneous.strategy = .specific ∧ s.owner = some client) ∨
    ∃ k r, s.call k = some r ∧ r.strategy = .specific ∧ r.client = client

/-- The exchange of this token leaves the client watched: it moves the watch to an object of the
client that accepts the recipient, or leaves it where it is. -/
def LeavesWatched (s : PowerOffStrategyCalls) (token : Option ℕ) (accepted : Bool)
    (client : ℕ) : Prop :=
  match token with
  | none => s.Watched client
  | some token =>
    if s.isProxyObject token = true ∧ s.thisInterfaceInvoker ≠ some token then
      accepted = true ∧ s.host token = client
    else s.Watched client

/-- A call for a specific strategy comes from a live client and leaves it watched. No exchange
takes the watch from a client with a claim, and no client dies between the sections of its own
call for a specific strategy. -/
def InTurn (s : PowerOffStrategyCalls) : StrategyEvent → Prop
  | .exchange k r accepted =>
    s.call k = none → r.isSystem = true →
      (r.strategy = .specific →
        s.alive r.client = true ∧ s.LeavesWatched r.token accepted r.client) ∧
      ∀ client, s.Claims client → s.LeavesWatched r.token accepted client
  | .setStrategy _ => True
  | .dies client => ∀ k r, s.call k = some r → r.strategy = .specific → r.client ≠ client

variable {s t : PowerOffStrategyCalls} {token : Option ℕ} {accepted : Bool} {client : ℕ}

theorem exchangeToken_cases (s : PowerOffStrategyCalls) (token : Option ℕ) (accepted : Bool) :
    s.exchangeToken token accepted = s ∨ ∃ attached invoker, s.exchangeToken token accepted =
      { s with attached := attached, thisInterfaceInvoker := invoker } := by
  cases token with
  | none => exact Or.inl rfl
  | some token =>
    rw [exchangeToken]
    split
    · exact Or.inr ⟨_, _, rfl⟩
    · exact Or.inl rfl

@[simp] theorem exchangeToken_miscellaneous :
    (s.exchangeToken token accepted).miscellaneous = s.miscellaneous := by
  rcases exchangeToken_cases s token accepted with h | ⟨_, _, h⟩
  · rw [h]
  · rw [h]

@[simp] theorem exchangeToken_owner : (s.exchangeToken token accepted).owner = s.owner := by
  rcases exchangeToken_cases s token accepted with h | ⟨_, _, h⟩
  · rw [h]
  · rw [h]

@[simp] theorem exchangeToken_alive : (s.exchangeToken token accepted).alive = s.alive := by
  rcases exchangeToken_cases s token accepted with h | ⟨_, _, h⟩
  · rw [h]
  · rw [h]

@[simp] theorem exchangeToken_call : (s.exchangeToken token accepted).call = s.call := by
  rcases exchangeToken_cases s token accepted with h | ⟨_, _, h⟩
  · rw [h]
  · rw [h]

theorem runs_alone (s : PowerOffStrategyCalls) {r : StrategyRequest} {k : ℕ} (accepted : Bool)
    (hfree : s.call k = none) (hsystem : r.isSystem = true) :
    Runs.run step s [.exchange k r accepted, .setStrategy k] =
      some (s.setScreenPowerOffStrategyInner r accepted).1 := by
  have hback : Function.update (Function.update s.call k (some r)) k none = s.call := by
    rw [Function.update_idem, ← hfree, Function.update_eq_self]
  rw [Runs.run_cons_some]
  refine ⟨(s.exchangeToken r.token accepted).setCall k (some r), ?_, ?_⟩
  · rw [step, if_neg (not_not.mpr hfree), if_neg (by simp [hsystem])]
  · simp only [Runs.run_cons, Runs.run_nil, step, setCall, Function.update_self, Option.map_some,
      Option.bind_some, setStrategy, exchangeToken_call, hback]
    rw [setScreenPowerOffStrategyInner, if_neg (by simp [hsystem]), setStrategy,
      exchangeToken_call]

def Sound (s : PowerOffStrategyCalls) : Prop :=
  s.attached = [] ∨ ∃ token, s.thisInterfaceInvoker = some token ∧ s.attached = [token]

theorem detached_eq (h : Sound s) : s.detached = [] := by
  rw [detached]
  rcases h with hnil | ⟨token, hinvoker, hattached⟩
  · rw [hnil]
    split
    · rfl
    · rfl
  · rw [hinvoker, hattached]
    exact List.erase_cons_head token []

theorem sound_exchange (h : Sound s) (token : Option ℕ) (accepted : Bool) :
    Sound (s.exchangeToken token accepted) := by
  cases token with
  | none => exact h
  | some token =>
    rw [exchangeToken]
    split
    · cases accepted with
      | false => exact Or.inl (detached_eq h)
      | true => exact Or.inr ⟨token, rfl, by simp [detached_eq h]⟩
    · exact h

theorem sound_remoteDied (h : Sound s) (client : ℕ) : Sound (s.remoteDied client) := by
  rcases h with hnil | ⟨token, hinvoker, hattached⟩
  · exact Or.inl (by simp [remoteDied, hnil])
  · by_cases hhost : s.host token = client
    · exact Or.inl (by simp [remoteDied, hattached, hhost])
    · exact Or.inr ⟨token, hinvoker, by simp [remoteDied, hattached, hhost]⟩

theorem sound_step (h : Sound s) {e : StrategyEvent} (ht : step s e = some t) : Sound t := by
  cases e with
  | exchange k r accepted =>
    rw [step] at ht
    split at ht
    · cases ht
    · split at ht
      · cases ht
        exact h
      · cases ht
        exact sound_exchange h r.token accepted
  | setStrategy k =>
    obtain ⟨r, -, rfl⟩ := Option.map_eq_some_iff.mp ht
    exact h
  | dies client =>
    rw [step] at ht
    split at ht
    · cases ht
      exact sound_remoteDied h client
    · cases ht

theorem watched_exchange_iff (h : Sound s) :
    (s.exchangeToken token accepted).Watched client ↔ s.LeavesWatched token accepted client := by
  cases token with
  | none => exact Iff.rfl
  | some token =>
    rw [exchangeToken, LeavesWatched]
    split
    · cases accepted with
      | false => simp [Watched, detached_eq h]
      | true => simp [Watched, detached_eq h]
    · exact Iff.rfl

theorem watched_remoteDied_iff {other : ℕ} :
    (s.remoteDied client).Watched other ↔ s.Watched other ∧ other ≠ client := by
  simp only [Watched, remoteDied, List.mem_filter, decide_eq_true_eq]
  constructor
  · rintro ⟨token, ⟨hattached, hne⟩, rfl⟩
    exact ⟨⟨token, hattached, rfl⟩, hne⟩
  · rintro ⟨⟨token, hattached, rfl⟩, hne⟩
    exact ⟨token, ⟨hattached, hne⟩, rfl⟩

/-- A specific strategy outlives a client only if that was not watched. -/
theorem remoteDied_specific (h : (s.remoteDied client).miscellaneous.strategy = .specific) :
    s.miscellaneous.strategy = .specific ∧ ¬ s.Watched client := by
  have hreset (tokens : List ℕ) (m : MiscellaneousDisplayPowerStrategy)
      (hm : (tokens.foldl (fun m _ => m.setStrategy .all STATE_CHANGE_REASON_UNKNOWN) m).strategy =
        .specific) : m.strategy = .specific ∧ tokens = [] := by
    induction tokens generalizing m with
    | nil => exact ⟨hm, rfl⟩
    | cons token tokens ih => cases (ih _ hm).1
  obtain ⟨hstrategy, hnone⟩ := hreset _ _ h
  refine ⟨hstrategy, ?_⟩
  rintro ⟨token, hattached, hhost⟩
  have htold : token ∈ s.attached.filter fun token => s.host token = client :=
    List.mem_filter.mpr ⟨hattached, by simpa using hhost⟩
  rw [hnone] at htold
  cases htold

/-- Every client with a claim is alive and watched. -/
structure Secured (s : PowerOffStrategyCalls) : Prop where
  owner : s.miscellaneous.strategy = .specific → ∃ client, s.owner = some client
  claims : ∀ client, s.Claims client → s.alive client = true ∧ s.Watched client

theorem Secured.owned (h : Secured s) : Owned s := by
  intro hstrategy
  obtain ⟨client, howner⟩ := h.owner hstrategy
  exact ⟨client, howner, h.claims client (Or.inl ⟨hstrategy, howner⟩)⟩

theorem secured_start (isProxyObject : ℕ → Bool) (host : ℕ → ℕ) :
    Secured (start isProxyObject host) where
  owner hstrategy := by cases hstrategy
  claims client hclaims := by
    rcases hclaims with ⟨hstrategy, -⟩ | ⟨k, r, hcall, -⟩
    · cases hstrategy
    · cases hcall

theorem claims_setStrategy {k : ℕ} {r : StrategyRequest} (hcall : s.call k = some r)
    (h : ((s.setStrategy r).setCall k none).Claims client) : s.Claims client := by
  rcases h with ⟨hstrategy, howner⟩ | ⟨j, q, hj, hspecific, rfl⟩
  · exact Or.inr ⟨k, r, hcall, hstrategy, Option.some.inj howner⟩
  · change Function.update s.call k none j = some q at hj
    by_cases hjk : j = k
    · subst hjk
      simp at hj
    · rw [Function.update_of_ne hjk] at hj
      exact Or.inr ⟨j, q, hj, hspecific, rfl⟩

theorem secured_setStrategy {k : ℕ} (h : Secured s) (ht : step s (.setStrategy k) = some t) :
    Secured t := by
  obtain ⟨r, hcall, rfl⟩ := Option.map_eq_some_iff.mp ht
  exact ⟨fun _ => ⟨r.client, rfl⟩, fun client hclaims =>
    h.claims client (claims_setStrategy hcall hclaims)⟩

theorem claims_exchange_iff {k : ℕ} {r : StrategyRequest} (hfree : s.call k = none) :
    ((s.exchangeToken token accepted).setCall k (some r)).Claims client ↔
      s.Claims client ∨ r.strategy = .specific ∧ r.client = client := by
  rw [Claims, Claims, or_assoc]
  simp only [setCall, exchangeToken_miscellaneous, exchangeToken_owner, exchangeToken_call]
  refine or_congr_right ⟨?_, ?_⟩
  · rintro ⟨j, q, hj, hq⟩
    by_cases hjk : j = k
    · subst hjk
      rw [Function.update_self] at hj
      obtain rfl := Option.some.inj hj
      exact Or.inr hq
    · rw [Function.update_of_ne hjk] at hj
      exact Or.inl ⟨j, q, hj, hq⟩
  · rintro (⟨j, q, hj, hq⟩ | hr)
    · have hjk : j ≠ k := by
        rintro rfl
        exact absurd (hfree.symm.trans hj) (by simp)
      exact ⟨j, q, (Function.update_of_ne hjk ..).trans hj, hq⟩
    · exact ⟨k, r, Function.update_self .., hr⟩

theorem secured_exchange_iff (hsound : Sound s) (h : Secured s) {k : ℕ} {r : StrategyRequest}
    (hfree : s.call k = none) :
    Secured ((s.exchangeToken token accepted).setCall k (some r)) ↔
      (r.strategy = .specific →
        s.alive r.client = true ∧ s.LeavesWatched token accepted r.client) ∧
      ∀ client, s.Claims client → s.LeavesWatched token accepted client := by
  have halive : ((s.exchangeToken token accepted).setCall k (some r)).alive = s.alive :=
    exchangeToken_alive
  have hwatched (client : ℕ) :
      ((s.exchangeToken token accepted).setCall k (some r)).Watched client ↔
        s.LeavesWatched token accepted client := watched_exchange_iff hsound
  constructor
  · intro hafter
    constructor
    · intro hspecific
      have hclaim := hafter.claims r.client ((claims_exchange_iff hfree).mpr
        (Or.inr ⟨hspecific, rfl⟩))
      exact ⟨halive ▸ hclaim.1, (hwatched r.client).mp hclaim.2⟩
    · intro client hclaims
      have hclaim := hafter.claims client ((claims_exchange_iff hfree).mpr (Or.inl hclaims))
      exact (hwatched client).mp hclaim.2
  · rintro ⟨hrequest, hothers⟩
    constructor
    · intro hstrategy
      refine (h.owner ?_).imp fun client howner => exchangeToken_owner.trans howner
      exact (congrArg _ exchangeToken_miscellaneous.symm).trans hstrategy
    · intro client hclaims
      rw [halive, hwatched]
      rcases (claims_exchange_iff hfree).mp hclaims with hclaims | ⟨hspecific, rfl⟩
      · exact ⟨(h.claims client hclaims).1, hothers client hclaims⟩
      · exact hrequest hspecific

theorem secured_remoteDied_iff (h : Secured s) :
    Secured (s.remoteDied client) ↔
      ∀ k r, s.call k = some r → r.strategy = .specific → r.client ≠ client := by
  constructor
  · rintro hafter k r hcall hspecific rfl
    have hdead := (hafter.claims r.client (Or.inr ⟨k, r, hcall, hspecific, rfl⟩)).1
    simp [remoteDied] at hdead
  · intro hcalls
    constructor
    · intro hstrategy
      exact h.owner (remoteDied_specific hstrategy).1
    · intro other hclaims
      have hbefore : s.Claims other ∧ other ≠ client := by
        rcases hclaims with ⟨hstrategy, howner⟩ | ⟨k, r, hcall, hspecific, rfl⟩
        · obtain ⟨hbefore, hunwatched⟩ := remoteDied_specific hstrategy
          refine ⟨Or.inl ⟨hbefore, howner⟩, ?_⟩
          rintro rfl
          exact hunwatched (h.claims other (Or.inl ⟨hbefore, howner⟩)).2
        · exact ⟨Or.inr ⟨k, r, hcall, hspecific, rfl⟩, hcalls k r hcall hspecific⟩
      obtain ⟨halive, hwatched⟩ := h.claims other hbefore.1
      refine ⟨?_, watched_remoteDied_iff.mpr ⟨hwatched, hbefore.2⟩⟩
      simp [remoteDied, hbefore.2, halive]

theorem step_secured_iff (hsound : Sound s) (h : Secured s) (e : StrategyEvent) :
    s.InTurn e ↔ ∀ t, step s e = some t → Secured t := by
  cases e with
  | exchange k r accepted =>
    rw [InTurn, step]
    by_cases hfree : s.call k = none
    · rw [if_neg (not_not.mpr hfree)]
      cases hsystem : r.isSystem with
      | false => simp [h]
      | true =>
        simp only [hfree, forall_const, Bool.not_true, Bool.false_eq_true, if_false,
          Option.some.injEq, forall_eq']
        exact (secured_exchange_iff hsound h hfree).symm
    · simp [hfree]
  | setStrategy k => exact iff_of_true trivial fun t ht => secured_setStrategy h ht
  | dies client =>
    rw [InTurn, step]
    cases halive : s.alive client with
    | true =>
      rw [if_pos rfl]
      simp only [Option.some.injEq, forall_eq']
      exact (secured_remoteDied_iff h).symm
    | false =>
      refine iff_of_true ?_ (by simp)
      rintro k r hcall hspecific rfl
      have hliving := (h.claims r.client (Or.inr ⟨k, r, hcall, hspecific, rfl⟩)).1
      exact absurd (halive.symm.trans hliving) (by simp)

def IsSetStrategy (e : StrategyEvent) : Prop := ∃ k, e = .setStrategy k

/-- However the calls under way come to their ends, a specific strategy keeps a live owner exactly
if all those with a claim are alive and watched now. -/
theorem whatever_owned_iff (s : PowerOffStrategyCalls) :
    Runs.Whatever step IsSetStrategy Owned s ↔ Secured s := by
  constructor
  · intro h
    constructor
    · intro hstrategy
      obtain ⟨client, howner, -⟩ := h.now hstrategy
      exact ⟨client, howner⟩
    · rintro client (⟨hstrategy, howner⟩ | ⟨k, r, hcall, hspecific, rfl⟩)
      · obtain ⟨other, hother, hliving⟩ := h.now hstrategy
        obtain rfl := Option.some.inj (howner.symm.trans hother)
        exact hliving
      · have ht : step s (.setStrategy k) = some ((s.setStrategy r).setCall k none) := by
          rw [step, hcall, Option.map_some]
        obtain ⟨other, hother, hliving⟩ := (h.next ⟨k, rfl⟩ ht).now hspecific
        obtain rfl := Option.some.inj hother
        exact hliving
  · apply Runs.whatever_of_invariant
    · rintro s e t h ⟨k, rfl⟩ ht
      exact secured_setStrategy h ht
    · exact fun s h => h.owned

/-- In every state of a run, and in those that its calls under way may still lead to, a specific
strategy is that of a live and watched client, exactly if every step of the run is in turn. -/
theorem owned_iff_in_turn (isProxyObject : ℕ → Bool) (host : ℕ → ℕ) (es : List StrategyEvent) :
    Runs.Always step (fun s e => ∀ t, step s e = some t → Runs.Whatever step IsSetStrategy Owned t)
        (start isProxyObject host) es ↔
      Runs.Always step InTurn (start isProxyObject host) es := by
  simp only [whatever_owned_iff]
  apply Runs.always_keeps_iff (J := Sound) (P := fun _ => True)
  · exact fun s e t hsound _ ht => sound_step hsound ht
  · exact fun s e hsound h _ => step_secured_iff hsound h e
  · exact Or.inl rfl
  · exact secured_start isProxyObject host
  · exact fun _ _ => trivial

/-- A client dies between the two sections of its call. -/
theorem dead_client_in_force :
    ∃ s, Runs.run step (start (fun _ => true) id)
      [.exchange 0 { client := 1, strategy := .specific, token := some 1 } true, .dies 1,
        .setStrategy 0] = some s ∧ s.miscellaneous.strategy = .specific ∧ ¬ Owned s := by
  refine ⟨_, rfl, rfl, ?_⟩
  intro howned
  obtain ⟨client, howner, halive, -⟩ := howned rfl
  obtain rfl := Option.some.inj howner
  cases halive

end PowerOffStrategyCalls

end DisplayPowerMgr
