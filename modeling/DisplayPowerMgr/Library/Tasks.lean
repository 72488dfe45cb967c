import Mathlib.Data.List.Basic
import Mathlib.Data.List.Nodup

/-! Tasks handed to an executor that runs each of them once, in any order, unless the
handle returned for that very task was cancelled before. A handle names one submission
for ever: no later task gets it again, so cancelling an old handle is harmless. -/

/-- `pending` lists the submissions not yet run or cancelled. The two proofs say that
handles are never reused, so an executor state that confuses two tasks cannot be built. -/
structure Tasks (α : Type*) where
  next : ℕ
  pending : List (ℕ × α)
  fresh : ∀ p ∈ pending, p.1 < next
  unique : (pending.map Prod.fst).Nodup

namespace Tasks

variable {α : Type*}

def empty : Tasks α := ⟨0, [], by simp, by simp⟩

def submit (q : Tasks α) (a : α) : Tasks α where
  next := q.next + 1
  pending := q.pending ++ [(q.next, a)]
  fresh := by
    intro p hp
    rcases List.mem_append.mp hp with hp | hp
    · exact Nat.lt_succ_of_lt (q.fresh p hp)
    · simp only [List.mem_singleton] at hp
      simp [hp]
  unique := by
    rw [List.map_append, List.nodup_append]
    refine ⟨q.unique, by simp, ?_⟩
    intro i hi j hj
    obtain ⟨p, hp, rfl⟩ := List.mem_map.mp hi
    have hj : j = q.next := by simpa using hj
    exact Nat.ne_of_lt (hj ▸ q.fresh p hp)

/-- Takes the task with this handle out of the executor, to run it or because it is cancelled. -/
def remove (q : Tasks α) (id : ℕ) : Tasks α where
  next := q.next
  pending := q.pending.filter (·.1 ≠ id)
  fresh := fun p hp => q.fresh p (List.mem_filter.mp hp).1
  unique := q.unique.sublist (List.filter_sublist.map _)

def retain (q : Tasks α) (p : ℕ × α → Bool) : Tasks α where
  next := q.next
  pending := q.pending.filter p
  fresh := fun x hx => q.fresh x (List.mem_filter.mp hx).1
  unique := q.unique.sublist (List.filter_sublist.map _)

def find? (q : Tasks α) (id : ℕ) : Option α := (q.pending.find? (·.1 = id)).map Prod.snd

def isPending (q : Tasks α) (id : ℕ) : Bool := (q.find? id).isSome

@[simp] theorem empty_pending : (empty : Tasks α).pending = [] := rfl
@[simp] theorem submit_next (q : Tasks α) (a : α) : (q.submit a).next = q.next + 1 := rfl
@[simp] theorem submit_pending (q : Tasks α) (a : α) :
    (q.submit a).pending = q.pending ++ [(q.next, a)] := rfl

@[simp] theorem mem_remove {q : Tasks α} {id : ℕ} {p : ℕ × α} :
    p ∈ (q.remove id).pending ↔ p ∈ q.pending ∧ p.1 ≠ id := by
  simp [remove]

@[simp] theorem mem_retain {q : Tasks α} {p : ℕ × α → Bool} {x : ℕ × α} :
    x ∈ (q.retain p).pending ↔ x ∈ q.pending ∧ p x = true := List.mem_filter

theorem mem_unique {q : Tasks α} {id : ℕ} {a b : α} (ha : (id, a) ∈ q.pending)
    (hb : (id, b) ∈ q.pending) : a = b := by
  have h := List.inj_on_of_nodup_map q.unique ha hb rfl
  exact (Prod.mk.inj h).2

theorem find?_eq_some {q : Tasks α} {id : ℕ} {a : α} :
    q.find? id = some a ↔ (id, a) ∈ q.pending := by
  constructor
  · intro h
    obtain ⟨⟨i, b⟩, hp, rfl⟩ := Option.map_eq_some_iff.mp h
    have hi : i = id := by simpa using List.find?_some hp
    exact hi ▸ List.mem_of_find?_eq_some hp
  · intro h
    cases hf : q.pending.find? (·.1 = id) with
    | none => simpa using List.find?_eq_none.mp hf (id, a) h
    | some p =>
      obtain ⟨i, b⟩ := p
      have hi : i = id := by simpa using List.find?_some hf
      have hb : (id, b) ∈ q.pending := hi ▸ List.mem_of_find?_eq_some hf
      simp [find?, hf, mem_unique hb h]

/-- A handle was handed out for a task of kind `K`, whether that task is still pending or not. -/
def Names (q : Tasks α) (K : α → Prop) (handle : Option ℕ) : Prop :=
  ∀ id ∈ handle, id < q.next ∧ ∀ a, (id, a) ∈ q.pending → K a

theorem Names.none {q : Tasks α} {K : α → Prop} : q.Names K none := by
  intro id hid
  cases hid

theorem Names.submit {q : Tasks α} {K : α → Prop} {handle : Option ℕ} (h : q.Names K handle)
    (a : α) : (q.submit a).Names K handle := by
  intro id hid
  obtain ⟨hlt, hkind⟩ := h id hid
  refine ⟨Nat.lt_succ_of_lt hlt, ?_⟩
  intro b hb
  rcases List.mem_append.mp hb with hb | hb
  · exact hkind b hb
  · have hnext := (Prod.mk.inj (List.mem_singleton.mp hb)).1
    omega

theorem Names.submitted {q : Tasks α} {K : α → Prop} {a : α} (h : K a) :
    (q.submit a).Names K (some q.next) := by
  intro id hid
  cases hid
  refine ⟨Nat.lt_succ_self _, ?_⟩
  intro b hb
  rcases List.mem_append.mp hb with hb | hb
  · exact absurd (q.fresh _ hb) (Nat.lt_irrefl _)
  · exact (Prod.mk.inj (List.mem_singleton.mp hb)).2 ▸ h

theorem Names.remove {q : Tasks α} {K : α → Prop} {handle : Option ℕ} (h : q.Names K handle)
    (id : ℕ) : (q.remove id).Names K handle := by
  intro i hi
  obtain ⟨hlt, hkind⟩ := h i hi
  exact ⟨hlt, fun a ha => hkind a (mem_remove.mp ha).1⟩

structure Follow (K : α → Prop) (q r : Tasks α) : Prop where
  pending : ∀ id a, K a → (id, a) ∈ r.pending → (id, a) ∈ q.pending
  next : q.next ≤ r.next

theorem Follow.refl {K : α → Prop} (q : Tasks α) : Follow K q q :=
  ⟨fun _ _ _ h => h, Nat.le_refl _⟩

theorem Follow.trans {K : α → Prop} {q r u : Tasks α} (hqr : Follow K q r)
    (hru : Follow K r u) : Follow K q u := by
  refine ⟨?_, Nat.le_trans hqr.next hru.next⟩
  intro id a hK h
  exact hqr.pending id a hK (hru.pending id a hK h)

theorem Follow.submit {K : α → Prop} {q : Tasks α} {a : α} (ha : ¬ K a) :
    Follow K q (q.submit a) := by
  refine ⟨?_, Nat.le_succ _⟩
  intro id b hK h
  rcases List.mem_append.mp h with h | h
  · exact h
  · exact absurd ((Prod.mk.inj (List.mem_singleton.mp h)).2 ▸ hK) ha

theorem Follow.remove {K : α → Prop} (q : Tasks α) (id : ℕ) : Follow K q (q.remove id) :=
  ⟨fun _ _ _ h => (mem_remove.mp h).1, Nat.le_refl _⟩

theorem countP_le_one {q : Tasks α} {p : ℕ × α → Bool} (id : ℕ)
    (h : ∀ x ∈ q.pending, p x = true → x.1 = id) : q.pending.countP p ≤ 1 :=
  calc q.pending.countP p
      ≤ q.pending.countP fun x => x.1 == id :=
        List.countP_mono_left fun x hx hp => beq_iff_eq.mpr (h x hx hp)
    _ = (q.pending.map Prod.fst).count id := by rw [List.count, List.countP_map]; rfl
    _ ≤ 1 := List.nodup_iff_count_le_one.mp q.unique id

theorem remove_singleton {q : Tasks α} {id : ℕ} {a : α} (h : q.pending = [(id, a)]) :
    (q.remove id).pending = [] := by
  simp [remove, h]

theorem pending_perm {q : Tasks α} {id : ℕ} {a : α} (h : (id, a) ∈ q.pending) :
    q.pending.Perm ((id, a) :: (q.remove id).pending) := by
  obtain ⟨front, back, hsplit⟩ := List.append_of_mem h
  have hunique := q.unique
  rw [hsplit, List.map_append, List.map_cons, List.nodup_append, List.nodup_cons] at hunique
  obtain ⟨-, ⟨hback, -⟩, hfront⟩ := hunique
  have hkeepFront : front.filter (·.1 ≠ id) = front := by
    apply List.filter_eq_self.mpr
    intro p hp
    have hne := hfront p.1 (List.mem_map_of_mem hp) id (by simp)
    simpa using hne
  have hkeepBack : back.filter (·.1 ≠ id) = back := by
    apply List.filter_eq_self.mpr
    intro p hp
    have hne : p.1 ≠ id := by
      intro heq
      have hmem : p.1 ∈ back.map Prod.fst := List.mem_map_of_mem hp
      exact hback (heq ▸ hmem)
    simpa using hne
  have hremove : (q.remove id).pending = front ++ back := by
    simp only [remove, hsplit, List.filter_append, hkeepFront, List.filter_cons, hkeepBack]
    simp
  rw [hremove, hsplit]
  exact List.perm_middle

/-- The handles of the pending tasks of a kind, in an order that ends with any of them. -/
theorem exists_order {q : Tasks α} {K : α → Prop} {id : ℕ} {a : α} (ha : (id, a) ∈ q.pending)
    (hK : K a) :
    ∃ ids : List ℕ, (ids ++ [id]).Nodup ∧
      ∀ i, i ∈ ids ++ [id] ↔ ∃ b, (i, b) ∈ q.pending ∧ K b := by
  classical
  let handles := (q.pending.filter fun p => K p.2).map Prod.fst
  have hmem (i : ℕ) : i ∈ handles ↔ ∃ b, (i, b) ∈ q.pending ∧ K b := by
    simp [handles]
  have hunique : handles.Nodup := q.unique.sublist (List.filter_sublist.map _)
  have hperm : (handles.erase id ++ [id]).Perm handles := by
    apply (List.perm_append_comm).trans
    exact (List.perm_cons_erase ((hmem id).mpr ⟨a, ha, hK⟩)).symm
  refine ⟨handles.erase id, hperm.nodup_iff.mpr hunique, ?_⟩
  intro i
  rw [hperm.mem_iff]
  exact hmem i

end Tasks
