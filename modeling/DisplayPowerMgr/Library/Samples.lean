import Mathlib.Data.List.Induction
import Mathlib.Order.Lattice

/-! Samples of a signal that holds its value between them: a list of times and values, oldest
first. A window of such a list forgets old samples, and a question about the signal since some
time inside the window has the same answer in the window as in the whole list. -/
namespace Samples

variable {τ α β : Type*} [LinearOrder τ] {l : List (τ × α)} {x : τ × α} {P : α → Prop} {a b h : τ}

def InOrder (l : List (τ × α)) : Prop := l.Pairwise fun x y => x.1 ≤ y.1

theorem inOrder_concat (hl : InOrder l) (hx : ∀ y ∈ l, y.1 ≤ x.1) : InOrder (l ++ [x]) :=
  List.pairwise_append.mpr ⟨hl, List.pairwise_singleton _ _, by simpa using hx⟩

/-- The sample comes into effect by `b`, and the next one has not replaced it by `a`. -/
def InEffect (l : List (τ × α)) (a b : τ) (x : τ × α) : Prop :=
  ∃ before after, l = before ++ x :: after ∧ x.1 ≤ b ∧ ∀ next ∈ after.head?, a < next.1

/-- The signal is there from `a` on, and `P` holds of all that is in effect from `a` to `b`. -/
def HeldThrough (P : α → Prop) (a b : τ) (l : List (τ × α)) : Prop :=
  (∃ x ∈ l, x.1 ≤ a) ∧ ∀ x, InEffect l a b x → P x.2

/-- Some sample taken by `a`, and every later one, satisfies `P`. -/
def Sustained (P : α → Prop) (a : τ) (l : List (τ × α)) : Prop :=
  ∃ before x after, l = before ++ x :: after ∧ x.1 ≤ a ∧ ∀ y ∈ x :: after, P y.2

@[simp] theorem not_sustained_nil : ¬ Sustained P a ([] : List (τ × α)) := by
  rintro ⟨before, x, after, heq, _⟩
  simp at heq

theorem Sustained.mono {Q : α → Prop} (hPQ : ∀ v, P v → Q v) (h : Sustained P a l) :
    Sustained Q a l := by
  obtain ⟨before, x, after, heq, hx, hall⟩ := h
  exact ⟨before, x, after, heq, hx, fun y hy => hPQ _ (hall y hy)⟩

theorem sustained_cons : Sustained P a (x :: l) ↔
    (x.1 ≤ a ∧ ∀ y ∈ x :: l, P y.2) ∨ Sustained P a l := by
  constructor
  · rintro ⟨before, y, after, heq, hy, hall⟩
    cases before with
    | nil =>
      obtain ⟨rfl, rfl⟩ := List.cons.inj heq
      exact .inl ⟨hy, hall⟩
    | cons z before =>
      obtain ⟨rfl, rfl⟩ := List.cons.inj heq
      exact .inr ⟨before, y, after, rfl, hy, hall⟩
  · rintro (⟨hx, hall⟩ | ⟨before, y, after, rfl, hy, hall⟩)
    · exact ⟨[], x, l, rfl, hx, hall⟩
    · exact ⟨x :: before, y, after, rfl, hy, hall⟩

theorem sustained_concat : Sustained P a (l ++ [x]) ↔ P x.2 ∧ (x.1 ≤ a ∨ Sustained P a l) := by
  induction l with
  | nil => simp [sustained_cons, and_comm]
  | cons y l ih =>
    simp only [List.cons_append, sustained_cons, ih, List.mem_cons, List.mem_append,
      List.not_mem_nil, or_false]
    constructor
    · rintro (⟨hy, hall⟩ | ⟨hP, hor⟩)
      · exact ⟨hall x (by simp), .inr (.inl ⟨hy, fun z hz => hall z (by tauto)⟩)⟩
      · exact ⟨hP, hor.imp_right .inr⟩
    · rintro ⟨hP, hx | ⟨hy, hall⟩ | hl⟩
      · exact .inr ⟨hP, .inl hx⟩
      · refine .inl ⟨hy, ?_⟩
        rintro z (rfl | hz | rfl)
        · exact hall z (.inl rfl)
        · exact hall z (.inr hz)
        · exact hP
      · exact .inr ⟨hP, .inr hl⟩

theorem inEffect_last (hx : x.1 ≤ b) : InEffect (l ++ [x]) a b x := ⟨l, [], rfl, hx, by simp⟩

theorem InEffect.concat {y : τ × α} (hy : InEffect l a b y) (hx : a < x.1) :
    InEffect (l ++ [x]) a b y := by
  obtain ⟨before, after, rfl, hyb, hnext⟩ := hy
  refine ⟨before, after ++ [x], by simp, hyb, ?_⟩
  cases after with
  | nil => simpa using hx
  | cons z after => simpa using hnext

theorem inEffect_concat_cases {y : τ × α} (hl : InOrder (l ++ [x]))
    (hy : InEffect (l ++ [x]) a b y) : y = x ∨ (a < x.1 ∧ InEffect l a b y) := by
  obtain ⟨before, after, heq, hyb, hnext⟩ := hy
  rcases List.eq_nil_or_concat after with rfl | ⟨rest, z, rfl⟩
  · exact .inl (List.append_inj_right' heq rfl |> List.cons.inj |>.1).symm
  · rw [List.concat_eq_append, ← List.cons_append, ← List.append_assoc] at heq
    obtain ⟨hl', hz⟩ := List.append_inj' heq rfl
    obtain rfl := (List.cons.inj hz).1
    rw [List.concat_eq_append] at hnext
    refine .inr ⟨?_, before, rest, hl', hyb, ?_⟩
    · cases rest with
      | nil => simpa using hnext
      | cons w rest =>
        have hw : w.1 ≤ x.1 := by
          rw [hl'] at hl
          exact (List.pairwise_append.mp hl).2.2 w (by simp) x (by simp)
        exact lt_of_lt_of_le (hnext w (by simp)) hw
    · cases rest with
      | nil => simp
      | cons w rest => simpa using hnext

/-- The signal holds `P` through the time from `a` to the last sample if and only if it was
sampled by `a` and all samples since then satisfy `P`. -/
theorem heldThrough_iff_sustained (hl : InOrder l) (hb : ∀ x ∈ l, x.1 ≤ b) :
    HeldThrough P a b l ↔ Sustained P a l := by
  induction l using List.reverseRecOn with
  | nil => simp [HeldThrough]
  | append_singleton l x ih =>
    have hxb : x.1 ≤ b := hb x (by simp)
    have ih := ih (List.pairwise_append.mp hl).1 fun y hy => hb y (by simp [hy])
    rw [sustained_concat, ← ih]
    constructor
    · rintro ⟨⟨y, hy, hya⟩, hall⟩
      refine ⟨hall x (inEffect_last hxb), ?_⟩
      rcases le_or_gt x.1 a with hxa | hax
      · exact .inl hxa
      · refine .inr ⟨⟨y, ?_, hya⟩, fun z hz => hall z (hz.concat hax)⟩
        rcases List.mem_append.mp hy with hy | hy
        · exact hy
        · obtain rfl := List.mem_singleton.mp hy
          exact absurd hya (not_le_of_gt hax)
    · rintro ⟨hP, hor⟩
      constructor
      · rcases hor with hxa | ⟨⟨y, hy, hya⟩, _⟩
        · exact ⟨x, by simp, hxa⟩
        · exact ⟨y, by simp [hy], hya⟩
      · intro y hy
        rcases inEffect_concat_cases hl hy with rfl | ⟨hax, hy⟩
        · exact hP
        · rcases hor with hxa | ⟨_, hall⟩
          · exact absurd hxa (not_le_of_gt hax)
          · exact hall y hy

/-- The time of the earliest sample of the unbroken row of samples that satisfy `P`, newest
first; `t` if there is none. -/
def earliest (P : α → Bool) (t : τ) : List (τ × α) → τ
  | [] => t
  | x :: older => if P x.2 then earliest P x.1 older else t

theorem earliest_le {P : α → Bool} {t u : τ} (hu : u ≤ t) (ht : ∀ x ∈ l, x.1 ≤ t) :
    earliest P u l ≤ t := by
  induction l generalizing u with
  | nil => exact hu
  | cons x older ih =>
    rw [earliest]
    split
    · exact ih (ht x (by simp)) fun y hy => ht y (by simp [hy])
    · exact hu

theorem earliest_le_iff {P : α → Bool} {t : τ} (hl : InOrder l) (ht : ∀ x ∈ l, x.1 ≤ t) :
    earliest P t l.reverse ≤ a ↔ t ≤ a ∨ Sustained (fun v => P v = true) a l := by
  induction l using List.reverseRecOn generalizing t with
  | nil => simp [earliest]
  | append_singleton l x ih =>
    have hx : x.1 ≤ t := ht x (by simp)
    obtain ⟨hl', _, hbefore⟩ := List.pairwise_append.mp hl
    have ih := ih hl' fun y hy => hbefore y hy x (by simp)
    rw [List.reverse_append, List.reverse_singleton, List.singleton_append, earliest,
      sustained_concat]
    split
    · rw [ih]
      constructor
      · exact fun hor => .inr ⟨‹_›, hor⟩
      · rintro (hta | ⟨_, hor⟩)
        · exact .inl (le_trans hx hta)
        · exact hor
    · simp [*]

/-- The front goes while the second sample is not after the horizon. -/
def dropBefore (h : τ) : List (τ × α) → List (τ × α)
  | x :: y :: rest => if y.1 ≤ h then dropBefore h (y :: rest) else x :: y :: rest
  | short => short

def raiseFront (h : τ) : List (τ × α) → List (τ × α)
  | [] => []
  | x :: rest => (max x.1 h, x.2) :: rest

/-- The signal from the horizon on. -/
def prune (h : τ) (l : List (τ × α)) : List (τ × α) := raiseFront h (dropBefore h l)

theorem dropBefore_suffix (h : τ) (l : List (τ × α)) : dropBefore h l <:+ l := by
  induction l using dropBefore.induct h with
  | case1 x y rest hy ih =>
    rw [dropBefore, if_pos hy]
    exact ih.trans (List.suffix_cons _ _)
  | case2 x y rest hy => exact ⟨[], by simp [dropBefore, hy]⟩
  | case3 short hshort => exact ⟨[], by rw [dropBefore.eq_2 h short hshort, List.nil_append]⟩

theorem dropBefore_eq_nil_iff (h : τ) (l : List (τ × α)) : dropBefore h l = [] ↔ l = [] := by
  induction l using dropBefore.induct h with
  | case1 x y rest hy ih => simp [dropBefore, hy, ih]
  | case2 x y rest hy => simp [dropBefore, hy]
  | case3 short hshort => rw [dropBefore.eq_2 h short hshort]

@[simp] theorem raiseFront_map_snd (h : τ) (l : List (τ × α)) :
    (raiseFront h l).map Prod.snd = l.map Prod.snd := by
  cases l <;> rfl

theorem prune_map_snd_suffix (h : τ) (l : List (τ × α)) :
    (prune h l).map Prod.snd <:+ l.map Prod.snd := by
  rw [prune, raiseFront_map_snd]
  exact (dropBefore_suffix h l).map _

theorem prune_eq_nil_iff (h : τ) (l : List (τ × α)) : prune h l = [] ↔ l = [] := by
  rw [← dropBefore_eq_nil_iff h l, prune]
  cases dropBefore h l <;> simp [raiseFront]

theorem prune_eq_self (hall : ∀ x ∈ l, h < x.1) : prune h l = l := by
  rw [prune]
  rcases l with _ | ⟨x, _ | ⟨y, rest⟩⟩
  · rfl
  · simp [dropBefore, raiseFront, (hall x (by simp)).le]
  · have hy : ¬ y.1 ≤ h := not_le_of_gt (hall y (by simp))
    simp [dropBefore, raiseFront, hy, (hall x (by simp)).le]

theorem length_prune_le (h : τ) (l : List (τ × α)) : (prune h l).length ≤ l.length := by
  have := (prune_map_snd_suffix h l).length_le
  simpa using this

theorem prune_map (f : α → β) (h : τ) (l : List (τ × α)) :
    prune h (l.map fun x => (x.1, f x.2)) = (prune h l).map fun x => (x.1, f x.2) := by
  have hdrop : dropBefore h (l.map fun x => (x.1, f x.2)) =
      (dropBefore h l).map fun x => (x.1, f x.2) := by
    induction l using dropBefore.induct h with
    | case1 x y rest hy ih =>
      simp only [List.map_cons] at ih
      simp [dropBefore, hy, ih]
    | case2 x y rest hy => simp [dropBefore, hy]
    | case3 short hshort =>
      rcases short with _ | ⟨x, _ | ⟨y, rest⟩⟩
      · rfl
      · rfl
      · exact absurd rfl (hshort x y rest)
  rw [prune, hdrop, prune]
  cases dropBefore h l <;> rfl

theorem prune_times_congr {l' : List (τ × β)} (heq : l.map Prod.fst = l'.map Prod.fst) (h : τ) :
    (prune h l).map Prod.fst = (prune h l').map Prod.fst := by
  have hpairs : (l.map fun x => (x.1, ())) = l'.map fun x => (x.1, ()) := by
    have := congrArg (List.map fun t => (t, ())) heq
    simpa [List.map_map, Function.comp_def] using this
  have hpruned := congrArg (prune h) hpairs
  rw [prune_map fun _ => (), prune_map fun _ => ()] at hpruned
  simpa [List.map_map, Function.comp_def] using congrArg (List.map Prod.fst) hpruned

/-- After the front is dropped, what follows the new front is younger than the horizon. -/
theorem dropBefore_cases (hl : InOrder l) : ∀ x rest, dropBefore h l = x :: rest →
    ∀ y ∈ rest, h < y.1 := by
  induction l using dropBefore.induct h with
  | case1 x y rest hy ih =>
    rw [dropBefore, if_pos hy]
    exact ih (List.pairwise_cons.mp hl).2
  | case2 x y rest hy =>
    intro x' rest' heq z hz
    rw [dropBefore, if_neg hy] at heq
    obtain ⟨rfl, rfl⟩ := List.cons.inj heq
    obtain ⟨_, htail⟩ := List.pairwise_cons.mp hl
    rcases List.mem_cons.mp hz with rfl | hz
    · exact lt_of_not_ge hy
    · exact lt_of_lt_of_le (lt_of_not_ge hy) ((List.pairwise_cons.mp htail).1 z hz)
  | case3 short hshort =>
    intro x' rest' heq z hz
    rw [dropBefore.eq_2 h short hshort] at heq
    rcases rest' with _ | ⟨w, rest'⟩
    · simp at hz
    · exact absurd heq (hshort x' w rest')

theorem inOrder_prune (hl : InOrder l) : InOrder (prune h l) := by
  have hdrop := dropBefore_cases (h := h) hl
  have hin : InOrder (dropBefore h l) := hl.sublist (dropBefore_suffix h l).sublist
  rw [prune]
  cases hd : dropBefore h l with
  | nil => exact List.Pairwise.nil
  | cons x rest =>
    rw [hd] at hin
    obtain ⟨hx, hrest⟩ := List.pairwise_cons.mp hin
    refine List.pairwise_cons.mpr ⟨?_, hrest⟩
    intro y hy
    exact max_le (hx y hy) (hdrop x rest hd y hy).le

theorem le_of_mem_prune (hl : InOrder l) : ∀ x ∈ prune h l, h ≤ x.1 := by
  have hdrop := dropBefore_cases (h := h) hl
  intro y hy
  rw [prune] at hy
  cases hd : dropBefore h l with
  | nil => simp [hd, raiseFront] at hy
  | cons x rest =>
    rw [hd, raiseFront] at hy
    rcases List.mem_cons.mp hy with rfl | hy
    · exact le_max_right ..
    · exact (hdrop x rest hd y hy).le

theorem prune_le {c : τ} (hc : ∀ x ∈ l, x.1 ≤ c) (hh : h ≤ c) : ∀ x ∈ prune h l, x.1 ≤ c := by
  intro y hy
  rw [prune] at hy
  have hsuffix := dropBefore_suffix h l
  cases hd : dropBefore h l with
  | nil => simp [hd, raiseFront] at hy
  | cons x rest =>
    rw [hd] at hsuffix
    rw [hd, raiseFront] at hy
    rcases List.mem_cons.mp hy with rfl | hy
    · exact max_le (hc x (hsuffix.mem (by simp))) hh
    · exact hc y (hsuffix.mem (by simp [hy]))

theorem sustained_prune (ha : h ≤ a) : Sustained P a (prune h l) ↔ Sustained P a l := by
  have hraise : ∀ l : List (τ × α), Sustained P a (raiseFront h l) ↔ Sustained P a l := by
    intro l
    cases l with
    | nil => rfl
    | cons x rest => simp [raiseFront, sustained_cons, ha]
  rw [prune, hraise]
  induction l using dropBefore.induct h with
  | case1 x y rest hy ih =>
    rw [dropBefore, if_pos hy, sustained_cons]
    refine Iff.trans ih ⟨.inr, ?_⟩
    rintro (⟨_, hall⟩ | hrest)
    · exact sustained_cons.mpr (.inl ⟨le_trans hy ha, fun z hz => hall z (by simp [hz])⟩)
    · exact hrest
  | case2 x y rest hy => rw [dropBefore, if_neg hy]
  | case3 short hshort => rw [dropBefore.eq_2 h short hshort]

/-- `window` answers every question about the signal since the horizon as `history` does. -/
def Agree (h : τ) (history window : List (τ × α)) : Prop :=
  ∀ (P : α → Prop) (a : τ), h ≤ a → (Sustained P a history ↔ Sustained P a window)

theorem Agree.prune {history window : List (τ × α)} (hagree : Agree h history window) {h' : τ}
    (hle : h ≤ h') : Agree h' history (prune h' window) := by
  intro P a ha
  rw [sustained_prune ha]
  exact hagree P a (le_trans hle ha)

theorem Agree.concat {history window : List (τ × α)} (hagree : Agree h history window)
    (x : τ × α) : Agree h (history ++ [x]) (window ++ [x]) := by
  intro P a ha
  rw [sustained_concat, sustained_concat, hagree P a ha]

/-- A sample that repeats the newest value of the window need not enter it. -/
theorem Agree.repeat {history window : List (τ × α)} {u : τ} {v : α}
    (hagree : Agree h history (window ++ [(u, v)])) (hx : u ≤ x.1) (hv : x.2 = v) :
    Agree h (history ++ [x]) (window ++ [(u, v)]) := by
  intro P a ha
  rw [sustained_concat, hagree P a ha, sustained_concat, hv]
  constructor
  · rintro ⟨hP, hxa | ⟨_, hor⟩⟩
    · exact ⟨hP, .inl (le_trans hx hxa)⟩
    · exact ⟨hP, hor⟩
  · exact fun hboth => ⟨hboth.1, .inr hboth⟩

end Samples
