import Mathlib.Data.List.Basic
import Mathlib.Tactic.TypeStar

/-! Tables of keys and values that a loop over records fills: an assignment replaces what is there
under a key, an insertion keeps it. So the last record that names a key decides, or the first. -/
namespace Tables

variable {κ α β : Type*} [DecidableEq κ]

def assign (t : List (κ × β)) (k : κ) (v : β) : List (κ × β) :=
  (k, v) :: t.filter fun entry => entry.1 ≠ k

def insert (t : List (κ × β)) (k : κ) (v : β) : List (κ × β) :=
  if (t.lookup k).isSome then t else (k, v) :: t

/-- What a record of the loop says about a key. -/
def valueFor (entry : α → Option (κ × β)) (k : κ) (a : α) : Option β :=
  match entry a with
  | none => none
  | some (key, v) => if k = key then some v else none

def assignAll (entry : α → Option (κ × β)) (t : List (κ × β)) (records : List α) :
    List (κ × β) :=
  records.foldl (fun t a =>
    match entry a with
    | none => t
    | some (k, v) => assign t k v) t

def insertAll (entry : α → Option (κ × β)) (t : List (κ × β)) (records : List α) :
    List (κ × β) :=
  records.foldl (fun t a =>
    match entry a with
    | none => t
    | some (k, v) => insert t k v) t

theorem lookup_filter_ne {t : List (κ × β)} {k key : κ} (h : key ≠ k) :
    (t.filter fun entry => entry.1 ≠ k).lookup key = t.lookup key := by
  induction t with
  | nil => rfl
  | cons entry t ih =>
    obtain ⟨k', v⟩ := entry
    by_cases hk : k' = k
    · subst hk
      have hne : (key == k') = false := beq_false_of_ne h
      rw [List.filter_cons_of_neg (by simp), ih, List.lookup_cons, hne]
    · rw [List.filter_cons_of_pos (by simpa using hk), List.lookup_cons, List.lookup_cons, ih]

theorem lookup_assign (t : List (κ × β)) (k key : κ) (v : β) :
    (assign t k v).lookup key = if key = k then some v else t.lookup key := by
  rw [assign]
  by_cases h : key = k
  · subst h
    rw [List.lookup_cons_self, if_pos rfl]
  · have hne : (key == k) = false := beq_false_of_ne h
    rw [List.lookup_cons, hne, if_neg h]
    exact lookup_filter_ne h

theorem lookup_assignAll (entry : α → Option (κ × β)) (k : κ) (records : List α) :
    ∀ t : List (κ × β), (assignAll entry t records).lookup k =
      (records.reverse.findSome? (valueFor entry k)).or (t.lookup k) := by
  induction records with
  | nil => intro t; rfl
  | cons a records ih =>
    intro t
    have hnext := ih (assignAll entry t [a])
    have hone : (assignAll entry t [a]).lookup k = (valueFor entry k a).or (t.lookup k) := by
      rw [assignAll, List.foldl_cons, List.foldl_nil, valueFor]
      cases entry a with
      | none => rfl
      | some named =>
        rw [lookup_assign]
        by_cases hk : k = named.1
        · simp [hk]
        · simp [hk]
    rw [hone] at hnext
    rw [List.reverse_cons, List.findSome?_append, List.findSome?_singleton, Option.or_assoc]
    exact hnext

theorem lookup_assignAll_map {entry : α → Option (κ × β)} {write : κ × β → α} {table : List (κ × β)}
    (hread : ∀ p ∈ table, entry (write p) = some p) (hkeys : (table.map Prod.fst).Nodup) (k : κ) :
    ∀ t : List (κ × β),
      (assignAll entry t (table.map write)).lookup k = (table.lookup k).or (t.lookup k) := by
  induction table with
  | nil => intro t; rfl
  | cons p table ih =>
    intro t
    obtain ⟨key, v⟩ := p
    obtain ⟨hnew, hrest⟩ := List.nodup_cons.mp hkeys
    have hone : assignAll entry t ((⟨key, v⟩ :: table).map write) =
        assignAll entry (assign t key v) (table.map write) := by
      rw [assignAll, assignAll, List.map_cons, List.foldl_cons,
        hread ⟨key, v⟩ List.mem_cons_self]
    rw [hone, ih (fun p hp => hread p (List.mem_cons_of_mem _ hp)) hrest, lookup_assign]
    by_cases hk : k = key
    · subst hk
      have hnone : table.lookup k = none := by
        rw [List.lookup_eq_none_iff]
        intro p hp
        have hne : k ≠ p.1 := fun h => hnew (List.mem_map.mpr ⟨p, hp, h.symm⟩)
        exact bne_iff_ne.mpr hne
      rw [hnone, if_pos rfl, List.lookup_cons_self]
      rfl
    · have hne : (k == key) = false := beq_false_of_ne hk
      rw [if_neg hk, List.lookup_cons, hne]

end Tables
