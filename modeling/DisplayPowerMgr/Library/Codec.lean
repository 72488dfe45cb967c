import Mathlib.Data.List.TakeDrop

/-! Values written behind each other into a stream and read from its front. -/

/-- A kind of value in a stream of units. What was written is read back, whatever stands behind
it, and no value is read from what was cut off within it. -/
structure Codec (β α : Type*) where
  encode : α → List β
  decode : List β → Option (α × List β)
  decode_encode : ∀ a rest, decode (encode a ++ rest) = some (a, rest)
  decode_cut : ∀ a n, n < (encode a).length → decode ((encode a).take n) = none

namespace Codec

variable {β α γ : Type*}

theorem decode_whole (c : Codec β α) (a : α) : c.decode (c.encode a) = some (a, []) := by
  have h := c.decode_encode a []
  rwa [List.append_nil] at h

/-- Cut off somewhere, a value with more behind it is not read, or it is read and the cut is in
what stands behind it. -/
theorem decode_take (c : Codec β α) (a : α) {more : List β} {n : ℕ}
    (hn : n < (c.encode a ++ more).length) :
    (n < (c.encode a).length ∧ c.decode ((c.encode a ++ more).take n) = none) ∨
      ∃ k < more.length, n = (c.encode a).length + k ∧
        c.decode ((c.encode a ++ more).take n) = some (a, more.take k) := by
  rw [List.length_append] at hn
  rcases Nat.lt_or_ge n (c.encode a).length with hfirst | hfirst
  · left
    refine ⟨hfirst, ?_⟩
    rw [List.take_append_of_le_length (Nat.le_of_lt hfirst)]
    exact c.decode_cut a n hfirst
  · right
    obtain ⟨k, rfl⟩ := Nat.exists_eq_add_of_le hfirst
    refine ⟨k, by omega, rfl, ?_⟩
    rw [List.take_length_add_append, c.decode_encode]

def pair (c : Codec β α) (d : Codec β γ) : Codec β (α × γ) where
  encode p := c.encode p.1 ++ d.encode p.2
  decode data := (c.decode data).bind fun p => (d.decode p.2).map fun q => ((p.1, q.1), q.2)
  decode_encode := by
    rintro ⟨a, b⟩ rest
    rw [List.append_assoc, c.decode_encode, Option.bind_some, d.decode_encode]
    rfl
  decode_cut := by
    rintro ⟨a, b⟩ n hn
    rcases c.decode_take a hn with ⟨-, hnone⟩ | ⟨k, hk, -, hsome⟩
    · rw [hnone]
      rfl
    · rw [hsome, Option.bind_some, d.decode_cut b k hk]
      rfl

theorem decode_pair_bind (c : Codec β α) (d : Codec β γ) (data : List β) {δ : Type*}
    (next : (α × γ) × List β → Option δ) :
    ((c.pair d).decode data).bind next =
      (c.decode data).bind fun p => (d.decode p.2).bind fun q => next ((p.1, q.1), q.2) := by
  simp only [pair, Option.bind_assoc, Option.bind_map, Function.comp_def]

/-- A value in the place of another one that stands for it. -/
def via (c : Codec β α) (f : γ → α) (g : α → Option γ) (h : ∀ x, g (f x) = some x) :
    Codec β γ where
  encode x := c.encode (f x)
  decode data := (c.decode data).bind fun p => (g p.1).map fun x => (x, p.2)
  decode_encode := by
    intro x rest
    rw [c.decode_encode, Option.bind_some, h]
    rfl
  decode_cut := by
    intro x n hn
    rw [c.decode_cut (f x) n hn]
    rfl

def unit (β : Type*) : Codec β β where
  encode b := [b]
  decode
    | [] => none
    | b :: rest => some (b, rest)
  decode_encode _ _ := rfl
  decode_cut := by
    intro b n hn
    have hn : n = 0 := by simpa using hn
    subst hn
    rfl

def decodeMany (c : Codec β α) : ℕ → List β → Option (List α × List β)
  | 0, data => some ([], data)
  | n + 1, data => (c.decode data).bind fun p =>
      (c.decodeMany n p.2).map fun q => (p.1 :: q.1, q.2)

theorem decodeMany_encode (c : Codec β α) (as : List α) (rest : List β) :
    c.decodeMany as.length (as.flatMap c.encode ++ rest) = some (as, rest) := by
  induction as with
  | nil => rfl
  | cons a as ih =>
    rw [List.flatMap_cons, List.append_assoc, List.length_cons, decodeMany, c.decode_encode,
      Option.bind_some, ih]
    rfl

theorem decodeMany_cut (c : Codec β α) (as : List α) (n : ℕ)
    (hn : n < (as.flatMap c.encode).length) :
    c.decodeMany as.length ((as.flatMap c.encode).take n) = none := by
  induction as generalizing n with
  | nil => simp at hn
  | cons a as ih =>
    rw [List.flatMap_cons] at hn ⊢
    rw [List.length_cons, decodeMany]
    rcases c.decode_take a hn with ⟨-, hnone⟩ | ⟨k, hk, -, hsome⟩
    · rw [hnone]
      rfl
    · rw [hsome, Option.bind_some, ih k hk]
      rfl

def counted (count : Codec β ℕ) (c : Codec β α) : Codec β (List α) where
  encode as := count.encode as.length ++ as.flatMap c.encode
  decode data := (count.decode data).bind fun p => c.decodeMany p.1 p.2
  decode_encode := by
    intro as rest
    rw [List.append_assoc, count.decode_encode, Option.bind_some, c.decodeMany_encode]
  decode_cut := by
    intro as n hn
    rcases count.decode_take as.length hn with ⟨-, hnone⟩ | ⟨k, hk, -, hsome⟩
    · rw [hnone]
      rfl
    · rw [hsome, Option.bind_some, c.decodeMany_cut as k hk]

end Codec
