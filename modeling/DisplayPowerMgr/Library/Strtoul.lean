import Mathlib.Data.List.TakeWhile
import Mathlib.Data.Nat.Notation

/-! The number in front of a text, as C's `strtoul` reads it in base 10. -/
namespace Strtoul

/-- The blanks of the "C" locale. -/
def isspace (c : Char) : Bool := c = ' ' || ('\t' ≤ c && c ≤ '\r')

def sign : List Char → Bool × List Char
  | '+' :: text => (false, text)
  | '-' :: text => (true, text)
  | text => (false, text)

def number (digits : List Char) : ℕ :=
  digits.foldl (fun n c => 10 * n + (c.toNat - '0'.toNat)) 0

/-- The value and the text where reading stopped. Without a digit nothing is consumed, a number
that does not fit saturates, and a minus negates in the unsigned type. -/
def strtoul (ULONG_MAX : ℕ) (text : List Char) : ℕ × List Char :=
  let (negative, subject) := sign (text.dropWhile isspace)
  let digits := subject.takeWhile Char.isDigit
  if digits = [] then (0, text)
  else if number digits > ULONG_MAX then (ULONG_MAX, subject.dropWhile Char.isDigit)
  else if negative then
    ((ULONG_MAX + 1 - number digits) % (ULONG_MAX + 1), subject.dropWhile Char.isDigit)
  else (number digits, subject.dropWhile Char.isDigit)

def Numeral (text : List Char) : Prop := text ≠ [] ∧ ∀ c ∈ text, c.isDigit = true

theorem not_isspace_of_isDigit {c : Char} (h : c.isDigit = true) : isspace c = false := by
  simp only [Char.isDigit, Bool.and_eq_true, decide_eq_true_eq] at h
  obtain ⟨hlow, _⟩ := h
  have hcode : 48 ≤ c.toNat := hlow
  simp only [isspace, Bool.or_eq_false_iff, Bool.and_eq_false_iff, decide_eq_false_iff_not]
  refine ⟨?_, Or.inr ?_⟩
  · rintro rfl
    exact absurd hcode (by decide)
  · intro hle
    have hthirteen : c.toNat ≤ 13 := hle
    omega

theorem sign_of_isDigit {c : Char} (h : c.isDigit = true) (text : List Char) :
    sign (c :: text) = (false, c :: text) := by
  rw [sign.eq_def]
  split
  · rename_i heq
    obtain ⟨rfl, _⟩ := List.cons.inj heq
    exact absurd h (by decide)
  · rename_i heq
    obtain ⟨rfl, _⟩ := List.cons.inj heq
    exact absurd h (by decide)
  · rfl

theorem strtoul_numeral {ULONG_MAX : ℕ} {text : List Char} (h : Numeral text)
    (hfits : number text ≤ ULONG_MAX) : strtoul ULONG_MAX text = (number text, []) := by
  obtain ⟨hne, hdigits⟩ := h
  have htake : text.takeWhile Char.isDigit = text := List.takeWhile_eq_self_iff.mpr hdigits
  have hdrop : text.dropWhile Char.isDigit = [] := List.dropWhile_eq_nil_iff.mpr hdigits
  have hsign : sign (text.dropWhile isspace) = (false, text) := by
    cases text with
    | nil => exact absurd rfl hne
    | cons c text =>
      have hdigit := hdigits c List.mem_cons_self
      rw [List.dropWhile_cons_of_neg (by simp [not_isspace_of_isDigit hdigit])]
      exact sign_of_isDigit hdigit text
  simp only [strtoul, hsign, htake, hdrop]
  rw [if_neg hne, if_neg (by omega), if_neg (by simp)]

end Strtoul
