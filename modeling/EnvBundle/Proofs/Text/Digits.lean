import EnvBundle.Power
import EnvBundle.Text.Digits
import Mathlib.Data.List.Basic
import Mathlib.Data.List.TakeDrop
import Mathlib.Tactic.Ring

/-! Numbers written in decimal: what the digits are, what they say and how many there are. -/
namespace EnvBundle

theorem tenTo_eq (n : Nat) : tenTo n = 10 ^ n := rfl

theorem twoTo_eq (n : Nat) : twoTo n = 2 ^ n := rfl

namespace Text

theorem foldl_digits (base : Nat) (t : Text) (n : Nat) :
    t.foldl (fun n c => base * n + digitValue c) n = base ^ t.length * n + ofDigits base t := by
  induction t generalizing n with
  | nil => simp [ofDigits]
  | cons c t ih =>
      have front : ofDigits base (c :: t) = base ^ t.length * digitValue c + ofDigits base t := by
        rw [ofDigits, List.foldl_cons, Nat.mul_zero, Nat.zero_add, ih]
      rw [List.foldl_cons, ih, front, List.length_cons]
      ring

theorem ofDigits_append (base : Nat) (s t : Text) :
    ofDigits base (s ++ t) = base ^ t.length * ofDigits base s + ofDigits base t := by
  rw [ofDigits, List.foldl_append, foldl_digits]
  rfl

theorem ofDigits_zeros (base n : Nat) : ofDigits base (List.replicate n '0') = 0 := by
  have zero : digitValue '0' = 0 := by decide
  induction n with
  | zero => rfl
  | succ n ih =>
      rw [List.replicate_succ, ofDigits, List.foldl_cons, Nat.mul_zero, zero]
      exact ih

/-- Zeros in front say nothing. -/
theorem ofDigits_zeros_append (base n : Nat) (t : Text) :
    ofDigits base (List.replicate n '0' ++ t) = ofDigits base t := by
  rw [ofDigits_append, ofDigits_zeros, Nat.mul_zero, Nat.zero_add]

theorem isDigit_of_mem_ofNat {n : Nat} {c : Char} (member : c ∈ ofNat n) : c.isDigit = true :=
  Nat.isDigit_of_mem_toDigits (by decide) (by decide) member

theorem ofNat_ne_nil (n : Nat) : ofNat n ≠ [] := Nat.toDigits_ne_nil

theorem ofDigits_eq_ofDigitChars {t : Text} (digits : ∀ c ∈ t, c.isDigit = true) :
    ofDigits 10 t = Nat.ofDigitChars 10 t 0 := by
  have same : ∀ n, t.foldl (fun n c => 10 * n + digitValue c) n =
      t.foldl (fun n c => 10 * n + (c.toNat - '0'.toNat)) n := by
    intro n
    apply List.foldl_ext
    intro n c member
    rw [digitValue, if_pos (digits c member)]
  exact (same 0).trans Nat.ofDigitChars_eq_foldl.symm

theorem ofDigits_ofNat (n : Nat) : ofDigits 10 (ofNat n) = n := by
  rw [ofDigits_eq_ofDigitChars fun _ => isDigit_of_mem_ofNat]
  exact Nat.ofDigitChars_ten_toDigits

theorem ofNat_injective : Function.Injective ofNat := Function.LeftInverse.injective ofDigits_ofNat

theorem digitCount_pos (n : Nat) : 0 < digitCount n := Nat.length_toDigits_pos

theorem lt_tenTo_digitCount (n : Nat) : n < 10 ^ digitCount n :=
  (Nat.length_toDigits_le_iff (by decide) (digitCount_pos n)).1 (Nat.le_refl _)

theorem tenTo_digitCount_le {n : Nat} (positive : n ≠ 0) : 10 ^ (digitCount n - 1) ≤ n := by
  by_contra below
  rcases Nat.eq_zero_or_pos (digitCount n - 1) with one | more
  · rw [one, pow_zero] at below
    omega
  · have shorter := (Nat.length_toDigits_le_iff (by decide) more).2 (Nat.lt_of_not_le below)
    change digitCount n ≤ digitCount n - 1 at shorter
    omega

theorem toLower_of_isDigit {c : Char} (digit : c.isDigit = true) : c.toLower = c := by
  have bounds := Char.isDigit_iff_toNat.1 digit
  unfold Char.toLower
  rw [dif_neg]
  rintro ⟨above, _⟩
  have : 65 ≤ c.toNat := above
  simp only [Char.reduceToNat] at bounds
  omega

theorem solid_of_isDigit {c : Char} (digit : c.isDigit = true) : isBlank c = false := by
  have bounds := Char.isDigit_iff_toNat.1 digit
  simp only [Char.reduceToNat] at bounds
  rw [← Bool.not_eq_true]
  intro blank
  simp only [isBlank, Bool.or_eq_true, Bool.and_eq_true, decide_eq_true_eq, beq_iff_eq] at blank
  omega

/-- A run of digits ends where something else begins. -/
theorem digitRun_append {digits rest : Text} (all : ∀ c ∈ digits, c.isDigit = true)
    (ends : ∀ c ∈ rest.head?, c.isDigit = false) : digitRun (digits ++ rest) = (digits, rest) := by
  rw [digitRun, List.span_eq_takeWhile_dropWhile, List.takeWhile_append_of_pos all,
    List.dropWhile_append_of_pos all]
  cases rest with
  | nil => simp
  | cons c rest =>
      have stop : c.isDigit = false := ends c rfl
      simp [stop]

end Text

end EnvBundle
