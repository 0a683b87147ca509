import EnvBundle.Binary64
import Mathlib.Algebra.Order.Field.Basic
import Mathlib.Algebra.Order.Field.Rat
import Mathlib.Data.Rat.Cast.Order
import Mathlib.Tactic.Linarith
import Mathlib.Tactic.NormNum
import Mathlib.Tactic.SplitIfs

/-!
Rounding of a fraction to a whole number, by what it comes to: the nearest whole number, a half to
the even one. There is only one such number, and a larger fraction has none that is smaller.
-/
namespace EnvBundle.Binary64

/-- The whole number that is at most a half away, and even if it is a half away. -/
structure NearestEven (x : ℚ) (n : Nat) : Prop where
  near : |x - n| ≤ 1 / 2
  tie : |x - n| = 1 / 2 → n % 2 = 0

/-- If the larger fraction were rounded to a smaller number, both would lie half way between two
neighbours, and both of these would be even. -/
theorem NearestEven.mono {x y : ℚ} {m n : Nat} (nearest : NearestEven x m)
    (nearest' : NearestEven y n) (le : x ≤ y) : m ≤ n := by
  by_contra beyond
  have next : (n : ℚ) + 1 ≤ m := by exact_mod_cast Nat.lt_of_not_le beyond
  have above := (abs_le.1 nearest.near).1
  have below := (abs_le.1 nearest'.near).2
  have half : x - m = -(1 / 2) := by linarith
  have half' : y - n = 1 / 2 := by linarith
  have neighbours : (m : ℚ) = n + 1 := by linarith
  have even := nearest.tie (by rw [half]; norm_num)
  have even' := nearest'.tie (by rw [half']; norm_num)
  have neighbours : m = n + 1 := by exact_mod_cast neighbours
  omega

theorem NearestEven.unique {x : ℚ} {m n : Nat} (nearest : NearestEven x m)
    (nearest' : NearestEven x n) : m = n :=
  Nat.le_antisymm (nearest.mono nearest' le_rfl) (nearest'.mono nearest le_rfl)

theorem nearestEven_of_lt {x : ℚ} {n : Nat} (above : (n : ℚ) < x + 1 / 2) (below : x < n + 1 / 2) :
    NearestEven x n := by
  have near : |x - n| < 1 / 2 := by
    rw [abs_lt]
    constructor <;> linarith
  exact ⟨near.le, fun half => absurd half near.ne⟩

theorem nearestEven_of_half {x : ℚ} {n : Nat} (half : x = n + 1 / 2 ∨ x + 1 / 2 = n)
    (even : n % 2 = 0) : NearestEven x n := by
  refine ⟨?_, fun _ => even⟩
  rw [abs_le]
  rcases half with half | half <;> constructor <;> linarith

theorem nearestEven_natCast (n : Nat) : NearestEven n n := by
  apply nearestEven_of_lt <;> linarith

/-- A half is rounded to zero, and nothing above it. -/
theorem NearestEven.pos_iff {x : ℚ} {n : Nat} (nearest : NearestEven x n) (least : 0 ≤ x) :
    0 < n ↔ 1 / 2 < x := by
  constructor
  · intro positive
    by_contra low
    have zero : NearestEven x 0 := by
      refine ⟨?_, fun _ => rfl⟩
      rw [Nat.cast_zero, sub_zero, abs_of_nonneg least]
      exact not_lt.1 low
    exact positive.ne' (nearest.unique zero)
  · intro more
    rw [Nat.pos_iff_ne_zero]
    rintro rfl
    have near := (abs_le.1 nearest.near).2
    rw [Nat.cast_zero, sub_zero] at near
    linarith

theorem nearestEven_roundDiv (num : Nat) {den : Nat} (positive : 0 < den) :
    NearestEven (num / den) (roundDiv num den) := by
  have positive' : (0 : ℚ) < den := Nat.cast_pos.2 positive
  have whole : (num : ℚ) / den = (num / den : Nat) + (num % den : Nat) / den := by
    rw [div_eq_iff positive'.ne', add_mul, div_mul_cancel₀ _ positive'.ne']
    exact_mod_cast (Nat.div_add_mod' num den).symm
  have least : (0 : ℚ) ≤ (num % den : Nat) / den :=
    div_nonneg (Nat.cast_nonneg _) positive'.le
  have most : ((num % den : Nat) : ℚ) / den < 1 := by
    rw [div_lt_one positive']
    exact_mod_cast Nat.mod_lt num positive
  have less_iff : 2 * (num % den) < den ↔ ((num % den : Nat) : ℚ) / den < 1 / 2 := by
    rw [div_lt_div_iff₀ positive' two_pos, one_mul, mul_comm]
    exact_mod_cast Iff.rfl
  have more_iff : den < 2 * (num % den) ↔ 1 / 2 < ((num % den : Nat) : ℚ) / den := by
    rw [div_lt_div_iff₀ two_pos positive', one_mul, mul_comm _ (2 : ℚ)]
    exact_mod_cast Iff.rfl
  rw [whole]
  unfold roundDiv
  generalize num / den = q at *
  generalize num % den = r at *
  dsimp only
  split_ifs with less more
  · rw [less_iff] at less
    apply nearestEven_of_lt <;> linarith
  · rw [more_iff] at more
    apply nearestEven_of_lt <;> push_cast <;> linarith
  · -- The remainder is a half, and the parity of the quotient tells which neighbour is even.
    rw [less_iff, not_lt] at less
    rw [more_iff, not_lt] at more
    have half : (r : ℚ) / den = 1 / 2 := le_antisymm more less
    apply nearestEven_of_half _ (by omega)
    rw [half]
    rcases Nat.mod_two_eq_zero_or_one q with even | odd
    · rw [even]
      exact .inl rfl
    · rw [odd]
      refine .inr ?_
      rw [add_assoc, add_halves, Nat.cast_add, Nat.cast_one]

theorem roundDiv_mul_self {num den : Nat} (positive : 0 < den) (whole : den ∣ num) :
    roundDiv num den * den = num := by
  obtain ⟨q, rfl⟩ := whole
  have none : den * q % den = 0 := Nat.mul_mod_right den q
  rw [roundDiv, none, Nat.mul_zero, if_pos positive, Nat.mul_div_cancel_left q positive,
    Nat.mul_comm]

theorem div_le_roundDiv (num den : Nat) : num / den ≤ roundDiv num den := by
  unfold roundDiv
  dsimp only
  split_ifs <;> omega

end EnvBundle.Binary64
