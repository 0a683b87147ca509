import EnvBundle.Binary64.Shortest
import EnvBundle.Proofs.Text.Digits
import Mathlib.Tactic.SplitIfs

/-!
What is rounded to a magnitude: every number nearer to it than to its neighbours, and the number
half way if the significand is even. A number is a fraction, counted in units or in quarters of one.
-/
namespace EnvBundle

namespace Binary64

/-- A number at most a half from a whole one, and less if that one is odd, is rounded to it. -/
theorem roundDiv_eq_of_near {num den k : Nat} (positive : 0 < den)
    (above : 2 * (k * den) ≤ 2 * num + den) (below : 2 * num ≤ 2 * (k * den) + den)
    (apart : k % 2 = 1 → 2 * (k * den) ≠ 2 * num + den ∧ 2 * num ≠ 2 * (k * den) + den) :
    roundDiv num den = k := by
  have whole : num = num / den * den + num % den := (Nat.div_add_mod' num den).symm
  have less : num % den < den := Nat.mod_lt num positive
  have most : num / den ≤ k := by
    by_contra beyond
    have := Nat.mul_le_mul_right den (Nat.succ_le_of_lt (Nat.lt_of_not_le beyond))
    rw [Nat.succ_mul] at this
    omega
  have least : k ≤ num / den + 1 := by
    by_contra under
    have := Nat.mul_le_mul_right den (Nat.succ_le_of_lt (Nat.lt_of_not_le under))
    rw [Nat.succ_mul, Nat.succ_mul] at this
    omega
  unfold roundDiv
  generalize num / den = q at *
  generalize num % den = r at *
  dsimp only
  rcases Nat.lt_or_ge q k with ahead | same
  · obtain rfl : k = q + 1 := by omega
    have next : (q + 1) * den = q * den + den := Nat.succ_mul q den
    split_ifs <;> omega
  · obtain rfl : k = q := by omega
    split_ifs <;> omega

/-- How many bits are dropped from a number of units, by the bounds of its binade. -/
theorem log2_div_sub_eq {num den e : Nat} (positive : 0 < den) (below : num < 2 ^ (e + 53) * den)
    (above : e ≠ 0 → 2 ^ (e + 52) * den ≤ num) : (num / den).log2 - 52 = e := by
  have less : num / den < 2 ^ (e + 53) := (Nat.div_lt_iff_lt_mul positive).2 below
  by_cases first : e = 0
  · subst first
    by_cases zero : num / den = 0
    · rw [zero]
      rfl
    · have := (Nat.log2_lt zero).2 less
      omega
  · have least : 2 ^ (e + 52) ≤ num / den := (Nat.le_div_iff_mul_le positive).2 (above first)
    have nonzero : num / den ≠ 0 := by
      have := Nat.two_pow_pos (e + 52)
      omega
    have lower := (Nat.le_log2 nonzero).2 least
    have upper := (Nat.log2_lt nonzero).2 less
    omega

end Binary64

namespace Magnitude

/-- A magnitude as a significand of at most 53 bits and the place of its last bit. All 53 are there
unless that place is the unit's. -/
structure Form (m : Magnitude) (e k : Nat) : Prop where
  ulp : m.ulp = 2 ^ e
  units : m.units = k * 2 ^ e
  less : k < 2 ^ 53
  full : e ≠ 0 → 2 ^ 52 ≤ k

theorem exists_form (m : Magnitude) : ∃ e k, m.Form e k := by
  have whole : m.units = m.units / m.ulp * m.ulp := (Nat.div_mul_cancel m.fits.2).symm
  have place : m.ulp = 2 ^ (m.units.log2 - 52) := rfl
  have positive : 0 < m.ulp := twoTo_pos _
  refine ⟨m.units.log2 - 52, m.units / m.ulp, place, place ▸ whole, ?_, ?_⟩
  · rw [Nat.div_lt_iff_lt_mul positive, place, ← pow_add]
    exact Nat.lt_of_lt_of_le Nat.lt_log2_self (Nat.pow_le_pow_right (by decide) (by omega))
  · intro above
    have nonzero : m.units ≠ 0 := by
      intro zero
      rw [zero] at above
      exact above rfl
    rw [Nat.le_div_iff_mul_le positive, place, ← pow_add]
    exact Nat.le_trans (Nat.pow_le_pow_right (by decide) (by omega)) (Nat.log2_self_le nonzero)

variable {m : Magnitude} {e k : Nat}

theorem Form.significand (form : m.Form e k) : m.units / m.ulp = k := by
  rw [form.ulp, form.units, Nat.mul_div_cancel _ (Nat.two_pow_pos e)]

theorem Form.isLowest_iff (form : m.Form e k) : m.isLowest = true ↔ k = 2 ^ 52 ∧ e ≠ 0 := by
  have place : 2 ^ e = 1 ↔ e = 0 := by
    rw [Nat.pow_eq_one]
    simp
  have least : k * 2 ^ e = 2 ^ 52 * 2 ^ e ↔ k = 2 ^ 52 := Nat.mul_left_inj (Nat.two_pow_pos e).ne'
  rw [isLowest, form.ulp, form.units, twoTo_eq, Bool.and_eq_true, decide_eq_true_iff, bne_iff_ne,
    least, ne_eq, place]

/-- The bounds of what is covered, in quarters of a unit. Below a power of two the lower bound is
nearer; the bounds themselves belong to it if the significand is even. -/
theorem Form.covers_iff (form : m.Form e k) (num den : Nat) :
    m.covers num den = true ↔
      if k = 2 ^ 52 ∧ e ≠ 0 then
        4 * (k * (2 ^ e * den)) ≤ num + 2 ^ e * den ∧
          num ≤ 4 * (k * (2 ^ e * den)) + 2 * (2 ^ e * den)
      else if k % 2 = 0 then
        4 * (k * (2 ^ e * den)) ≤ num + 2 * (2 ^ e * den) ∧
          num ≤ 4 * (k * (2 ^ e * den)) + 2 * (2 ^ e * den)
      else
        4 * (k * (2 ^ e * den)) < num + 2 * (2 ^ e * den) ∧
          num < 4 * (k * (2 ^ e * den)) + 2 * (2 ^ e * den) := by
  have lowest := form.isLowest_iff
  have high : (4 * (k * 2 ^ e) + 2 * 2 ^ e) * den =
      4 * (k * (2 ^ e * den)) + 2 * (2 ^ e * den) := by
    ring
  have low : ∀ gap, (4 * (k * 2 ^ e) - gap) * den = 4 * (k * (2 ^ e * den)) - gap * den := by
    intro gap
    rw [Nat.sub_mul]
    ring_nf
  have twice : 2 * 2 ^ e * den = 2 * (2 ^ e * den) := Nat.mul_assoc _ _ _
  have odd : k % 2 ≠ 0 → 2 ^ e * den ≤ k * (2 ^ e * den) := by
    intro odd
    exact Nat.le_mul_of_pos_left _ (by omega)
  rw [Magnitude.covers, form.significand, form.units, form.ulp, high, low]
  generalize k * (2 ^ e * den) = product at *
  by_cases power : k = 2 ^ 52 ∧ e ≠ 0
  · have even : k % 2 = 0 := by
      rw [power.1]
      decide
    rw [if_pos power, if_pos (lowest.2 power), if_pos even]
    simp only [Bool.and_eq_true, decide_eq_true_iff]
    omega
  · rw [if_neg power, if_neg (mt lowest.1 power), twice]
    split
    · simp only [Bool.and_eq_true, decide_eq_true_iff]
      omega
    · next unlike =>
      have positive := odd unlike
      simp only [Bool.and_eq_true, decide_eq_true_iff]
      omega

/-- What is covered is not far from the magnitude. -/
theorem le_of_covers {num den : Nat} (nonzero : m.units ≠ 0) (covers : m.covers num den = true) :
    den ≤ num ∧ num ≤ 8 * (m.units * den) := by
  obtain ⟨e, k, form⟩ := m.exists_form
  have significand : k ≠ 0 := by
    rintro rfl
    exact nonzero (form.units.trans (Nat.zero_mul _))
  have least : 2 ^ e * den ≤ k * (2 ^ e * den) :=
    Nat.le_mul_of_pos_left _ (Nat.pos_of_ne_zero significand)
  have place : den ≤ 2 ^ e * den := Nat.le_mul_of_pos_left _ (Nat.two_pow_pos e)
  rw [form.covers_iff] at covers
  rw [form.units, Nat.mul_assoc k]
  split at covers
  · omega
  · split at covers <;> omega

theorem ne_zero_of_covers {num den : Nat} (nonzero : m.units ≠ 0) (positive : 0 < den)
    (covers : m.covers num den = true) : num ≠ 0 :=
  (Nat.lt_of_lt_of_le positive (le_of_covers nonzero covers).1).ne'

/-- What a fraction that is covered lies between, in halves of the last place. -/
theorem Form.bounds_of_covers (form : m.Form e k) {num den : Nat}
    (covers : m.covers (4 * num) den = true) :
    2 * (k * (2 ^ e * den)) ≤ 2 * num + 2 ^ e * den ∧
      2 * num ≤ 2 * (k * (2 ^ e * den)) + 2 ^ e * den ∧
      (k % 2 = 1 → 2 * (k * (2 ^ e * den)) ≠ 2 * num + 2 ^ e * den ∧
        2 * num ≠ 2 * (k * (2 ^ e * den)) + 2 ^ e * den) ∧
      (k = 2 ^ 52 → e ≠ 0 → 4 * (k * (2 ^ e * den)) ≤ 4 * num + 2 ^ e * den) := by
  rw [form.covers_iff] at covers
  generalize k * (2 ^ e * den) = product at *
  generalize 2 ^ e * den = place at *
  split at covers
  · next power =>
    refine ⟨by omega, by omega, ?_, fun _ _ => covers.1⟩
    intro odd
    omega
  · next unlike =>
    refine ⟨?_, ?_, ?_, fun least above => (unlike ⟨least, above⟩).elim⟩
    all_goals split at covers <;> omega

/-- What lies strictly within the bounds is covered, whatever the significand. -/
theorem Form.covers_of_within (form : m.Form e k) {num den : Nat}
    (above : 4 * (k * (2 ^ e * den)) < num + 2 * (2 ^ e * den))
    (lowest : k = 2 ^ 52 → 4 * (k * (2 ^ e * den)) < num + 2 ^ e * den)
    (below : num < 4 * (k * (2 ^ e * den)) + 2 * (2 ^ e * den)) : m.covers num den = true := by
  rw [form.covers_iff]
  split
  · next power => exact ⟨Nat.le_of_lt (lowest power.1), Nat.le_of_lt below⟩
  · split
    · exact ⟨Nat.le_of_lt above, Nat.le_of_lt below⟩
    · exact ⟨above, below⟩

theorem nearest?_of_rounded {num den drop significand : Nat}
    (dropped : (num / den).log2 - 52 = drop)
    (rounded : Binary64.roundDiv num (2 ^ drop * den) = significand)
    (units : significand * 2 ^ drop = m.units) : nearest? num den = some m := by
  have whole : Binary64.roundDiv num (den * twoTo drop) * twoTo drop = m.units := by
    rw [twoTo_eq, Nat.mul_comm den, rounded, units]
  obtain ⟨units, fits⟩ := m
  rw [nearest?, dropped]
  dsimp only at whole ⊢
  subst whole
  rw [dif_pos fits]

/-- Below a power of two one bit more is kept, so the power has a significand of 54 bits. -/
theorem nearest?_of_covers_below {num den : Nat} (positive : 0 < den) (inner : e ≠ 0)
    (units : m.units = 2 ^ 52 * 2 ^ e) (beneath : num < 2 ^ 52 * (2 ^ e * den))
    (nearer : 4 * (2 ^ 52 * (2 ^ e * den)) ≤ 4 * num + 2 ^ e * den) :
    nearest? num den = some m := by
  obtain ⟨d, rfl⟩ : ∃ d, e = d + 1 := ⟨e - 1, by omega⟩
  have halved : 2 ^ (d + 1) * den = 2 * (2 ^ d * den) := by
    ring
  have scaled : ∀ c, 2 ^ (d + c) * den = 2 ^ c * (2 ^ d * den) := by
    intro c
    ring
  have place : 0 < 2 ^ d * den := Nat.mul_pos (Nat.two_pow_pos d) positive
  rw [halved] at beneath nearer
  have dropped : (num / den).log2 - 52 = d := by
    apply Binary64.log2_div_sub_eq positive
    · rw [scaled]
      omega
    · intro _
      rw [scaled]
      omega
  have rounded : Binary64.roundDiv num (2 ^ d * den) = 2 ^ 53 := by
    apply Binary64.roundDiv_eq_of_near place
    · omega
    · omega
    · intro odd
      omega
  refine nearest?_of_rounded dropped rounded ?_
  rw [units]
  ring

/-- Whatever is covered by a magnitude is rounded to it. -/
theorem nearest?_of_covers {num den : Nat} (positive : 0 < den)
    (covers : m.covers (4 * num) den = true) : nearest? num den = some m := by
  obtain ⟨e, k, form⟩ := m.exists_form
  obtain ⟨above, below, apart, lowest⟩ := form.bounds_of_covers covers
  have place : 0 < 2 ^ e * den := Nat.mul_pos (Nat.two_pow_pos e) positive
  have scaled : ∀ c, 2 ^ (e + c) * den = 2 ^ c * (2 ^ e * den) := by
    intro c
    ring
  have most : k * (2 ^ e * den) ≤ (2 ^ 53 - 1) * (2 ^ e * den) :=
    Nat.mul_le_mul_right _ (Nat.le_pred_of_lt form.less)
  by_cases within : e ≠ 0 → 2 ^ (e + 52) * den ≤ num
  · have dropped : (num / den).log2 - 52 = e := by
      apply Binary64.log2_div_sub_eq positive ?_ within
      rw [scaled]
      omega
    exact nearest?_of_rounded dropped (Binary64.roundDiv_eq_of_near place above below apart)
      form.units.symm
  · obtain ⟨inner, beneath⟩ := Classical.not_imp.1 within
    rw [scaled] at beneath
    have full := Nat.mul_le_mul_right (2 ^ e * den) (form.full inner)
    have least : k = 2 ^ 52 := by
      by_contra unlike
      have next : 2 ^ 52 + 1 ≤ k := Nat.lt_of_le_of_ne (form.full inner) (Ne.symm unlike)
      have := Nat.mul_le_mul_right (2 ^ e * den) next
      omega
    exact nearest?_of_covers_below positive inner (least ▸ form.units) (Nat.lt_of_not_le beneath)
      (least ▸ lowest least inner)

end Magnitude

end EnvBundle
