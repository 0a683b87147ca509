import EnvBundle.Proofs.Binary64.Nearest
import EnvBundle.Proofs.Binary64.Rounding

/-!
A number times a power of two is that product exactly, or an infinity if it overflows: the
significand stays as it was.
-/
namespace EnvBundle

theorem Binary64.unitsPerOne_pos : 0 < unitsPerOne := twoTo_pos 1074

/-- The number that a magnitude is. -/
def Magnitude.value (m : Magnitude) : ℚ := m.units / Binary64.unitsPerOne

namespace Magnitude

/-- Just below a power of two there are no numbers for the length of a last place. -/
theorem units_add_le {m : Magnitude} {e : Nat} (less : m.units < twoTo (e + 53)) :
    m.units + twoTo e ≤ twoTo (e + 53) := by
  obtain ⟨place, k, form⟩ := m.exists_form
  rw [twoTo_eq, form.units] at less
  have low : place ≤ e := by
    by_contra high
    have least : 2 ^ 52 * 2 ^ (e + 1) ≤ k * 2 ^ place :=
      Nat.mul_le_mul (form.full (by omega)) (Nat.pow_le_pow_right two_pos (by omega))
    rw [← pow_add, show 52 + (e + 1) = e + 53 by omega] at least
    exact absurd less (Nat.not_lt.2 least)
  calc m.units + twoTo e
      = k * 2 ^ place + 2 ^ e := by rw [form.units, twoTo_eq]
    _ ≤ (2 ^ 53 - 1) * 2 ^ e + 2 ^ e := Nat.add_le_add_right
        (Nat.mul_le_mul (Nat.le_pred_of_lt form.less) (Nat.pow_le_pow_right two_pos low)) _
    _ = twoTo (e + 53) := by
        rw [twoTo_eq, pow_add]
        ring

theorem value_add_le {m : Magnitude} {p : Nat} (less : m.value < 2 ^ (p + 53)) :
    m.value + 2 ^ p ≤ 2 ^ (p + 53) := by
  have positive : (0 : ℚ) < Binary64.unitsPerOne := Nat.cast_pos.2 Binary64.unitsPerOne_pos
  have scaled : ∀ c, twoTo (c + 1074) = 2 ^ c * Binary64.unitsPerOne := fun c => twoTo_add c 1074
  have less' : m.units < twoTo (p + 1074 + 53) := by
    rw [Nat.add_right_comm, scaled]
    rw [value, div_lt_iff₀ positive] at less
    exact_mod_cast less
  have gap := units_add_le less'
  rw [Nat.add_right_comm, scaled, scaled] at gap
  rw [value, ← le_sub_iff_add_le, div_le_iff₀ positive, sub_mul, le_sub_iff_add_le]
  exact_mod_cast gap

end Magnitude

namespace Binary64

variable {m : Magnitude} {negative : Bool} {power : Nat}

/-- The bits behind the 53rd are as they were, all of them zero. -/
theorem dvd_scaled (m : Magnitude) (power : Nat) :
    twoTo ((m.units * twoTo power).log2 - 52) ∣ m.units * twoTo power := by
  by_cases zero : m.units = 0
  · rw [zero, Nat.zero_mul]
    exact Nat.dvd_zero _
  · have nonzero : m.units * twoTo power ≠ 0 := Nat.mul_ne_zero zero (twoTo_pos power).ne'
    have less : (m.units * twoTo power).log2 < m.units.log2 + 1 + power := by
      rw [Nat.log2_lt nonzero, twoTo_eq, Nat.pow_add]
      exact Nat.mul_lt_mul_of_pos_right Nat.lt_log2_self (Nat.two_pow_pos power)
    calc twoTo ((m.units * twoTo power).log2 - 52)
        ∣ twoTo (m.units.log2 - 52 + power) := Nat.pow_dvd_pow 2 (by omega)
      _ = twoTo (m.units.log2 - 52) * twoTo power := twoTo_add _ _
      _ ∣ m.units * twoTo power := Nat.mul_dvd_mul_right m.fits.2 _

theorem nearest?_of_dvd {num : Nat} (whole : twoTo (num.log2 - 52) ∣ num) :
    Magnitude.nearest? num 1 = if fits : Fits num then some ⟨num, fits⟩ else none := by
  have kept := roundDiv_mul_self (twoTo_pos _) whole
  simp only [Magnitude.nearest?, Nat.div_one, Nat.one_mul, kept]

theorem scale_of_fits (negative : Bool) (fits : Fits (m.units * twoTo power)) :
    scale (.finite negative m) power = .finite negative ⟨m.units * twoTo power, fits⟩ := by
  unfold scale ofUnits
  dsimp only
  rw [nearest?_of_dvd (dvd_scaled m power), dif_pos fits]

theorem scale_of_not_fits (negative : Bool) (unfit : ¬Fits (m.units * twoTo power)) :
    scale (.finite negative m) power = .infinity negative := by
  unfold scale ofUnits
  dsimp only
  rw [nearest?_of_dvd (dvd_scaled m power), dif_neg unfit]

theorem isNegative_scaled (negative : Bool) (fits : Fits (m.units * twoTo power)) :
    (finite negative ⟨m.units * twoTo power, fits⟩).isNegative =
      (finite negative m).isNegative := by
  have same : (m.units * twoTo power != 0) = (m.units != 0) := by
    rw [Bool.eq_iff_iff, bne_iff_ne, bne_iff_ne, Nat.mul_ne_zero_iff]
    exact and_iff_left (twoTo_pos power).ne'
  unfold isNegative
  dsimp only
  rw [same]

theorem le_of_not_fits (unfit : ¬Fits (m.units * twoTo power)) :
    twoTo 2098 ≤ m.units * twoTo power :=
  Nat.le_of_not_lt fun less => unfit ⟨less, dvd_scaled m power⟩

end Binary64

end EnvBundle
