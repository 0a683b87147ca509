import EnvBundle.Duration
import EnvBundle.Proofs.Binary64.Scaling
import Mathlib.Tactic.GCongr

/-!
Lengths of time out of floating point numbers. A number times a power of two loses nothing before it
is rounded to nanoseconds, for a product that overflows is longer than any duration.
-/
namespace EnvBundle.Duration

open Binary64 (NearestEven div_le_roundDiv nearestEven_natCast nearestEven_roundDiv roundDiv
  unitsPerOne unitsPerOne_pos)

theorem nanos_le_max (d : Duration) : d.nanos ≤ max.nanos := Nat.le_pred_of_lt d.bounded

theorem ofNanos_mono {n n' : Nat} (le : n ≤ n') : (ofNanos n).nanos ≤ (ofNanos n').nanos := by
  rcases Nat.lt_or_ge n' limit with less | beyond
  · rw [ofNanos_of_lt less, ofNanos_of_lt (Nat.lt_of_le_of_lt le less)]
    exact le
  · rw [ofNanos_of_le beyond]
    exact nanos_le_max _

/-- The duration of so many units of a second. -/
def ofUnits (units : Nat) : Duration := ofNanos (roundDiv (units * nanosPerSecond) unitsPerOne)

theorem nearestEven_nanos (units : Nat) :
    NearestEven (units / unitsPerOne * 10 ^ 9) (roundDiv (units * nanosPerSecond) unitsPerOne) := by
  have nearest := nearestEven_roundDiv (units * nanosPerSecond) unitsPerOne_pos
  rw [nanosPerSecond, tenTo_eq, Nat.cast_mul, Nat.cast_pow, Nat.cast_ofNat,
    mul_div_right_comm] at nearest
  exact nearest

theorem ofUnits_mono {units units' : Nat} (le : units ≤ units') :
    (ofUnits units).nanos ≤ (ofUnits units').nanos := by
  apply ofNanos_mono
  apply (nearestEven_nanos units).mono (nearestEven_nanos units')
  generalize unitsPerOne = one
  gcongr

/-- What overflows in seconds is longer than any duration. -/
theorem ofUnits_of_le {units : Nat} (beyond : twoTo 2098 ≤ units) : ofUnits units = max := by
  have least : limit * unitsPerOne ≤ twoTo 2098 * nanosPerSecond := by decide +kernel
  have most := least.trans (Nat.mul_le_mul_right nanosPerSecond beyond)
  apply ofNanos_of_le
  have positive := unitsPerOne_pos
  -- Nothing else is known of the unit from here on, or its power would be computed.
  generalize unitsPerOne = one at *
  exact ((Nat.le_div_iff_mul_le positive).2 most).trans (div_le_roundDiv _ _)

variable {m : Magnitude} {negative : Bool}

theorem ofNanos_pos_iff {n : Nat} : 0 < (ofNanos n).nanos ↔ 0 < n := by
  rcases Nat.lt_or_ge n limit with less | beyond
  · rw [ofNanos_of_lt less]
  · rw [ofNanos_of_le beyond]
    exact iff_of_true (by decide) (Nat.lt_of_lt_of_le (by decide) beyond)

theorem ofUnits_pos_iff (m : Magnitude) :
    0 < (ofUnits m.units).nanos ↔ 1 / 2 < m.value * 10 ^ 9 := by
  have least : 0 ≤ m.value * 10 ^ 9 :=
    mul_nonneg (div_nonneg (Nat.cast_nonneg _) (Nat.cast_nonneg _)) (by norm_num)
  exact ofNanos_pos_iff.trans ((nearestEven_nanos m.units).pos_iff least)

theorem limit_eq : (limit : ℚ) = 2 ^ 64 * 10 ^ 9 := by
  rw [limit, nanosPerSecond, twoTo_eq, tenTo_eq, Nat.cast_mul, Nat.cast_pow, Nat.cast_pow,
    Nat.cast_ofNat, Nat.cast_ofNat]

/-- The largest duration stands for nothing that is shorter: the number before `2 ^ 64` lies so far
below that it is rounded to less. -/
theorem ofUnits_eq_max_iff (m : Magnitude) : ofUnits m.units = max ↔ 2 ^ 64 ≤ m.value := by
  have nearest := nearestEven_nanos m.units
  change NearestEven (m.value * 10 ^ 9) _ at nearest
  unfold ofUnits
  generalize roundDiv (m.units * nanosPerSecond) unitsPerOne = nanos at *
  constructor
  · intro longest
    by_contra short
    have gap := @Magnitude.value_add_le m 11 (not_le.1 short)
    have near := (abs_le.1 nearest.near).1
    have less : nanos + 1 < limit := by
      have less : (nanos : ℚ) + 1 < limit := by
        rw [limit_eq]
        norm_num at gap ⊢
        linarith
      exact_mod_cast less
    have same : nanos = limit - 1 := by
      rw [← ofNanos_of_lt (Nat.lt_of_succ_lt less), longest]
      rfl
    omega
  · intro long
    apply ofNanos_of_le
    apply (nearestEven_natCast limit).mono nearest
    rw [limit_eq]
    gcongr

theorem ofSeconds_finite (notNegative : (Binary64.finite negative m).isNegative = false) :
    ofSeconds (.finite negative m) = ofUnits m.units := by
  unfold ofSeconds
  dsimp only
  rw [notNegative, if_neg Bool.false_ne_true, ofMagnitude, ofUnits]

theorem ofSeconds_of_isNegative {x : Binary64} (isNegative : x.isNegative = true) :
    ofSeconds x = max := by
  unfold ofSeconds
  split
  · exact if_pos isNegative
  · rfl

/-- The product is not rounded before the nanoseconds are, nor does its overflow show. -/
theorem ofSeconds_scale (notNegative : (Binary64.finite negative m).isNegative = false)
    (power : Nat) :
    ofSeconds (Binary64.scale (.finite negative m) power) = ofUnits (m.units * twoTo power) := by
  by_cases fits : Binary64.Fits (m.units * twoTo power)
  · rw [Binary64.scale_of_fits negative fits]
    exact ofSeconds_finite ((Binary64.isNegative_scaled negative fits).trans notNegative)
  · rw [Binary64.scale_of_not_fits negative fits, ofUnits_of_le (Binary64.le_of_not_fits fits)]
    rfl

theorem ofSeconds_scale_of_isNegative (isNegative : (Binary64.finite negative m).isNegative = true)
    (power : Nat) : ofSeconds (Binary64.scale (.finite negative m) power) = max := by
  by_cases fits : Binary64.Fits (m.units * twoTo power)
  · rw [Binary64.scale_of_fits negative fits]
    exact ofSeconds_of_isNegative ((Binary64.isNegative_scaled negative fits).trans isNegative)
  · rw [Binary64.scale_of_not_fits negative fits]
    rfl

end EnvBundle.Duration
