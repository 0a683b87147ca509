import EnvBundle.Binary64.Reading
import EnvBundle.Proofs.Binary64.Rounding
import Mathlib.Data.Rat.Cast.Order
import Mathlib.Tactic.LinearCombination
import Mathlib.Tactic.Positivity

/-!
The shortest decimal of a magnitude is found and reads back. Seventeen digits suffice: the step from
one such decimal to the next is less than what a magnitude covers.
-/
namespace EnvBundle.Magnitude

variable {m : Magnitude} {e k : Nat}

/-- What is covered depends on the value of a fraction alone. -/
theorem covers_congr {num den num' den' : Nat} (positive : 0 < den) (positive' : 0 < den')
    (same : num * den' = num' * den) : m.covers num den = m.covers num' den' := by
  have le_iff : ∀ low, low * den ≤ num ↔ low * den' ≤ num' := by
    intro low
    rw [← Nat.mul_le_mul_right_iff positive', same, Nat.mul_right_comm,
      Nat.mul_le_mul_right_iff positive]
  have ge_iff : ∀ high, num ≤ high * den ↔ num' ≤ high * den' := by
    intro high
    rw [← Nat.mul_le_mul_right_iff positive', same, Nat.mul_right_comm high,
      Nat.mul_le_mul_right_iff positive]
  have lt_iff : ∀ low, low * den < num ↔ low * den' < num' := by
    intro low
    rw [← Nat.not_le, ge_iff, Nat.not_le]
  have gt_iff : ∀ high, num < high * den ↔ num' < high * den' := by
    intro high
    rw [← Nat.not_le, le_iff, Nat.not_le]
  simp only [covers, le_iff, ge_iff, lt_iff, gt_iff]

theorem step_den_pos (power : Int) : 0 < (step power).2 := by
  unfold step
  split
  · exact Nat.one_pos
  · exact tenTo_pos _

/-- A step of the grid, in quarters of a unit. -/
theorem step_eq (power : Int) :
    ((step power).1 : ℚ) / (step power).2 = 4 * Binary64.unitsPerOne * 10 ^ power := by
  unfold step
  split
  · next whole =>
    obtain ⟨n, rfl⟩ := Int.eq_ofNat_of_zero_le whole
    dsimp only
    rw [Int.toNat_natCast, tenTo_eq, Nat.cast_mul, Nat.cast_mul, Nat.cast_pow, Nat.cast_ofNat,
      Nat.cast_ofNat, Nat.cast_one, div_one, zpow_natCast]
  · next fraction =>
    obtain ⟨n, rfl⟩ : ∃ n : Nat, power = -(n : Int) := ⟨(-power).toNat, by omega⟩
    dsimp only
    rw [neg_neg, Int.toNat_natCast, tenTo_eq, Nat.cast_mul, Nat.cast_pow, Nat.cast_ofNat,
      Nat.cast_ofNat, zpow_neg, zpow_natCast, div_eq_mul_inv]

theorem covers_step_congr {digits digits' : Nat} {power power' : Int}
    (same : (digits : ℚ) * 10 ^ power = digits' * 10 ^ power') :
    m.covers (digits * (step power).1) (step power).2 =
      m.covers (digits' * (step power').1) (step power').2 := by
  apply covers_congr (step_den_pos power) (step_den_pos power')
  have positive : ((step power).2 : ℚ) ≠ 0 := by exact_mod_cast (step_den_pos power).ne'
  have positive' : ((step power').2 : ℚ) ≠ 0 := by exact_mod_cast (step_den_pos power').ne'
  have values : (digits : ℚ) * (step power).1 / (step power).2 =
      digits' * (step power').1 / (step power').2 := by
    rw [mul_div_assoc, mul_div_assoc, step_eq, step_eq]
    linear_combination 4 * (Binary64.unitsPerOne : ℚ) * same
  rw [div_eq_div_iff positive positive'] at values
  exact_mod_cast values

/-- What is found on the grid is covered. -/
theorem covers_of_onGrid? {tie : Tie} {power : Int} {multiple : Nat}
    (found : m.onGrid? tie power = some multiple) :
    m.covers (multiple * (step power).1) (step power).2 = true := by
  unfold onGrid? at found
  generalize step power = fraction at *
  obtain ⟨num, den⟩ := fraction
  dsimp only at *
  generalize 4 * m.units * den / num = below at *
  split at found
  · next both =>
    rw [Bool.and_eq_true] at both
    split at found <;> cases found
    · exact both.1
    · exact both.2
  · split at found
    · next lower =>
      cases found
      exact lower
    · split at found
      · next upper =>
        cases found
        exact upper
      · cases found

theorem onGrid?_ne_none {tie : Tie} {power : Int}
    (neighbour : ∃ multiple, (multiple = 4 * m.units * (step power).2 / (step power).1 ∨
      multiple = 4 * m.units * (step power).2 / (step power).1 + 1) ∧
        m.covers (multiple * (step power).1) (step power).2 = true) :
    m.onGrid? tie power ≠ none := by
  unfold onGrid?
  generalize step power = fraction at *
  obtain ⟨num, den⟩ := fraction
  dsimp only at *
  generalize 4 * m.units * den / num = below at *
  obtain ⟨multiple, rfl | rfl, covered⟩ := neighbour
  · rw [covered, Bool.true_and, if_pos rfl]
    split
    · split <;> exact Option.some_ne_none _
    · exact Option.some_ne_none _
  · rw [covered, Bool.and_true]
    split
    · split <;> exact Option.some_ne_none _
    · rw [if_pos rfl]
      exact Option.some_ne_none _

/-- Where seventeen digits or more make up a multiple, one of the two neighbours is covered. -/
theorem exists_covers_neighbour {num den : Nat} (step : 0 < num) (positive : 0 < den)
    (fine : 10 ^ 16 * num ≤ 4 * m.units * den) :
    ∃ multiple, (multiple = 4 * m.units * den / num ∨ multiple = 4 * m.units * den / num + 1) ∧
      m.covers (multiple * num) den = true := by
  obtain ⟨e, k, form⟩ := m.exists_form
  have place : 0 < 2 ^ e * den := Nat.mul_pos (Nat.two_pow_pos e) positive
  have target : 4 * m.units * den = 4 * (k * (2 ^ e * den)) := by
    rw [form.units]
    ring
  have most : k * (2 ^ e * den) ≤ (2 ^ 53 - 1) * (2 ^ e * den) :=
    Nat.mul_le_mul_right _ (Nat.le_pred_of_lt form.less)
  have power : k = 2 ^ 52 → k * (2 ^ e * den) = 2 ^ 52 * (2 ^ e * den) := by
    intro least
    rw [least]
  have less := Nat.mod_lt (4 * m.units * den) step
  have whole := Nat.div_add_mod' (4 * m.units * den) num
  rw [target] at fine less whole ⊢
  have next : (4 * (k * (2 ^ e * den)) / num + 1) * num =
      4 * (k * (2 ^ e * den)) / num * num + num := Nat.succ_mul _ num
  by_cases close : k ≠ 2 ^ 52 ∧ 4 * (k * (2 ^ e * den)) % num < 2 * (2 ^ e * den)
  · refine ⟨_, .inl rfl, form.covers_of_within ?_ ?_ ?_⟩
    · omega
    · exact fun least => absurd least close.1
    · omega
  · refine ⟨_, .inr rfl, form.covers_of_within ?_ ?_ ?_⟩
    · omega
    · omega
    · rw [next]
      by_cases least : k = 2 ^ 52
      · have := power least
        omega
      · have far := Nat.le_of_not_lt fun near => close ⟨least, near⟩
        omega

/-- The first digit has the place that it should have. -/
theorem tenTo_top_le (nonzero : m.units ≠ 0) :
    (10 : ℚ) ^ (m.top - 1) * Binary64.unitsPerOne ≤ m.units := by
  have above : Binary64.unitsPerOne ≤ tenTo 330 := by decide +kernel
  have one : 0 < Binary64.unitsPerOne := twoTo_pos 1074
  rw [top]
  generalize count : m.units * tenTo 330 / Binary64.unitsPerOne = n
  have positive : n ≠ 0 := by
    rw [← count, Nat.div_ne_zero_iff]
    exact ⟨one.ne', Nat.le_trans above (Nat.le_mul_of_pos_left _ (Nat.pos_of_ne_zero nonzero))⟩
  have first := Text.tenTo_digitCount_le positive
  have some_digits := Text.digitCount_pos n
  have bound : 10 ^ (Text.digitCount n - 1) * Binary64.unitsPerOne ≤ m.units * 10 ^ 330 := by
    rw [← tenTo_eq 330]
    refine Nat.le_trans (Nat.mul_le_mul_right _ first) ?_
    rw [← count]
    exact Nat.div_mul_le_self _ _
  have exponent : (Text.digitCount n : Int) - 330 - 1 =
      ((Text.digitCount n - 1 : Nat) : Int) - (330 : Nat) := by
    omega
  rw [exponent, zpow_sub₀ (by norm_num), zpow_natCast, zpow_natCast, div_mul_eq_mul_div,
    div_le_iff₀ (by positivity)]
  exact_mod_cast bound

theorem step_num_pos (power : Int) : 0 < (step power).1 := by
  have one : 0 < 4 * Binary64.unitsPerOne := Nat.mul_pos (by decide) (twoTo_pos 1074)
  unfold step
  split
  · exact Nat.mul_pos one (tenTo_pos _)
  · exact one

theorem step_seventeen (nonzero : m.units ≠ 0) :
    10 ^ 16 * (step (m.top - 17)).1 ≤ 4 * m.units * (step (m.top - 17)).2 := by
  have grid := step_eq (m.top - 17)
  have positive : (0 : ℚ) < (step (m.top - 17)).2 := by exact_mod_cast step_den_pos _
  rw [div_eq_iff positive.ne'] at grid
  have shifted : (10 : ℚ) ^ 16 * 10 ^ (m.top - 17) = 10 ^ (m.top - 1) := by
    rw [← zpow_natCast, ← zpow_add₀ (by norm_num)]
    congr 1
    push_cast
    ring
  have bound : (10 : ℚ) ^ 16 * (step (m.top - 17)).1 ≤ 4 * m.units * (step (m.top - 17)).2 := by
    calc (10 : ℚ) ^ 16 * (step (m.top - 17)).1
        = 4 * (10 ^ (m.top - 1) * Binary64.unitsPerOne) * (step (m.top - 17)).2 := by
          rw [grid, ← shifted]
          ring
      _ ≤ 4 * m.units * (step (m.top - 17)).2 := by
          gcongr
          exact tenTo_top_le nonzero
  exact_mod_cast bound

/-- Trailing zeros are the only digits that are left out. -/
theorem exists_zeros (digits : Text) :
    ∃ n, digits = stripZeros digits ++ List.replicate n '0' := by
  have parts := @List.takeWhile_append_dropWhile _ (fun c => decide (c = '0')) digits.reverse
  have zeros : digits.reverse.takeWhile (fun c => decide (c = '0')) =
      List.replicate (digits.reverse.takeWhile fun c => decide (c = '0')).length '0' := by
    refine List.eq_replicate_iff.2 ⟨rfl, ?_⟩
    intro c member
    exact of_decide_eq_true (List.all_eq_true.1 List.all_takeWhile c member)
  refine ⟨(digits.reverse.takeWhile fun c => decide (c = '0')).length, ?_⟩
  have both := congrArg List.reverse parts
  rw [List.reverse_append, List.reverse_reverse, zeros, List.reverse_replicate] at both
  exact both.symm

/-- The search among seventeen counts of digits ends with a multiple that is covered. -/
theorem exists_found (tie : Tie) (nonzero : m.units ≠ 0) :
    ∃ multiple power, m.shortest tie =
        ⟨stripZeros (Text.ofNat multiple), (Text.ofNat multiple).length + power⟩ ∧
      m.covers (multiple * (step power).1) (step power).2 = true := by
  cases found : (List.range 17).findSome? (m.attempt? tie) with
  | none =>
      have last := List.findSome?_eq_none_iff.1 found 16 (List.mem_range.2 (by decide))
      have neighbour := exists_covers_neighbour (step_num_pos (m.top - 17)) (step_den_pos _)
        (step_seventeen nonzero)
      have seventeen : m.onGrid? tie (m.top - 17) = none := Option.map_eq_none_iff.1 last
      exact absurd seventeen (onGrid?_ne_none neighbour)
  | some decimal =>
      obtain ⟨n, _, attempted⟩ := List.exists_of_findSome?_eq_some found
      obtain ⟨multiple, onGrid, rfl⟩ := Option.map_eq_some_iff.1 attempted
      refine ⟨multiple, _, ?_, covers_of_onGrid? onGrid⟩
      rw [shortest, found, Option.getD_some]

/-- The shortest decimal has digits, and it is covered. -/
theorem covers_shortest (tie : Tie) (nonzero : m.units ≠ 0) :
    let d := m.shortest tie
    (∀ c ∈ d.digits, c.isDigit = true) ∧ Text.ofDigits 10 d.digits ≠ 0 ∧
      m.covers (Text.ofDigits 10 d.digits * (step (d.point - d.digits.length)).1)
        (step (d.point - d.digits.length)).2 = true := by
  obtain ⟨multiple, power, same, covers⟩ := exists_found tie nonzero
  obtain ⟨n, digits⟩ := exists_zeros (Text.ofNat multiple)
  have value := Text.ofDigits_ofNat multiple
  rw [digits, Text.ofDigits_append, Text.ofDigits_zeros, List.length_replicate,
    Nat.add_zero] at value
  have size := congrArg List.length digits
  rw [List.length_append, List.length_replicate] at size
  rw [same]
  dsimp only
  refine ⟨?_, ?_, ?_⟩
  · intro c member
    apply @Text.isDigit_of_mem_ofNat multiple
    rw [digits]
    exact List.mem_append_left _ member
  · intro zero
    rw [zero, Nat.mul_zero] at value
    rw [← value, Nat.zero_mul] at covers
    exact ne_zero_of_covers nonzero (step_den_pos power) covers rfl
  · refine (covers_step_congr ?_).trans covers
    have exponent : (Text.ofNat multiple).length + power -
        (stripZeros (Text.ofNat multiple)).length = (n : Int) + power := by
      omega
    have scaled : (multiple : ℚ) =
        10 ^ n * Text.ofDigits 10 (stripZeros (Text.ofNat multiple)) := by
      exact_mod_cast value.symm
    rw [exponent, zpow_add₀ (by norm_num), zpow_natCast, scaled]
    ring

end EnvBundle.Magnitude
