import EnvBundle.Binary64.Reading
import EnvBundle.Proofs.Duration
import EnvBundle.Proofs.Fetch.Options

/-!
How long a fetch waits and how long it may take, in terms of the numbers in the options.
-/
namespace EnvBundle.Fetch.Options

open Binary64 (NearestEven unitsPerOne)

variable {options : Options} {negative : Bool} {m : Magnitude}

theorem retryDelay_of_not_negative (given : options.retryBackoff = .finite negative m)
    (notNegative : options.retryBackoff.isNegative = false) (n : Nat) :
    options.retryDelay (n + 1) = Duration.ofUnits (m.units * twoTo n) := by
  rw [given] at notNegative
  rw [retryDelay, given, Duration.ofSeconds_scale notNegative]

theorem retryDelay_of_negative (given : options.retryBackoff = .finite negative m)
    (isNegative : options.retryBackoff.isNegative = true) (n : Nat) :
    options.retryDelay (n + 1) = Duration.max := by
  rw [given] at isNegative
  rw [retryDelay, given, Duration.ofSeconds_scale_of_isNegative isNegative]

/-- Either no wait can be expressed or every wait is the double of the one before. -/
theorem retryDelay_cases (options : Options) :
    (∀ n, options.retryDelay (n + 1) = Duration.max) ∨
      ∃ units, ∀ n, options.retryDelay (n + 1) = Duration.ofUnits (units * twoTo n) := by
  cases given : options.retryBackoff with
  | nan =>
      left
      intro n
      rw [retryDelay, given]
      rfl
  | infinity negative =>
      left
      intro n
      rw [retryDelay, given]
      rfl
  | finite negative m =>
      cases sign : options.retryBackoff.isNegative with
      | true => exact .inl (retryDelay_of_negative given sign)
      | false => exact .inr ⟨m.units, retryDelay_of_not_negative given sign⟩

theorem retryDelay_le_succ (options : Options) (n : Nat) :
    (options.retryDelay n).nanos ≤ (options.retryDelay (n + 1)).nanos := by
  cases n with
  | zero => exact Nat.zero_le _
  | succ n =>
      rcases retryDelay_cases options with longest | ⟨units, doubled⟩
      · rw [longest, longest]
      · rw [doubled, doubled]
        apply Duration.ofUnits_mono
        rw [twoTo_succ, ← Nat.mul_assoc]
        exact Nat.le_mul_of_pos_right _ two_pos

theorem retryDelay_mono (options : Options) :
    Monotone fun attempt => (options.retryDelay attempt).nanos :=
  monotone_nat_of_le_succ (retryDelay_le_succ options)

/-- No wait is shorter than one before it, whatever the factor, so the last one bounds all. If the
factor is a number that is not below zero, a wait is the factor times its power of two, exactly,
rounded once to nanoseconds, or the largest duration where that is too long. -/
theorem retryDelay_doubles_exactly (options : Options) :
    (∀ a b : UInt8, a ≤ b →
      (options.retryDelay a.toNat).nanos ≤ (options.retryDelay b.toNat).nanos) ∧
    (∀ a : UInt8, a ≤ options.retries →
      (options.retryDelay a.toNat).nanos ≤ options.finalRetryDelay.nanos) ∧
    ∀ negative m, options.retryBackoff = .finite negative m →
      options.retryBackoff.isNegative = false → ∀ attempt : UInt8, 1 ≤ attempt →
        ∃ nanos, NearestEven (m.value * 2 ^ (attempt.toNat - 1) * 10 ^ 9) nanos ∧
          (nanos < Duration.limit → (options.retryDelay attempt.toNat).nanos = nanos) ∧
          (Duration.limit ≤ nanos → options.retryDelay attempt.toNat = Duration.max) := by
  have ascending : ∀ a b : UInt8, a ≤ b →
      (options.retryDelay a.toNat).nanos ≤ (options.retryDelay b.toNat).nanos := fun a b le =>
    retryDelay_mono options (UInt8.le_iff_toNat_le.1 le)
  refine ⟨ascending, fun a le => ascending a options.retries le, ?_⟩
  intro negative m given notNegative attempt later
  obtain ⟨n, count⟩ : ∃ n, attempt.toNat = n + 1 :=
    Nat.exists_eq_add_of_le' (UInt8.le_iff_toNat_le.1 later)
  rw [count, Nat.add_sub_cancel, retryDelay_of_not_negative given notNegative]
  -- The units are multiplied first, so the one rounding is that of the exact product.
  refine ⟨_, ?_, Duration.ofNanos_of_lt, Duration.ofNanos_of_le⟩
  have nearest := Duration.nearestEven_nanos (m.units * twoTo n)
  rwa [Nat.cast_mul, twoTo_eq, Nat.cast_pow, Nat.cast_ofNat, mul_div_right_comm] at nearest

/-- A factor of `2 ^ (-10)`: the first wait lies half way between two nanoseconds, and the last one
is too long. -/
theorem retryDelay_doubles_exactly_tie :
    let factor : Magnitude := ⟨twoTo 1064, by decide +kernel⟩
    let options := { standard with retryBackoff := .finite false factor, retries := 255 }
    options.retryBackoff.isNegative = false ∧
      NearestEven (factor.value * 2 ^ 0 * 10 ^ 9) 976562 ∧
      (options.retryDelay 1).nanos = 976562 ∧
      (options.retryDelay 254).nanos ≤ options.finalRetryDelay.nanos ∧
      options.finalRetryDelay = Duration.max := by
  intro factor options
  have notNegative : options.retryBackoff.isNegative = false := by decide +kernel
  have first : (options.retryDelay 1).nanos = 976562 := by decide +kernel
  obtain ⟨_, bounded, doubled⟩ := retryDelay_doubles_exactly options
  obtain ⟨nanos, nearest, short, long⟩ := doubled false factor rfl notNegative 1 (by decide)
  have fits : nanos < Duration.limit := by
    by_contra beyond
    have longest := congrArg Duration.nanos (long (Nat.not_lt.1 beyond))
    exact absurd (first.symm.trans longest) (by decide)
  have same : nanos = 976562 := (short fits).symm.trans first
  exact ⟨notNegative, same ▸ nearest, first, bounded 254 (by decide), by decide +kernel⟩

/-- An accepted time limit is longer than nothing exactly if it is more than half a nanosecond, and
it is less than the largest duration exactly if it is less than `2 ^ 64` seconds. -/
theorem validated_timeout_usable_iff (options : Options) (valid : options.validate = .ok ()) :
    ∃ m, options.timeoutSecs = .finite false m ∧
      (0 < options.timeout.nanos ↔ 1 / 2 < m.value * 10 ^ 9) ∧
      (options.timeout ≠ Duration.max ↔ m.value < 2 ^ 64) := by
  obtain ⟨m, given, nonzero⟩ := (validate_eq_ok_iff.1 valid).timeout
  have length : options.timeout = Duration.ofUnits m.units := by
    rw [timeout, given]
    exact Duration.ofSeconds_finite rfl
  refine ⟨m, given, ?_, ?_⟩
  · rw [length, Duration.ofUnits_pos_iff]
  · rw [length, ne_eq, Duration.ofUnits_eq_max_iff, not_le]

theorem validated_timeout_usable_iff_standard :
    standard.validate = .ok () ∧ ∃ m, standard.timeoutSecs = .finite false m ∧
      1 / 2 < m.value * 10 ^ 9 ∧ m.value < 2 ^ 64 := by
  have valid : standard.validate = .ok () := by decide +kernel
  obtain ⟨m, given, some_time, expressed⟩ := validated_timeout_usable_iff standard valid
  have twenty : standard.timeout.nanos = 20 * Duration.nanosPerSecond := by decide +kernel
  refine ⟨valid, m, given, some_time.1 (twenty ▸ by decide), expressed.1 fun longest => ?_⟩
  rw [longest] at twenty
  exact absurd twenty (by decide)

/-- A limit of a tenth of a nanosecond is accepted and comes to no time at all, and one of more than
`2 ^ 64` seconds is accepted and comes to what stands for a limit that cannot be expressed. -/
theorem validated_timeout_unusable :
    let short := { standard with timeoutSecs := Binary64.ofDecimal false 1 (-10) }
    let long := { standard with timeoutSecs := Binary64.ofDecimal false 1 20 }
    (short.validate = .ok () ∧ short.timeout = Duration.zero) ∧
      (long.validate = .ok () ∧ long.timeout = Duration.max) := by
  decide +kernel

end EnvBundle.Fetch.Options
