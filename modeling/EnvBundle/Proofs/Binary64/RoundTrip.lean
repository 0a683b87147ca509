import EnvBundle.Binary64.Layout
import EnvBundle.Proofs.Binary64.Shortest
import Mathlib.Algebra.Order.Field.Power
import Mathlib.Tactic.Linarith

/-!
A finite number comes back from its own text. The text has the digits of a decimal that the number
covers, and what is read from it is the number nearest to that decimal.
-/
namespace EnvBundle

namespace Text

/-- A number lies below the power of ten that its digits lead up to. -/
theorem value_lt_tenTo (digits : Nat) (exponent : Int) :
    (digits : ℚ) * 10 ^ exponent < 10 ^ (digitCount digits + exponent) := by
  have below : (digits : ℚ) < 10 ^ digitCount digits := by exact_mod_cast lt_tenTo_digitCount digits
  rw [zpow_add₀ (by norm_num), zpow_natCast]
  exact mul_lt_mul_of_pos_right below (zpow_pos (by norm_num) exponent)

theorem tenTo_le_value {digits : Nat} (given : digits ≠ 0) (exponent : Int) :
    (10 : ℚ) ^ (digitCount digits + exponent - 1) ≤ digits * 10 ^ exponent := by
  have above : (10 : ℚ) ^ (digitCount digits - 1) ≤ digits := by
    exact_mod_cast tenTo_digitCount_le given
  have first : digitCount digits + exponent - 1 =
      ((digitCount digits - 1 : Nat) : Int) + exponent := by
    have := digitCount_pos digits
    omega
  rw [first, zpow_add₀ (by norm_num), zpow_natCast]
  exact mul_le_mul_of_nonneg_right above (zpow_nonneg (by norm_num) exponent)

end Text

namespace Binary64

open Magnitude (step step_eq step_den_pos)

variable {m : Magnitude} {digits : Nat} {exponent : Int}

/-- What is covered, in quarters of a unit, is at least one and at most twice the magnitude. -/
theorem value_of_covers (nonzero : m.units ≠ 0)
    (covers : m.covers (digits * (step exponent).1) (step exponent).2 = true) :
    (1 : ℚ) ≤ 4 * unitsPerOne * (digits * 10 ^ exponent) ∧
      (4 : ℚ) * unitsPerOne * (digits * 10 ^ exponent) ≤ 8 * m.units := by
  obtain ⟨least, most⟩ := Magnitude.le_of_covers nonzero covers
  have positive : (0 : ℚ) < (step exponent).2 := by exact_mod_cast step_den_pos exponent
  have value : (digits : ℚ) * (step exponent).1 =
      4 * unitsPerOne * (digits * 10 ^ exponent) * (step exponent).2 := by
    rw [(div_eq_iff positive.ne').1 (step_eq exponent)]
    ring
  have least' : ((step exponent).2 : ℚ) ≤ digits * (step exponent).1 := by exact_mod_cast least
  have most' : (digits : ℚ) * (step exponent).1 ≤ 8 * (m.units * (step exponent).2) := by
    exact_mod_cast most
  rw [value] at least' most'
  constructor
  · exact le_of_mul_le_mul_right ((one_mul _).trans_le least') positive
  · exact le_of_mul_le_mul_right (most'.trans_eq (mul_assoc _ _ _).symm) positive

/-- The cuts at both ends keep out nothing that is covered by a magnitude. -/
theorem cuts_of_covers (nonzero : m.units ≠ 0) (given : digits ≠ 0)
    (covers : m.covers (digits * (step exponent).1) (step exponent).2 = true) :
    -330 ≤ Text.digitCount digits + exponent ∧ Text.digitCount digits + exponent ≤ 310 := by
  obtain ⟨least, most⟩ := value_of_covers nonzero covers
  have above := Text.tenTo_le_value given exponent
  have below := Text.value_lt_tenTo digits exponent
  have under : (m.units : ℚ) < twoTo 2098 := Nat.cast_lt.2 m.fits.1
  have unit : (0 : ℚ) < unitsPerOne := Nat.cast_pos.2 (twoTo_pos 1074)
  have unit_le : (4 : ℚ) * unitsPerOne ≤ tenTo 330 := by
    have fewer : 4 * unitsPerOne ≤ tenTo 330 := by decide +kernel
    exact_mod_cast fewer
  have le_unit : (8 : ℚ) * twoTo 2098 ≤ 4 * unitsPerOne * tenTo 310 := by
    have more : 8 * twoTo 2098 ≤ 4 * unitsPerOne * tenTo 310 := by decide +kernel
    exact_mod_cast more
  rw [tenTo_eq, Nat.cast_pow, Nat.cast_ofNat, ← zpow_natCast] at unit_le le_unit
  generalize (unitsPerOne : ℚ) = one at *
  generalize (twoTo 2098 : ℚ) = limit at *
  constructor
  · have positive : (1 : ℚ) < 10 ^ ((330 : Nat) + (Text.digitCount digits + exponent)) := by
      rw [zpow_add₀ (by norm_num)]
      calc (1 : ℚ)
          ≤ 4 * one * (digits * 10 ^ exponent) := least
        _ < 4 * one * 10 ^ (Text.digitCount digits + exponent) := by gcongr
        _ ≤ 10 ^ ((330 : Nat) : Int) * 10 ^ (Text.digitCount digits + exponent) := by gcongr
    have := (one_lt_zpow_iff_right₀ (by norm_num)).1 positive
    omega
  · have less : (10 : ℚ) ^ (Text.digitCount digits + exponent - 1) < 10 ^ ((310 : Nat) : Int) := by
      nlinarith
    have := (zpow_lt_zpow_iff_right₀ (by norm_num)).1 less
    omega

theorem ofUnits_of_covers (negative : Bool) {num den : Nat} (positive : 0 < den)
    (covers : m.covers (4 * num) den = true) : ofUnits negative num den = .finite negative m := by
  unfold ofUnits
  rw [Magnitude.nearest?_of_covers positive covers]

/-- A decimal that a magnitude covers is read as that magnitude. -/
theorem ofDecimal_of_covers (negative : Bool) (nonzero : m.units ≠ 0)
    (covers : m.covers (digits * (step exponent).1) (step exponent).2 = true) :
    ofDecimal negative digits exponent = .finite negative m := by
  have given : digits ≠ 0 := by
    rintro rfl
    exact Magnitude.ne_zero_of_covers nonzero (step_den_pos exponent) covers (Nat.zero_mul _)
  obtain ⟨low, high⟩ := cuts_of_covers nonzero given covers
  rw [ofDecimal, if_neg (not_or.2 ⟨given, Int.not_lt.2 low⟩), if_neg (Int.not_lt.2 high)]
  rw [step] at covers
  generalize unitsPerOne = one at *
  split at covers
  · next whole =>
    rw [if_pos whole]
    refine ofUnits_of_covers negative Nat.one_pos (Eq.trans ?_ covers)
    congr 1
    ring
  · next fraction =>
    rw [if_neg fraction]
    refine ofUnits_of_covers negative (tenTo_pos _) (Eq.trans ?_ covers)
    congr 1
    ring

theorem digitRun_digits {digits : Text} (all : ∀ c ∈ digits, c.isDigit = true) :
    Text.digitRun digits = (digits, []) := by
  have run := @Text.digitRun_append digits [] all nofun
  rwa [List.append_nil] at run

/-- The text of a decimal with this value: a run of digits with at most one point among them. -/
structure Writes (t : Text) (value : ℚ) : Prop where
  first : ∃ c body, t = c :: body ∧ c.isDigit = true
  read : ∀ negative, ∃ (n : Nat) (e : Int),
    unsigned? negative t = some (ofDecimal negative n e) ∧ (n : ℚ) * 10 ^ e = value

theorem exists_first_digit {t rest : Text} (given : t ≠ []) (digits : ∀ c ∈ t, c.isDigit = true) :
    ∃ c body, t ++ rest = c :: body ∧ c.isDigit = true := by
  obtain ⟨c, body, rfl⟩ := List.exists_cons_of_ne_nil given
  exact ⟨c, body ++ rest, rfl, digits c List.mem_cons_self⟩

theorem writes_whole {whole : Text} (given : whole ≠ [])
    (digits : ∀ c ∈ whole, c.isDigit = true) : Writes whole (Text.ofDigits 10 whole) := by
  refine ⟨?_, fun negative => ⟨Text.ofDigits 10 whole, 0, ?_, ?_⟩⟩
  · have first := @exists_first_digit whole [] given digits
    rwa [List.append_nil] at first
  · unfold unsigned?
    rw [digitRun_digits digits]
    simp only [given, false_and, if_false, List.append_nil, exponent?, Option.map_some]
    rfl
  · rw [zpow_zero, mul_one]

theorem writes_point {whole fraction : Text} (given : whole ≠ [])
    (digits : ∀ c ∈ whole, c.isDigit = true) (digits' : ∀ c ∈ fraction, c.isDigit = true) :
    Writes (whole ++ '.' :: fraction)
      (Text.ofDigits 10 (whole ++ fraction) * 10 ^ (-fraction.length : Int)) := by
  have point : ∀ c ∈ ('.' :: fraction).head?, c.isDigit = false := by
    intro c head
    cases head
    decide
  refine ⟨exists_first_digit given digits,
    fun negative => ⟨Text.ofDigits 10 (whole ++ fraction), -fraction.length, ?_, rfl⟩⟩
  unfold unsigned?
  rw [Text.digitRun_append digits point]
  simp only [digitRun_digits digits', given, false_and, if_false, exponent?, Option.map_some,
    Int.zero_sub]

theorem ne_of_isDigit {c letter : Char} (digit : c.isDigit = true)
    (unlike : letter.isDigit = false) : c ≠ letter := by
  rintro rfl
  rw [digit] at unlike
  cases unlike

theorem signed_digit (negative : Bool) {c : Char} (digit : c.isDigit = true) (body : Text) :
    signed ((if negative then ['-'] else []) ++ c :: body) = (negative, c :: body) := by
  cases negative with
  | true => rfl
  | false =>
      rw [if_neg Bool.false_ne_true, List.nil_append]
      unfold signed
      split
      · next head => exact absurd (List.cons.inj head).1 (ne_of_isDigit digit (by decide))
      · next head => exact absurd (List.cons.inj head).1 (ne_of_isDigit digit (by decide))
      · rfl

/-- What begins with a digit is neither a word nor has a sign of its own. -/
theorem ofText_of_unsigned? {negative : Bool} {c : Char} {body : Text} {x : Binary64}
    (digit : c.isDigit = true) (read : unsigned? negative (c :: body) = some x) :
    ofText ((if negative then ['-'] else []) ++ c :: body) = .ok x := by
  have no_word : ∀ {letter : Char} {word : Text}, letter.isDigit = false →
      (c :: body).map Char.toLower ≠ letter :: word := by
    intro letter word unlike same
    rw [List.map_cons, Text.toLower_of_isDigit digit] at same
    exact ne_of_isDigit digit unlike (List.cons.inj same).1
  have inf : (c :: body).map Char.toLower ≠ "inf".toList := @no_word 'i' ['n', 'f'] (by decide)
  have infinity : (c :: body).map Char.toLower ≠ "infinity".toList :=
    @no_word 'i' ['n', 'f', 'i', 'n', 'i', 't', 'y'] (by decide)
  have nan : (c :: body).map Char.toLower ≠ "nan".toList := @no_word 'n' ['a', 'n'] (by decide)
  rw [ofText, if_neg (List.append_ne_nil_of_right_ne_nil _ (List.cons_ne_nil c body)),
    signed_digit negative digit]
  dsimp only
  rw [if_neg (not_or.2 ⟨inf, infinity⟩), if_neg nan, read]

end Binary64

namespace Binary64.Layout

open Magnitude (Decimal)

variable {d : Decimal}

theorem isDigit_of_mem_zeros {n : Int} {c : Char} (member : c ∈ zeros n) : c.isDigit = true := by
  rw [List.eq_of_mem_replicate member]
  decide

theorem length_zeros (n : Int) : (zeros n).length = n.toNat := List.length_replicate

theorem isDigit_of_mem_append {s t : Text} (digits : ∀ c ∈ s, c.isDigit = true)
    (digits' : ∀ c ∈ t, c.isDigit = true) : ∀ c ∈ s ++ t, c.isDigit = true := by
  intro c member
  exact (List.mem_append.1 member).elim (digits c) (digits' c)

/-- A decimal written without exponent is read with its own value. -/
theorem writes_placed (given : d.digits ≠ []) (digits : ∀ c ∈ d.digits, c.isDigit = true) :
    Writes (plain.placed d) (Text.ofDigits 10 d.digits * 10 ^ (d.point - d.digits.length)) := by
  have zero_digits : ∀ {n}, ∀ c ∈ zeros n, c.isDigit = true := fun _ => isDigit_of_mem_zeros
  unfold placed
  dsimp only
  split
  · next below =>
    have written := writes_point (List.cons_ne_nil '0' []) (@zero_digits 1)
      (isDigit_of_mem_append (@zero_digits (-d.point)) digits)
    have value : Text.ofDigits 10 (['0'] ++ (zeros (-d.point) ++ d.digits)) =
        Text.ofDigits 10 d.digits :=
      (Text.ofDigits_zeros_append 10 1 _).trans (Text.ofDigits_zeros_append 10 _ _)
    have exponent : (-(zeros (-d.point) ++ d.digits).length : Int) = d.point - d.digits.length := by
      rw [List.length_append, length_zeros]
      omega
    rwa [value, exponent] at written
  · next above =>
    split
    · next whole =>
      obtain ⟨n, count⟩ : ∃ n : Nat, d.point - d.digits.length = n :=
        ⟨(d.point - d.digits.length).toNat, by omega⟩
      have written := writes_whole (List.append_ne_nil_of_left_ne_nil given _)
        (isDigit_of_mem_append digits (@zero_digits n))
      have value : (Text.ofDigits 10 (d.digits ++ zeros n) : ℚ) =
          Text.ofDigits 10 d.digits * 10 ^ (n : Int) := by
        rw [Text.ofDigits_append, zeros, Text.ofDigits_zeros, List.length_replicate,
          Int.toNat_natCast, zpow_natCast]
        push_cast
        ring
      rw [value] at written
      rwa [count, plain, if_neg Bool.false_ne_true, List.append_nil]
    · next part =>
      have size : (d.digits.take d.point.toNat).length = d.point.toNat := by
        rw [List.length_take]
        omega
      have front : d.digits.take d.point.toNat ≠ [] := by
        rw [ne_eq, ← List.length_eq_zero_iff, size]
        omega
      have before : ∀ c ∈ d.digits.take d.point.toNat, c.isDigit = true :=
        fun c member => digits c (List.mem_of_mem_take member)
      have behind : ∀ c ∈ d.digits.drop d.point.toNat, c.isDigit = true :=
        fun c member => digits c (List.mem_of_mem_drop member)
      have written := writes_point front before behind
      have exponent : (-(d.digits.drop d.point.toNat).length : Int) =
          d.point - d.digits.length := by
        rw [List.length_drop]
        omega
      rwa [List.take_append_drop, exponent] at written

/-- The text of a magnitude has a value that only this magnitude is read from. -/
theorem exists_written (m : Magnitude) :
    ∃ value, Writes (plain.magnitude m) value ∧
      ∀ (negative : Bool) (n : Nat) (e : Int), (n : ℚ) * 10 ^ e = value →
        ofDecimal negative n e = .finite negative m := by
  by_cases nothing : m.units = 0
  · have zero : m = Magnitude.zero := by
      obtain ⟨units, fits⟩ := m
      dsimp only at nothing
      subst nothing
      rfl
    subst zero
    refine ⟨Text.ofDigits 10 ['0'],
      writes_whole (List.cons_ne_nil '0' []) fun _ => @isDigit_of_mem_zeros 1 _, ?_⟩
    intro negative n e value
    have none : n = 0 := by
      rw [show Text.ofDigits 10 ['0'] = 0 from rfl, Nat.cast_zero] at value
      exact_mod_cast (mul_eq_zero.1 value).resolve_right (zpow_ne_zero e (by norm_num))
    rw [ofDecimal, if_pos (.inl none)]
  · obtain ⟨digits, some_value, covers⟩ := Magnitude.covers_shortest .upward nothing
    have given : (m.shortest .upward).digits ≠ [] := by
      intro none
      rw [none] at some_value
      exact some_value rfl
    refine ⟨_, ?_, fun negative n e value =>
      ofDecimal_of_covers negative nothing ((Magnitude.covers_step_congr value).trans covers)⟩
    rw [magnitude, if_neg nothing]
    exact writes_placed given digits

end Binary64.Layout

namespace Binary64

/-- A number without a sign is written with a digit in front. -/
theorem exists_digit_toText (m : Magnitude) :
    ∃ c body, (finite false m).toText .plain = c :: body ∧ c.isDigit = true := by
  obtain ⟨_, written, _⟩ := Layout.exists_written m
  exact written.first

/-- What is written without exponent is read back, the sign of zero and the words for what is no
finite number included. -/
theorem ofText_toText (x : Binary64) : ofText (x.toText .plain) = .ok x := by
  cases x with
  | nan => rfl
  | infinity negative => cases negative <;> rfl
  | finite negative m =>
      obtain ⟨value, ⟨⟨c, body, cons, digit⟩, read⟩, unique⟩ := Layout.exists_written m
      obtain ⟨n, e, read, same⟩ := read negative
      rw [cons] at read
      rw [toText, cons, ofText_of_unsigned? digit read, unique negative n e same]

theorem toText_injective : Function.Injective (toText .plain) := by
  intro x y same
  have read := ofText_toText x
  rw [same, ofText_toText y] at read
  exact (Except.ok.inj read).symm

end Binary64

end EnvBundle
