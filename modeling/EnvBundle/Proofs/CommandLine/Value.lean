import EnvBundle.CommandLine.Value
import EnvBundle.Proofs.Binary64.RoundTrip
import EnvBundle.Proofs.Text.Utf8

/-!
What a flag's value is read as when it was written from a number, a text or a path. The value of a
flag is put into an invocation that has none yet.
-/
namespace EnvBundle.CommandLine

section

variable {t : Text}

/-- Digits are read to the end unless the number that they write goes too far. -/
theorem boundedDigits_eq_ok (n : Nat) (digits : ∀ c ∈ t, c.isDigit = true)
    (small : 10 ^ t.length * n + Text.ofDigits 10 t < twoTo 63) :
    boundedDigits false n t = .ok ((10 ^ t.length * n + Text.ofDigits 10 t : Nat) : Int) := by
  induction t generalizing n with
  | nil =>
      rw [boundedDigits, if_neg Bool.false_ne_true]
      simp [Text.ofDigits]
  | cons c t ih =>
      have digit : c.isDigit = true := digits c List.mem_cons_self
      have total : 10 ^ (c :: t).length * n + Text.ofDigits 10 (c :: t) =
          10 ^ t.length * (n * 10 + Text.digitValue c) + Text.ofDigits 10 t := by
        rw [← Text.foldl_digits, ← Text.foldl_digits, List.foldl_cons, Nat.mul_comm n]
      have next : n * 10 + Text.digitValue c ≤
          10 ^ t.length * (n * 10 + Text.digitValue c) :=
        Nat.le_mul_of_pos_left _ (Nat.pow_pos (by decide))
      rw [total] at small ⊢
      have below : ¬ twoTo 63 ≤ n * 10 + Text.digitValue c := by omega
      rw [boundedDigits, digit, Bool.not_true, if_neg Bool.false_ne_true,
        if_neg Bool.false_ne_true, if_neg below]
      exact ih _ (fun c member => digits c (List.mem_cons_of_mem _ member)) small

theorem wholeNumber_eq {c : Char} (digit : c.isDigit = true) :
    wholeNumber (c :: t) = boundedDigits false 0 (c :: t) := by
  unfold wholeNumber
  split
  · next head => cases head
  · next head =>
    cases head
    cases digit
  · next head =>
    cases head
    cases digit
  · next head =>
    cases head
    cases digit
  · next head =>
    cases head
    cases digit
  · rfl

end

/-- A byte comes back from its own text. -/
theorem byte_ofNat (n : UInt8) : byte (Text.ofNat n.toNat) = .ok n := by
  have less : n.toNat < 256 := n.toNat_lt
  obtain ⟨c, t, cons⟩ := List.exists_cons_of_ne_nil (Text.ofNat_ne_nil n.toNat)
  have digits : ∀ c ∈ Text.ofNat n.toNat, c.isDigit = true := fun _ => Text.isDigit_of_mem_ofNat
  have limit : 256 ≤ twoTo 63 := by decide
  have whole : wholeNumber (Text.ofNat n.toNat) = .ok (n.toNat : Int) := by
    have read := @boundedDigits_eq_ok (Text.ofNat n.toNat) 0 digits
    rw [Nat.mul_zero, Nat.zero_add, Text.ofDigits_ofNat] at read
    rw [cons, wholeNumber_eq (digits c (cons ▸ List.mem_cons_self)), ← cons]
    exact read (by omega)
  rw [byte, whole]
  dsimp only
  rw [if_pos ⟨Int.natCast_nonneg _, by omega⟩, Int.toNat_natCast, UInt8.ofNat_toNat]

theorem decode_encode (t : Text) : decode (Utf8.encode t) = .ok t := by
  rw [decode, Utf8.decode?_encode]

theorem floatValue_toText (flag : ValueFlag) (x : Binary64) :
    floatValue flag (Utf8.encode (x.toText .plain)) = .ok x := by
  rw [floatValue, formed, decode_encode]
  dsimp only
  rw [Binary64.ofText_toText]
  rfl

theorem byteValue_ofNat (flag : ValueFlag) (n : UInt8) :
    byteValue flag (Utf8.encode (Text.ofNat n.toNat)) = .ok n := by
  rw [byteValue, formed, decode_encode]
  dsimp only
  rw [byte_ofNat]
  rfl

end EnvBundle.CommandLine
