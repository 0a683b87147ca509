import EnvBundle.Proofs.Text.Utf8
import Mathlib.Tactic.SplitIfs

/-!
Reading is strict: a text is read from its own bytes and from no others. Overlong forms, surrogates
and what lies beyond the last character are kept out by the range of the second byte.
-/
namespace EnvBundle.Utf8

/-- A first byte of two, three or four, and what it leaves to be read. -/
inductive Opens (n : Nat) : Pending → Prop
  | two (above : 0xC2 ≤ n) (below : n < 0xE0) : Opens n ⟨n - 0xC0, 0x80, 0xBF, 1⟩
  | three {low high : Nat} (above : 0xE0 ≤ n) (below : n < 0xF0) (least : 0x80 ≤ low)
      (most : high ≤ 0xBF) (long : n = 0xE0 → 0xA0 ≤ low) (valid : n = 0xED → high ≤ 0x9F) :
      Opens n ⟨n - 0xE0, low, high, 2⟩
  | four {low high : Nat} (above : 0xF0 ≤ n) (below : n ≤ 0xF4) (least : 0x80 ≤ low)
      (most : high ≤ 0xBF) (long : n = 0xF0 → 0x90 ≤ low) (valid : n = 0xF4 → high ≤ 0x8F) :
      Opens n ⟨n - 0xF0, low, high, 3⟩

theorem opening_cases (b : UInt8) :
    (b.toNat < 0x80 ∧ opening b = ([.char (Char.ofNat b.toNat)], none)) ∨
      opening b = ([.broken], none) ∨ ∃ p, Opens b.toNat p ∧ opening b = ([], some p) := by
  unfold opening
  generalize b.toNat = n
  dsimp only
  split_ifs with one early two e0 ed three f0 four f4
  · exact .inl ⟨one, rfl⟩
  · exact .inr (.inl rfl)
  · exact .inr (.inr ⟨_, .two (by omega) (by omega), rfl⟩)
  iterate 3
    exact .inr (.inr ⟨_, .three (by omega) (by omega) (by omega) (by omega) (by omega) (by omega),
      rfl⟩)
  iterate 3
    exact .inr (.inr ⟨_, .four (by omega) (by omega) (by omega) (by omega) (by omega) (by omega),
      rfl⟩)
  · exact .inr (.inl rfl)

theorem toNat_ofNat_of_valid {n : Nat} (valid : n < 0xD800 ∨ 0xDFFF < n ∧ n < 0x110000) :
    (Char.ofNat n).toNat = n := by
  rw [Char.ofNat, dif_pos valid]
  rfl

section

variable {bits low high missing : Nat} {bytes : Bytes} {c : Char} {more : List Piece}

/-- The byte that ends a character. -/
theorem pieces_last_eq_cons (read : pieces (some ⟨bits, low, high, 1⟩) bytes = .char c :: more) :
    ∃ b rest, bytes = b :: rest ∧ (low ≤ b.toNat ∧ b.toNat ≤ high) ∧
      c = Char.ofNat (bits * 64 + (b.toNat - 0x80)) ∧ pieces none rest = more := by
  cases bytes with
  | nil => cases read
  | cons b rest =>
      rw [pieces] at read
      split at read
      · next within =>
        rw [if_pos rfl] at read
        obtain ⟨head, tail⟩ := List.cons.inj read
        exact ⟨b, rest, rfl, within, (Piece.char.inj head).symm, tail⟩
      · cases read

/-- A byte after which more are missing. -/
theorem pieces_next_eq_cons (unfinished : missing ≠ 1)
    (read : pieces (some ⟨bits, low, high, missing⟩) bytes = .char c :: more) :
    ∃ b rest, bytes = b :: rest ∧ (low ≤ b.toNat ∧ b.toNat ≤ high) ∧
      pieces (some ⟨bits * 64 + (b.toNat - 0x80), 0x80, 0xBF, missing - 1⟩) rest =
        .char c :: more := by
  cases bytes with
  | nil => cases read
  | cons b rest =>
      rw [pieces] at read
      split at read
      · next within =>
        exact ⟨b, rest, rfl, within, read⟩
      · cases read

end

theorem ofNat_eq {b : UInt8} {n : Nat} (same : n = b.toNat) : UInt8.ofNat n = b := by
  rw [same, UInt8.ofNat_toNat]

section

variable {a b c d : UInt8} {n : Nat}

theorem encodeChar_two (above : 0x80 ≤ n) (below : n < 0x800) (first : 0xC0 + n / 64 = a.toNat)
    (second : 0x80 + n % 64 = b.toNat) : encodeChar (Char.ofNat n) = [a, b] := by
  rw [encodeChar, toNat_ofNat_of_valid (.inl (by omega))]
  rw [if_neg (by omega), if_pos below, ofNat_eq first, ofNat_eq second]

theorem encodeChar_three (above : 0x800 ≤ n) (below : n < 0x10000)
    (valid : n < 0xD800 ∨ 0xDFFF < n) (first : 0xE0 + n / 4096 = a.toNat)
    (second : 0x80 + n / 64 % 64 = b.toNat) (third : 0x80 + n % 64 = c.toNat) :
    encodeChar (Char.ofNat n) = [a, b, c] := by
  rw [encodeChar, toNat_ofNat_of_valid (by omega)]
  rw [if_neg (by omega), if_neg (by omega), if_pos below, ofNat_eq first, ofNat_eq second,
    ofNat_eq third]

theorem encodeChar_four (above : 0x10000 ≤ n) (below : n < 0x110000)
    (first : 0xF0 + n / 262144 = a.toNat) (second : 0x80 + n / 4096 % 64 = b.toNat)
    (third : 0x80 + n / 64 % 64 = c.toNat) (fourth : 0x80 + n % 64 = d.toNat) :
    encodeChar (Char.ofNat n) = [a, b, c, d] := by
  rw [encodeChar, toNat_ofNat_of_valid (by omega)]
  rw [if_neg (by omega), if_neg (by omega), if_neg (by omega), ofNat_eq first, ofNat_eq second,
    ofNat_eq third, ofNat_eq fourth]

end

/-- The character that comes out of a first byte and those after it is written with them. -/
theorem Opens.encoded {first : UInt8} {p : Pending} (opens : Opens first.toNat p) {bytes : Bytes}
    {c : Char} {more : List Piece} (read : pieces (some p) bytes = .char c :: more) :
    ∃ rest, first :: bytes = encodeChar c ++ rest ∧ pieces none rest = more := by
  cases opens with
  | two above below =>
      obtain ⟨second, rest, rfl, within, char, read⟩ := pieces_last_eq_cons read
      generalize value : (first.toNat - 0xC0) * 64 + (second.toNat - 0x80) = n at char
      have written : encodeChar (Char.ofNat n) = [first, second] :=
        encodeChar_two (by omega) (by omega) (by omega) (by omega)
      exact ⟨rest, by rw [char, written]; rfl, read⟩
  | three above below least most long valid =>
      obtain ⟨second, rest, rfl, within, read⟩ := pieces_next_eq_cons (by decide) read
      obtain ⟨third, rest, rfl, within', char, read⟩ := pieces_last_eq_cons read
      generalize value : ((first.toNat - 0xE0) * 64 + (second.toNat - 0x80)) * 64 +
        (third.toNat - 0x80) = n at char
      have written : encodeChar (Char.ofNat n) = [first, second, third] :=
        encodeChar_three (by omega) (by omega) (by omega) (by omega) (by omega) (by omega)
      exact ⟨rest, by rw [char, written]; rfl, read⟩
  | four above below least most long valid =>
      obtain ⟨second, rest, rfl, within, read⟩ := pieces_next_eq_cons (by decide) read
      obtain ⟨third, rest, rfl, within', read⟩ := pieces_next_eq_cons (by decide) read
      obtain ⟨fourth, rest, rfl, within'', char, read⟩ := pieces_last_eq_cons read
      generalize value : (((first.toNat - 0xF0) * 64 + (second.toNat - 0x80)) * 64 +
        (third.toNat - 0x80)) * 64 + (fourth.toNat - 0x80) = n at char
      have written : encodeChar (Char.ofNat n) = [first, second, third, fourth] :=
        encodeChar_four (by omega) (by omega) (by omega) (by omega) (by omega) (by omega)
      exact ⟨rest, by rw [char, written]; rfl, read⟩

/-- The first character of what is read is written with the first bytes. -/
theorem pieces_eq_char_cons {bytes : Bytes} {c : Char} {more : List Piece}
    (read : pieces none bytes = .char c :: more) :
    ∃ rest, bytes = encodeChar c ++ rest ∧ pieces none rest = more := by
  cases bytes with
  | nil => cases read
  | cons first bytes =>
      rcases opening_cases first with ⟨one, opened⟩ | broken | ⟨p, opens, opened⟩
      · rw [pieces, opened] at read
        obtain ⟨head, tail⟩ := List.cons.inj read
        refine ⟨bytes, ?_, tail⟩
        rw [← Piece.char.inj head, encodeChar, toNat_ofNat_of_valid (.inl (by omega))]
        rw [if_pos one, UInt8.ofNat_toNat]
        rfl
      · rw [pieces, broken] at read
        cases read
      · rw [pieces_opening opened] at read
        exact opens.encoded read

theorem mapM_char?_eq_some {read : List Piece} {t : Text} (all : read.mapM Piece.char? = some t) :
    read = t.map .char := by
  induction read generalizing t with
  | nil =>
      cases all
      rfl
  | cons piece read ih =>
      rw [List.mapM_cons] at all
      cases piece with
      | broken => cases all
      | char c =>
          cases rest : read.mapM Piece.char? with
          | none =>
              rw [rest] at all
              cases all
          | some t =>
              rw [rest] at all
              cases all
              rw [ih rest, List.map_cons]

/-- Only the bytes of a text are read as that text. -/
theorem decode?_eq_some_iff {bytes : Bytes} {t : Text} :
    decode? bytes = some t ↔ bytes = encode t := by
  constructor
  · intro decoded
    have read : pieces none bytes = t.map .char := mapM_char?_eq_some decoded
    clear decoded
    induction t generalizing bytes with
    | nil =>
        cases bytes with
        | nil => rfl
        | cons b rest => exact absurd read (pieces_cons_ne_nil b rest)
    | cons c t ih =>
        obtain ⟨rest, rfl, tail⟩ := pieces_eq_char_cons read
        rw [ih tail, encode_cons]
  · rintro rfl
    exact decode?_encode t

end EnvBundle.Utf8
