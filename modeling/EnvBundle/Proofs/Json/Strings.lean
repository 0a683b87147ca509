import EnvBundle.Json.Literal
import EnvBundle.Proofs.Json.Writing
import EnvBundle.Proofs.Text.Decoding

/-!
A string is read as the text it was written for, whichever spelling each character has, and what is
read as a string was written so. Every part is read whatever follows it.
-/
namespace EnvBundle.Json

theorem isHexDigit_of_writesDigit {n : Nat} {c : Char} (digit : WritesDigit n c) :
    Text.isHexDigit c = true := by
  have lower : lowerDigits.all Text.isHexDigit = true := by decide
  have upper : upperDigits.all Text.isHexDigit = true := by decide
  rcases digit with found | found
  · exact List.all_eq_true.1 lower c (List.mem_of_getElem? found)
  · exact List.all_eq_true.1 upper c (List.mem_of_getElem? found)

theorem digitValue_of_writesDigit {n : Nat} {c : Char} (digit : WritesDigit n c) :
    Text.digitValue c = n := by
  have lower : ∀ i : Fin 16, Text.digitValue (lowerDigits[i]) = i := by decide
  have upper : ∀ i : Fin 16, Text.digitValue (upperDigits[i]) = i := by decide
  rcases digit with found | found
  · obtain ⟨small, rfl⟩ := List.getElem?_eq_some_iff.1 found
    exact lower ⟨n, small⟩
  · obtain ⟨small, rfl⟩ := List.getElem?_eq_some_iff.1 found
    exact upper ⟨n, small⟩

theorem lt_of_writesDigit {n : Nat} {c : Char} (digit : WritesDigit n c) : n < 16 := by
  rcases digit with found | found
  · exact (List.getElem?_eq_some_iff.1 found).1
  · exact (List.getElem?_eq_some_iff.1 found).1

theorem writesDigit_of_isHexDigit {c : Char} (digit : Text.isHexDigit c = true) :
    WritesDigit (Text.digitValue c) c := by
  have ascii : c.toNat < 128 := by
    simp only [Text.isHexDigit, Bool.or_eq_true, Bool.and_eq_true, decide_eq_true_eq] at digit
    rcases digit with (decimal | ⟨_, small⟩) | ⟨_, small⟩
    · have := (Char.isDigit_iff_toNat.1 decimal).2
      simp only [Char.reduceToNat] at this
      omega
    · exact Nat.lt_of_le_of_lt small (by decide)
    · exact Nat.lt_of_le_of_lt small (by decide)
  have all : ∀ n : Fin 128, Text.isHexDigit (Char.ofNat n) = true →
      lowerDigits[Text.digitValue (Char.ofNat n)]? = some (Char.ofNat n) ∨
        upperDigits[Text.digitValue (Char.ofNat n)]? = some (Char.ofNat n) := by decide
  have found := all ⟨c.toNat, ascii⟩
  simp only [Char.ofNat_toNat] at found
  exact found digit

theorem hexUnit_eq_ok_iff {t rest : Text} {n : Nat} :
    hexUnit t = .ok (n, rest) ↔ ∃ digits, WritesUnit n digits ∧ t = digits ++ rest := by
  constructor
  · intro read
    unfold hexUnit at read
    split at read
    · cases read
    · split at read
      · next a b c d rest _ =>
        split at read
        · next all =>
          cases read
          simp only [List.all_cons, List.all_nil, Bool.and_true, Bool.and_eq_true] at all
          obtain ⟨ha, hb, hc, hd⟩ := all
          refine ⟨[a, b, c, d], ?_, rfl⟩
          apply WritesUnit.digits (writesDigit_of_isHexDigit ha) (writesDigit_of_isHexDigit hb)
            (writesDigit_of_isHexDigit hc) (writesDigit_of_isHexDigit hd)
          simp only [Text.ofDigits, List.foldl_cons, List.foldl_nil]
          omega
        · cases read
      · cases read
  · rintro ⟨digits, unit, rfl⟩
    cases unit with
    | @digits _ _ _ _ a b c d first second third last sum =>
        have four : ¬Text.byteCount (a :: b :: c :: d :: rest) < 4 := by
          have := a.utf8Size_pos
          have := b.utf8Size_pos
          have := c.utf8Size_pos
          have := d.utf8Size_pos
          simp only [Text.byteCount]
          omega
        have all : [a, b, c, d].all Text.isHexDigit = true := by
          simp [isHexDigit_of_writesDigit first, isHexDigit_of_writesDigit second,
            isHexDigit_of_writesDigit third, isHexDigit_of_writesDigit last]
        have value : Text.ofDigits 16 [a, b, c, d] = n := by
          simp only [Text.ofDigits, List.foldl_cons, List.foldl_nil,
            digitValue_of_writesDigit first, digitValue_of_writesDigit second,
            digitValue_of_writesDigit third, digitValue_of_writesDigit last]
          omega
        change hexUnit (a :: b :: c :: d :: rest) = _
        rw [hexUnit, if_neg four]
        simp only [if_pos all, value]

theorem lt_of_writesUnit {n : Nat} {digits : Text} (unit : WritesUnit n digits) : n < 0x10000 := by
  cases unit with
  | digits first second third last sum =>
      have := lt_of_writesDigit first
      have := lt_of_writesDigit second
      have := lt_of_writesDigit third
      have := lt_of_writesDigit last
      omega

theorem hexUnit_append {n : Nat} {digits : Text} (unit : WritesUnit n digits) (rest : Text) :
    hexUnit (digits ++ rest) = .ok (n, rest) := hexUnit_eq_ok_iff.2 ⟨digits, unit, rfl⟩

theorem not_surrogate (c : Char) : isLeading c.toNat = false ∧ isTrailing c.toNat = false := by
  have valid := Utf8.valid_toNat c
  simp only [isLeading, isTrailing, Bool.and_eq_false_iff, decide_eq_false_iff_not]
  omega

theorem toNat_ofNat_of_not_surrogate {n : Nat} (small : n < 0x10000)
    (noLeading : isLeading n = false) (noTrailing : isTrailing n = false) :
    (Char.ofNat n).toNat = n := by
  simp only [isLeading, Bool.and_eq_false_iff, decide_eq_false_iff_not] at noLeading
  simp only [isTrailing, Bool.and_eq_false_iff, decide_eq_false_iff_not] at noTrailing
  exact Utf8.toNat_ofNat_of_valid (by omega)

theorem isLeading_iff {n : Nat} : isLeading n = true ↔ ∃ i < 0x400, n = 0xD800 + i := by
  simp only [isLeading, Bool.and_eq_true, decide_eq_true_eq]
  constructor
  · rintro ⟨low, high⟩
    exact ⟨n - 0xD800, by omega, by omega⟩
  · rintro ⟨i, small, rfl⟩
    omega

theorem isTrailing_iff {n : Nat} : isTrailing n = true ↔ ∃ j < 0x400, n = 0xDC00 + j := by
  simp only [isTrailing, Bool.and_eq_true, decide_eq_true_eq]
  constructor
  · rintro ⟨low, high⟩
    exact ⟨n - 0xDC00, by omega, by omega⟩
  · rintro ⟨i, small, rfl⟩
    omega

/-- Two halves of ten bits make up the character that is so far beyond sixteen bits. -/
theorem paired_eq_iff {i j : Nat} (left : i < 0x400) (right : j < 0x400) {c : Char} :
    paired (0xD800 + i) (0xDC00 + j) = c ↔ c.toNat = 0x10000 + i * 0x400 + j := by
  have sum : 0x10000 + (0xD800 + i - 0xD800) * 0x400 + (0xDC00 + j - 0xDC00) =
      0x10000 + i * 0x400 + j := by omega
  rw [paired, sum]
  constructor
  · rintro rfl
    exact Utf8.toNat_ofNat_of_valid (by omega)
  · intro same
    rw [← same, Char.ofNat_toNat]

theorem between_eq_ok_iff {mark : Char} {t rest : Text} :
    between mark t = .ok rest ↔ t = mark :: rest := by
  cases t with
  | nil => exact iff_of_false nofun nofun
  | cons c t =>
      rw [between]
      split
      · next same => simp [same]
      · next apart => simp [apart]

theorem secondHalf_eq_ok_iff {leading : Nat} {t rest : Text} {c : Char} :
    secondHalf leading t = .ok (c, rest) ↔
      ∃ trailing digits, WritesUnit trailing digits ∧ isTrailing trailing = true ∧
        paired leading trailing = c ∧ t = '\\' :: 'u' :: (digits ++ rest) := by
  constructor
  · intro read
    unfold secondHalf at read
    split at read
    · cases read
    · next u backslash =>
      split at read
      · cases read
      · next v letter =>
        split at read
        · cases read
        · next trailing w unit =>
          split at read
          · next trails =>
            simp only [Except.ok.injEq, Prod.mk.injEq] at read
            obtain ⟨whole, rfl⟩ := read
            obtain ⟨digits, written, rfl⟩ := hexUnit_eq_ok_iff.1 unit
            rw [between_eq_ok_iff.1 backslash, between_eq_ok_iff.1 letter]
            exact ⟨trailing, digits, written, trails, whole, rfl⟩
          · cases read
  · rintro ⟨trailing, digits, written, trails, whole, rfl⟩
    have backslash : between '\\' ('\\' :: 'u' :: (digits ++ rest)) =
        .ok ('u' :: (digits ++ rest)) := between_eq_ok_iff.2 rfl
    have letter : between 'u' ('u' :: (digits ++ rest)) = .ok (digits ++ rest) :=
      between_eq_ok_iff.2 rfl
    simp only [secondHalf, backslash, letter, hexUnit_append written, if_pos trails, whole]

theorem unicodeEscape_eq_ok_iff {t rest : Text} {c : Char} :
    unicodeEscape t = .ok (c, rest) ↔ ∃ s, WritesChar c ('\\' :: 'u' :: s) ∧ t = s ++ rest := by
  constructor
  · intro read
    unfold unicodeEscape at read
    split at read
    · cases read
    · next n u unit =>
      obtain ⟨digits, written, rfl⟩ := hexUnit_eq_ok_iff.1 unit
      split at read
      · cases read
      · next noTrailing =>
        split at read
        · next leads =>
          obtain ⟨trailing, more, second, trails, whole, rfl⟩ := secondHalf_eq_ok_iff.1 read
          obtain ⟨i, left, rfl⟩ := isLeading_iff.1 leads
          obtain ⟨j, right, rfl⟩ := isTrailing_iff.1 trails
          have sum := (paired_eq_iff left right).1 whole
          exact ⟨_, .pair written second right sum, by simp⟩
        · next noLeading =>
          cases read
          have value := toNat_ofNat_of_not_surrogate (lt_of_writesUnit written)
            (Bool.eq_false_iff.2 noLeading) (Bool.eq_false_iff.2 noTrailing)
          rw [← value] at written
          exact ⟨digits, .unit written, rfl⟩
  · rintro ⟨s, written, rfl⟩
    cases written with
    | short listed => exact absurd listed (by simp [shortEscapes])
    | unit unit =>
        obtain ⟨noLeading, noTrailing⟩ := not_surrogate c
        simp [unicodeEscape, hexUnit_append unit, noLeading, noTrailing]
    | @pair i j leading trailing first second right sum =>
        have left : i < 0x400 := by
          have valid := Utf8.valid_toNat c
          omega
        have leads := isLeading_iff.2 ⟨i, left, rfl⟩
        have unended : isTrailing (0xD800 + i) = false := by
          simp only [isTrailing, Bool.and_eq_false_iff, decide_eq_false_iff_not]
          omega
        have trails := isTrailing_iff.2 ⟨j, right, rfl⟩
        have whole := (paired_eq_iff left right).2 sum
        have half : secondHalf (0xD800 + i) ('\\' :: 'u' :: (trailing ++ rest)) = .ok (c, rest) :=
          secondHalf_eq_ok_iff.2 ⟨_, trailing, second, trails, whole, rfl⟩
        rw [List.append_assoc, List.cons_append, List.cons_append]
        simp [unicodeEscape, hexUnit_append first, unended, leads, half]

theorem simpleEscape?_eq_some_iff {letter c : Char} :
    simpleEscape? letter = some c ↔ (letter, c) ∈ shortEscapes := by
  unfold simpleEscape?
  repeat' split
  all_goals simp_all [shortEscapes, eq_comm]

/-- The character after a backslash is read from its own spellings and from no others. -/
theorem escape_eq_ok_iff {t rest : Text} {c : Char} :
    escape t = .ok (c, rest) ↔ ∃ s, WritesChar c ('\\' :: s) ∧ t = s ++ rest := by
  constructor
  · intro read
    cases t with
    | nil => cases read
    | cons letter t =>
        simp only [escape] at read
        split at read
        · next long =>
          obtain ⟨s, written, rfl⟩ := unicodeEscape_eq_ok_iff.1 read
          exact ⟨'u' :: s, written, by rw [long, List.cons_append]⟩
        · split at read
          · next meant listed =>
            cases read
            exact ⟨[letter], .short (simpleEscape?_eq_some_iff.1 listed), rfl⟩
          · cases read
  · rintro ⟨s, written, rfl⟩
    cases written with
    | plain unquoted unescaped above => exact absurd rfl unescaped
    | @short letter listed =>
        have short : letter ≠ 'u' := by
          rintro rfl
          exact absurd listed (by simp [shortEscapes])
        have meant := simpleEscape?_eq_some_iff.2 listed
        change escape (letter :: rest) = _
        simp only [escape, if_neg short, meant]
    | unit unit =>
        change unicodeEscape _ = _
        exact unicodeEscape_eq_ok_iff.2 ⟨_, .unit unit, rfl⟩
    | pair first second small sum =>
        change unicodeEscape _ = _
        exact unicodeEscape_eq_ok_iff.2 ⟨_, .pair first second small sum, rfl⟩

/-- What a reader adds in front of what it goes on to read, taken off again. -/
theorem map_first_eq_ok_iff {α : Type} (extend : α → α) {read : Except Fault (α × Text)} {a : α}
    {rest : Text} :
    (read.map fun r => (extend r.1, r.2)) = .ok (a, rest) ↔
      ∃ b, read = .ok (b, rest) ∧ a = extend b := by
  cases read with
  | error fault => exact iff_of_false nofun nofun
  | ok r =>
      obtain ⟨b, rest'⟩ := r
      simp only [Except.map, Except.ok.injEq, Prod.mk.injEq]
      constructor
      · rintro ⟨rfl, rfl⟩
        exact ⟨b, ⟨rfl, rfl⟩, rfl⟩
      · rintro ⟨_, ⟨rfl, rfl⟩, rfl⟩
        exact ⟨rfl, rfl⟩

theorem stringBody_escape {c : Char} {t rest : Text} (read : escape t = .ok (c, rest)) :
    stringBody ('\\' :: t) = (stringBody rest).map (consFirst c) := by
  rw [stringBody, if_neg (by decide), if_pos rfl]
  split
  · next failed => cases read.symm.trans failed
  · next taken =>
    cases read.symm.trans taken
    rfl

/-- However a character is written, it comes first in what is read. -/
theorem stringBody_char {c : Char} {s : Text} (written : WritesChar c s) (rest : Text) :
    stringBody (s ++ rest) = (stringBody rest).map (consFirst c) := by
  cases written with
  | plain unquoted unescaped above =>
      rw [List.singleton_append, stringBody, if_neg unquoted, if_neg unescaped,
        if_neg (Nat.not_lt.2 above)]
  | short listed => exact stringBody_escape (escape_eq_ok_iff.2 ⟨_, .short listed, rfl⟩)
  | unit unit => exact stringBody_escape (escape_eq_ok_iff.2 ⟨_, .unit unit, rfl⟩)
  | pair first second small sum =>
      exact stringBody_escape (escape_eq_ok_iff.2 ⟨_, .pair first second small sum, rfl⟩)

theorem stringBody_eq_ok_iff {t value rest : Text} :
    stringBody t = .ok (value, rest) ↔
      ∃ body, WritesBody value body ∧ t = body ++ '"' :: rest := by
  constructor
  · intro read
    fun_induction stringBody t generalizing value with
    | case1 => cases read
    | case2 =>
        cases read
        exact ⟨[], .nil, rfl⟩
    | case3 => cases read
    | case4 u meant v taken _ _ ih =>
        obtain ⟨others, readOthers, rfl⟩ := (map_first_eq_ok_iff (meant :: ·)).1 read
        obtain ⟨s, first, rfl⟩ := escape_eq_ok_iff.1 taken
        obtain ⟨body, written, rfl⟩ := ih readOthers
        exact ⟨_, .cons first written, by simp⟩
    | case5 => cases read
    | case6 c u unquoted unescaped above ih =>
        obtain ⟨others, readOthers, rfl⟩ := (map_first_eq_ok_iff (c :: ·)).1 read
        obtain ⟨body, written, rfl⟩ := ih readOthers
        exact ⟨_, .cons (.plain unquoted unescaped (Nat.le_of_not_lt above)) written, rfl⟩
  · rintro ⟨body, written, rfl⟩
    induction written with
    | nil => rw [List.nil_append, stringBody, if_pos rfl]
    | cons first others ih =>
        rw [List.append_assoc, stringBody_char first, ih]
        rfl

end EnvBundle.Json
