import EnvBundle.NameMap
import EnvBundle.Proofs.Text.Utf8

/-! The bytes of two texts are in the order of the texts, so a map has its entries in one order
whether its names are texts or bytes. -/
namespace EnvBundle.Utf8

theorem compare_cons {α : Type} [Ord α] (a b : α) (s t : List α) :
    compare (a :: s) (b :: t) = (compare a b).then (compare s t) := by
  rw [List.compare_eq_compareLex, List.compareLex_cons_cons]

theorem compare_cons_self {α : Type} [Ord α] [Std.ReflOrd α] (a : α) (s t : List α) :
    compare (a :: s) (a :: t) = compare s t := by
  have same : compare a a = .eq := Std.ReflCmp.compare_self
  rw [compare_cons, same, Ordering.then]

theorem compare_append_left {α : Type} [Ord α] [Std.ReflOrd α] (front s t : List α) :
    compare (front ++ s) (front ++ t) = compare s t := by
  induction front with
  | nil => rfl
  | cons a front ih => rw [List.cons_append, List.cons_append, compare_cons_self, ih]

/-- Sequences of bytes are in order if their first bytes are, the remainders deciding a tie. -/
theorem compare_bytes_lt {a b : Nat} {s t : Bytes} (small : b < 256) (first : a ≤ b)
    (tied : a = b → compare s t = .lt) :
    compare (UInt8.ofNat a :: s) (UInt8.ofNat b :: t) = .lt := by
  rcases Nat.lt_or_eq_of_le first with less | same
  · have below : compare (UInt8.ofNat a) (UInt8.ofNat b) = .lt := by
      rw [Std.compare_eq_lt, UInt8.lt_iff_toNat_lt, toNat_ofNat small,
        toNat_ofNat (Nat.lt_trans less small)]
      exact less
    rw [compare_cons, below]
    rfl
  · rw [same, compare_cons_self]
    exact tied same

/-- A longer form begins with a larger byte, and of two that are equally long one has the smaller
byte where they first differ. -/
theorem compare_encodeChar_lt {c d : Char} (less : c.toNat < d.toNat) (s t : Bytes) :
    compare (encodeChar c ++ s) (encodeChar d ++ t) = .lt := by
  have valid := toNat_lt d
  unfold encodeChar
  generalize c.toNat = n at less
  generalize d.toNat = m at less valid
  dsimp only
  by_cases one : n < 0x80
  · rw [if_pos one]
    repeat' split
    all_goals exact compare_bytes_lt (by omega) (by omega) (by omega)
  · rw [if_neg one, if_neg (show ¬m < 0x80 by omega)]
    by_cases two : n < 0x800
    · rw [if_pos two]
      split
      · refine compare_bytes_lt (by omega) (by omega) fun first => ?_
        exact compare_bytes_lt (by omega) (by omega) (by omega)
      · split
        all_goals exact compare_bytes_lt (by omega) (by omega) (by omega)
    · rw [if_neg two, if_neg (show ¬m < 0x800 by omega)]
      by_cases three : n < 0x10000
      · rw [if_pos three]
        split
        · refine compare_bytes_lt (by omega) (by omega) fun first => ?_
          refine compare_bytes_lt (by omega) (by omega) fun second => ?_
          exact compare_bytes_lt (by omega) (by omega) (by omega)
        · exact compare_bytes_lt (by omega) (by omega) (by omega)
      · rw [if_neg three, if_neg (show ¬m < 0x10000 by omega)]
        refine compare_bytes_lt (by omega) (by omega) fun first => ?_
        refine compare_bytes_lt (by omega) (by omega) fun second => ?_
        refine compare_bytes_lt (by omega) (by omega) fun third => ?_
        exact compare_bytes_lt (by omega) (by omega) (by omega)

theorem compare_encode_lt {s t : Text} (less : compare s t = .lt) :
    compare (encode s) (encode t) = .lt := by
  induction s generalizing t with
  | nil =>
      cases t with
      | nil => cases less
      | cons d t =>
          cases bytes : encode (d :: t) with
          | nil => cases encode_eq_nil.1 bytes
          | cons b rest => rfl
  | cons c s ih =>
      cases t with
      | nil => cases less
      | cons d t =>
          rw [compare_cons] at less
          rw [encode_cons, encode_cons]
          cases first : compare c d with
          | lt =>
              have smaller : c < d := compareOfLessAndEq_eq_lt.1 first
              exact compare_encodeChar_lt smaller _ _
          | eq =>
              rw [first] at less
              have same : c = d := Std.LawfulEqCmp.eq_of_compare first
              rw [same, compare_append_left]
              exact ih less
          | gt =>
              rw [first] at less
              cases less

/-- Texts and their bytes are in one order. -/
theorem compare_encode (s t : Text) : compare (encode s) (encode t) = compare s t := by
  cases order : compare s t with
  | lt => exact compare_encode_lt order
  | eq =>
      have same : s = t := Std.LawfulEqCmp.eq_of_compare order
      rw [same]
      exact Std.ReflCmp.compare_self
  | gt =>
      have turned : compare t s = .lt := Std.OrientedCmp.gt_iff_lt.1 order
      exact Std.OrientedCmp.gt_iff_lt.2 (compare_encode_lt turned)

/-- The entries of a map of texts are in the order of the bytes of their names. -/
theorem pairwise_encode {ν : Type} (map : NameMap Text ν) :
    map.entries.Pairwise fun a b => compare (encode a.1) (encode b.1) = .lt := by
  simp only [compare_encode]
  exact map.ascending

end EnvBundle.Utf8
