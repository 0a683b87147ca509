import EnvBundle.Proofs.Text.Utf8

/-!
Parts of a text by the positions of their bytes. Bytes can be cut where a character begins and where
they end, and nowhere else; so a text can be cut wherever it is one text and then another.
-/
namespace EnvBundle

namespace Utf8

/-- A byte that stands inside a character. -/
def isInner (b : UInt8) : Bool := 0x80 ≤ b.toNat && b.toNat < 0xC0

/-- A position where a character begins, or where the bytes end. -/
def isBoundary (bytes : Bytes) (position : Nat) : Bool :=
  match bytes[position]? with
  | some b => !isInner b
  | none => position = bytes.length

/-- The bytes from one position up to another. There are none to be had if the positions are out of
order, out of range or inside a character. -/
def slice? (bytes : Bytes) (start stop : Nat) : Option Bytes :=
  if start ≤ stop ∧ isBoundary bytes start ∧ isBoundary bytes stop then
    some ((bytes.take stop).drop start)
  else none

theorem exists_encodeChar (c : Char) : ∃ b rest, encodeChar c = b :: rest ∧ isInner b = false := by
  have outer : ∀ n, n < 256 → (n < 0x80 ∨ 0xC0 ≤ n) → isInner (UInt8.ofNat n) = false := by
    intro n small outside
    rw [isInner, toNat_ofNat small, Bool.and_eq_false_iff, decide_eq_false_iff_not,
      decide_eq_false_iff_not]
    omega
  have valid := toNat_lt c
  unfold encodeChar
  generalize c.toNat = n at valid
  dsimp only
  split
  · exact ⟨_, _, rfl, outer _ (by omega) (by omega)⟩
  · split
    · exact ⟨_, _, rfl, outer _ (by omega) (by omega)⟩
    · split
      · exact ⟨_, _, rfl, outer _ (by omega) (by omega)⟩
      · exact ⟨_, _, rfl, outer _ (by omega) (by omega)⟩

/-- Between two texts is a boundary. -/
theorem isBoundary_append (s t : Text) :
    isBoundary (encode (s ++ t)) (encode s).length = true := by
  rw [encode_append]
  cases t with
  | nil => simp [isBoundary]
  | cons c t =>
      obtain ⟨b, rest, first, outer⟩ := exists_encodeChar c
      simp [isBoundary, first, outer]

theorem slice?_encode (s t u : Text) :
    slice? (encode (s ++ t ++ u)) (encode s).length (encode (s ++ t)).length =
      some (encode t) := by
  have start : isBoundary (encode (s ++ t ++ u)) (encode s).length = true := by
    rw [List.append_assoc]
    exact isBoundary_append s (t ++ u)
  have stop := isBoundary_append (s ++ t) u
  have ordered : (encode s).length ≤ (encode (s ++ t)).length := by simp [encode_append]
  rw [slice?, if_pos ⟨ordered, start, stop⟩, encode_append (s ++ t) u, List.take_left,
    encode_append, List.drop_left]

end Utf8

namespace Text

/-- The part of a text between two positions of its bytes. -/
def slice? (t : Text) (start stop : Nat) : Option Text :=
  (Utf8.slice? (Utf8.encode t) start stop).bind Utf8.decode?

theorem slice?_append (s t u : Text) :
    slice? (s ++ t ++ u) (Utf8.encode s).length (Utf8.encode (s ++ t)).length = some t := by
  rw [slice?, Utf8.slice?_encode, Option.bind_some, Utf8.decode?_encode]

end Text

end EnvBundle
