import EnvBundle.Text

/-!
Text as bytes. Reading is one pass over the bytes whose state is the character under way, so it is
total on every byte sequence; what cannot be decoded is reported piece by piece, and each piece is
the longest run of bytes that begins some character.
-/
namespace EnvBundle.Utf8

/-- One result of decoding: a character, or a run of bytes that begins one and does not end it. -/
inductive Piece where
  | char (c : Char)
  | broken
  deriving DecidableEq, Repr

/-- The character under way: its bits so far, the range of the next byte, and how many bytes are
missing. The range excludes overlong forms, surrogates and values above 10FFFF. -/
structure Pending where
  bits : Nat
  low : Nat
  high : Nat
  missing : Nat
  deriving DecidableEq, Repr

/-- A byte that stands where a character begins. -/
def opening (b : UInt8) : List Piece × Option Pending :=
  let n := b.toNat
  if n < 0x80 then ([.char (Char.ofNat n)], none)
  else if n < 0xC2 then ([.broken], none)
  else if n < 0xE0 then ([], some ⟨n - 0xC0, 0x80, 0xBF, 1⟩)
  else if n = 0xE0 then ([], some ⟨n - 0xE0, 0xA0, 0xBF, 2⟩)
  else if n = 0xED then ([], some ⟨n - 0xE0, 0x80, 0x9F, 2⟩)
  else if n < 0xF0 then ([], some ⟨n - 0xE0, 0x80, 0xBF, 2⟩)
  else if n = 0xF0 then ([], some ⟨n - 0xF0, 0x90, 0xBF, 3⟩)
  else if n < 0xF4 then ([], some ⟨n - 0xF0, 0x80, 0xBF, 3⟩)
  else if n = 0xF4 then ([], some ⟨n - 0xF0, 0x80, 0x8F, 3⟩)
  else ([.broken], none)

def pieces : Option Pending → Bytes → List Piece
  | none, [] => []
  | some _, [] => [.broken]
  | none, b :: rest => (opening b).1 ++ pieces (opening b).2 rest
  | some p, b :: rest =>
    if p.low ≤ b.toNat ∧ b.toNat ≤ p.high then
      let bits := p.bits * 64 + (b.toNat - 0x80)
      if p.missing = 1 then .char (Char.ofNat bits) :: pieces none rest
      else pieces (some ⟨bits, 0x80, 0xBF, p.missing - 1⟩) rest
    else .broken :: (opening b).1 ++ pieces (opening b).2 rest

def Piece.char? : Piece → Option Char
  | .char c => some c
  | .broken => none

/-- The text whose bytes these are, if there is one. -/
def decode? (bytes : Bytes) : Option Text := (pieces none bytes).mapM Piece.char?

/-- A piece as it is shown: the replacement character stands for a broken one. -/
def Piece.shown : Piece → Char
  | .char c => c
  | .broken => Char.ofNat 0xFFFD

/-- Every byte sequence as text. -/
def decodeLossy (bytes : Bytes) : Text := (pieces none bytes).map Piece.shown

def encodeChar (c : Char) : Bytes :=
  let n := c.toNat
  if n < 0x80 then [UInt8.ofNat n]
  else if n < 0x800 then [UInt8.ofNat (0xC0 + n / 64), UInt8.ofNat (0x80 + n % 64)]
  else if n < 0x10000 then
    [UInt8.ofNat (0xE0 + n / 4096), UInt8.ofNat (0x80 + n / 64 % 64), UInt8.ofNat (0x80 + n % 64)]
  else
    [UInt8.ofNat (0xF0 + n / 262144), UInt8.ofNat (0x80 + n / 4096 % 64),
      UInt8.ofNat (0x80 + n / 64 % 64), UInt8.ofNat (0x80 + n % 64)]

def encode (t : Text) : Bytes := t.flatMap encodeChar

@[simp] theorem encode_nil : encode [] = [] := rfl

@[simp] theorem encode_cons (c : Char) (t : Text) : encode (c :: t) = encodeChar c ++ encode t :=
  rfl

theorem encode_append (s t : Text) : encode (s ++ t) = encode s ++ encode t := by
  simp [encode]

end EnvBundle.Utf8
