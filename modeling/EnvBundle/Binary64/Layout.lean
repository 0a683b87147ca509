import EnvBundle.Binary64.Shortest

/-! Floating point numbers as text: the shortest digits, laid out as the place of output asks. -/
namespace EnvBundle.Binary64

/-- The decisions of one place of output. -/
structure Layout where
  /-- The decimal exponents written without an exponent part, the second bound excluded; without
  bounds, all of them. -/
  positional : Option (Int × Int)
  /-- Whether a whole number written without exponent keeps `.0`. -/
  wholePoint : Bool
  /-- Whether a positive exponent has a sign. -/
  plus : Bool
  tie : Magnitude.Tie

namespace Layout

/-- Program arguments and messages: never an exponent. -/
def plain : Layout := ⟨none, false, false, .upward⟩

/-- Fields of log lines. -/
def logged : Layout := ⟨some (-4, 16), true, false, .upward⟩

/-- Numbers found where a bundle should have something else. -/
def bundled : Layout := ⟨some (-5, 16), true, true, .toEven⟩

/-- Numbers found where a settings file should have something else. -/
def configured : Layout := ⟨none, true, false, .upward⟩

def zeros (n : Int) : Text := List.replicate n.toNat '0'

def placed (layout : Layout) (d : Magnitude.Decimal) : Text :=
  let size : Int := d.digits.length
  if d.point ≤ 0 then "0.".toList ++ zeros (-d.point) ++ d.digits
  else if size ≤ d.point then
    d.digits ++ zeros (d.point - size) ++ (if layout.wholePoint then ".0".toList else [])
  else d.digits.take d.point.toNat ++ '.' :: d.digits.drop d.point.toNat

def raised (layout : Layout) (d : Magnitude.Decimal) : Text :=
  let power := d.point - 1
  let fraction := match d.digits.drop 1 with
    | [] => []
    | more => '.' :: more
  d.digits.take 1 ++ fraction ++ ['e'] ++ (if layout.plus && 0 ≤ power then ['+'] else []) ++
    Text.ofInt power

def magnitude (layout : Layout) (m : Magnitude) : Text :=
  if m.units = 0 then '0' :: (if layout.wholePoint then ".0".toList else [])
  else
    let d := m.shortest layout.tie
    match layout.positional with
    | none => layout.placed d
    | some (low, high) =>
      if low ≤ d.point - 1 ∧ d.point - 1 < high then layout.placed d else layout.raised d

end Layout

def toText (layout : Layout) : Binary64 → Text
  | .nan => "NaN".toList
  | .infinity negative => (if negative then ['-'] else []) ++ "inf".toList
  | .finite negative m => (if negative then ['-'] else []) ++ layout.magnitude m

end EnvBundle.Binary64
