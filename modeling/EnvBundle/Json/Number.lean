import EnvBundle.Binary64.Reading
import EnvBundle.Json.Fault

/-!
JSON numbers. A bundle holds none, so they are read only to say what was found. A number that is
not a 64 bit integer is a significand of 64 bits, scaled by one multiplication or division, as in
`serde_json`.
-/
namespace EnvBundle.Json

/-- The digits that still fit a significand of 64 bits, and what follows them. -/
def gather (significand : Nat) : Text → Nat × Text
  | [] => (significand, [])
  | c :: rest =>
    let next := significand * 10 + Text.digitValue c
    if c.isDigit && next < twoTo 64 then gather next rest else (significand, c :: rest)

/-- The largest power of ten in one step of scaling. -/
def largestPower : Nat := 308

def powerOfTen (n : Nat) : Magnitude :=
  match Binary64.ofDecimal false 1 n with
  | .finite _ m => m
  | _ => Magnitude.zero

/-- Divides so many times by the largest power of ten. -/
def lowerBy : Nat → Magnitude → Magnitude
  | 0, m => m
  | steps + 1, m =>
    if m.units = 0 then m
    else match Binary64.overMagnitude false m (powerOfTen largestPower) with
      | .finite _ m => lowerBy steps m
      | _ => m

/-- Divides by a power of ten, the part beyond the largest one first. -/
def lower (m : Magnitude) (power : Nat) : Binary64 :=
  let steps := (power - 1) / largestPower
  Binary64.overMagnitude false (lowerBy steps m) (powerOfTen (power - steps * largestPower))

/-- The significand times a power of ten, or none where that overflows. -/
def scaled? (significand : Nat) (exponent : Int) : Option Binary64 :=
  match Binary64.ofNat significand with
  | .finite _ m =>
    if exponent < 0 then some (lower m exponent.natAbs)
    else if exponent ≤ largestPower then
      match Binary64.timesMagnitude false m (powerOfTen exponent.natAbs) with
      | .finite negative m => some (.finite negative m)
      | _ => none
    else if m.units = 0 then some (.finite false m)
    else none
  | _ => none

def signed (negative : Bool) : Binary64 → Binary64
  | .finite _ m => .finite negative m
  | x => x

def real (negative : Bool) (significand : Nat) (exponent : Int) (rest : Text) :
    Except Fault (Found × Text) :=
  match scaled? significand exponent with
  | some x => .ok (.real (signed negative x), rest)
  | none => .error (.before .hugeNumber rest)

/-- The longest run of exponent digits that fits 31 bits, and what follows. -/
def gatherExponent (exponent : Nat) : Text → Nat × Text
  | [] => (exponent, [])
  | c :: rest =>
    let next := exponent * 10 + Text.digitValue c
    if c.isDigit && next < twoTo 31 then gatherExponent next rest else (exponent, c :: rest)

/-- An exponent after its mark, added to one already known. Too large an exponent is a fault only
if it enlarges something. -/
def exponentPart (negative : Bool) (significand : Nat) (known : Int) (t : Text) :
    Except Fault (Found × Text) :=
  let (lowering, t) := Binary64.signed t
  match t with
  | [] => .error (.before .endInValue [])
  | c :: rest =>
    if !c.isDigit then .error (.at .badNumber (c :: rest))
    else match gatherExponent 0 (c :: rest) with
      | (size, []) => real negative significand (if lowering then known - size else known + size) []
      | (size, d :: more) =>
        if d.isDigit then
          if significand ≠ 0 ∧ !lowering then .error (.before .hugeNumber more)
          else .ok (.real (.finite negative Magnitude.zero), more.dropWhile Char.isDigit)
        else
          real negative significand (if lowering then known - size else known + size) (d :: more)

def withExponent (negative : Bool) (significand : Nat) (known : Int) (t : Text) :
    Except Fault (Found × Text) :=
  match t with
  | 'e' :: rest => exponentPart negative significand known rest
  | 'E' :: rest => exponentPart negative significand known rest
  | rest => real negative significand known rest

/-- The digits after a point. Those beyond the significand are passed over. -/
def fractionPart (negative : Bool) (significand : Nat) (known : Int) (t : Text) :
    Except Fault (Found × Text) :=
  let (significand', rest) := gather significand t
  let places := t.length - rest.length
  match t with
  | [] => .error (.before .endInValue [])
  | c :: _ =>
    if !c.isDigit then .error (.at .badNumber t)
    else withExponent negative significand' (known - places) (rest.dropWhile Char.isDigit)

/-- What follows the digits before the point. -/
def afterWhole (negative : Bool) (significand : Nat) (t : Text) : Except Fault (Found × Text) :=
  match t with
  | '.' :: rest => fractionPart negative significand 0 rest
  | 'e' :: rest => exponentPart negative significand 0 rest
  | 'E' :: rest => exponentPart negative significand 0 rest
  | rest =>
    if negative then
      if 0 < significand ∧ significand ≤ twoTo 63 then .ok (.integer (-significand), rest)
      else .ok (.real (signed true (Binary64.ofNat significand)), rest)
    else .ok (.integer significand, rest)

/-- A number after its sign. -/
def number (negative : Bool) : Text → Except Fault (Found × Text)
  | [] => .error (.before .endInValue [])
  | '0' :: rest =>
    match rest with
    | c :: _ => if c.isDigit then .error (.at .badNumber rest) else afterWhole negative 0 rest
    | [] => afterWhole negative 0 []
  | c :: rest =>
    if !c.isDigit then .error (.at .badNumber (c :: rest))
    else
      let (significand, rest) := gather 0 (c :: rest)
      let beyond := rest.takeWhile Char.isDigit
      if beyond = [] then afterWhole negative significand rest
      else
        let rest := rest.dropWhile Char.isDigit
        match rest with
        | '.' :: rest => fractionPart negative significand beyond.length rest
        | rest => withExponent negative significand beyond.length rest

end EnvBundle.Json
