import EnvBundle.Binary64
import EnvBundle.Text.Digits

/-!
Decimal texts as binary floating point. The value written is compared exactly, so the result is the
nearest number whatever the count of digits.
-/
namespace EnvBundle.Binary64

/-- The number nearest to `digits * 10 ^ exponent`. The two cuts only keep the powers small: beyond
them lie overflow and the numbers that round to zero. -/
def ofDecimal (negative : Bool) (digits : Nat) (exponent : Int) : Binary64 :=
  let top := Text.digitCount digits + exponent
  if digits = 0 ∨ top < -330 then .finite negative Magnitude.zero
  else if 310 < top then .infinity negative
  else if 0 ≤ exponent then
    ofUnits negative (digits * tenTo exponent.toNat * unitsPerOne) 1
  else ofUnits negative (digits * unitsPerOne) (tenTo (-exponent).toNat)

inductive ReadingFault where
  | empty
  | malformed
  deriving DecidableEq, Repr

/-- A sign in front, and what follows. -/
def signed : Text → Bool × Text
  | '-' :: rest => (true, rest)
  | '+' :: rest => (false, rest)
  | t => (false, t)

/-- The exponent part, up to the end of the text. -/
def exponent? : Text → Option Int
  | [] => some 0
  | mark :: rest =>
    let (negative, body) := signed rest
    if (mark = 'e' ∨ mark = 'E') ∧ body ≠ [] ∧ body.all Char.isDigit then
      let size : Int := Text.ofDigits 10 body
      some (if negative then -size else size)
    else none

/-- Digits with at most one point among them, at least one digit, and perhaps an exponent. -/
def unsigned? (negative : Bool) (t : Text) : Option Binary64 :=
  let (whole, rest) := Text.digitRun t
  let (fraction, rest) := match rest with
    | '.' :: rest => Text.digitRun rest
    | rest => ([], rest)
  if whole = [] ∧ fraction = [] then none
  else (exponent? rest).map fun e =>
    ofDecimal negative (Text.ofDigits 10 (whole ++ fraction)) (e - fraction.length)

def ofText (t : Text) : Except ReadingFault Binary64 :=
  if t = [] then .error .empty
  else
    let (negative, body) := signed t
    let word := body.map Char.toLower
    if word = "inf".toList ∨ word = "infinity".toList then .ok (.infinity negative)
    else if word = "nan".toList then .ok .nan
    else match unsigned? negative body with
      | some x => .ok x
      | none => .error .malformed

def ReadingFault.message : ReadingFault → Text
  | .empty => "cannot parse float from empty string".toList
  | .malformed => "invalid float literal".toList

end EnvBundle.Binary64
