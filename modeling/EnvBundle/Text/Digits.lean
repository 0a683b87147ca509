import EnvBundle.Text

/-! Runs of digits and the number they write in a base up to sixteen. -/
namespace EnvBundle.Text

/-- The value of a hexadecimal digit, of either case. -/
def digitValue (c : Char) : Nat :=
  if c.isDigit then c.toNat - '0'.toNat
  else if 'a' ≤ c ∧ c ≤ 'f' then c.toNat - 'a'.toNat + 10
  else if 'A' ≤ c ∧ c ≤ 'F' then c.toNat - 'A'.toNat + 10
  else 0

def isHexDigit (c : Char) : Bool :=
  c.isDigit || ('a' ≤ c && c ≤ 'f') || ('A' ≤ c && c ≤ 'F')

/-- The number a run of digits writes. -/
def ofDigits (base : Nat) (t : Text) : Nat := t.foldl (fun n c => base * n + digitValue c) 0

def ofNat (n : Nat) : Text := Nat.toDigits 10 n

def ofInt (i : Int) : Text := if i < 0 then '-' :: ofNat i.natAbs else ofNat i.natAbs

/-- How many decimal digits a number has. -/
def digitCount (n : Nat) : Nat := (ofNat n).length

/-- The digits a text begins with, and what follows them. -/
def digitRun (t : Text) : Text × Text := t.span Char.isDigit

end EnvBundle.Text
