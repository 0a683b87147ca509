import EnvBundle.Power

/-!
Binary floating point with 53 significant bits, as exact numbers. A finite magnitude is a count of
the smallest unit, `2 ^ (-1074)`, so every comparison and every rounding is one of natural numbers.
-/
namespace EnvBundle

namespace Binary64

/-- The counts of units that have a 53 bit form and stay below the overflow threshold. -/
def Fits (units : Nat) : Prop := units < twoTo 2098 ∧ twoTo (units.log2 - 52) ∣ units

instance (units : Nat) : Decidable (Fits units) := inferInstanceAs (Decidable (_ ∧ _))

theorem fits_zero : Fits 0 := ⟨twoTo_pos 2098, Nat.dvd_zero _⟩

/-- The quotient to the nearest natural number, a half to the even one. -/
def roundDiv (num den : Nat) : Nat :=
  let q := num / den
  let r := num % den
  if 2 * r < den then q else if den < 2 * r then q + 1 else q + q % 2

/-- How many units make one. -/
def unitsPerOne : Nat := twoTo 1074

end Binary64

/-- A finite magnitude. -/
structure Magnitude where
  units : Nat
  fits : Binary64.Fits units
  deriving DecidableEq

inductive Binary64 where
  | nan
  | infinity (negative : Bool)
  | finite (negative : Bool) (magnitude : Magnitude)
  deriving DecidableEq

namespace Magnitude

def zero : Magnitude := ⟨0, Binary64.fits_zero⟩

/-- The magnitude nearest to `num / den` units, or none where that overflows. A value with more
than 53 bits before the unit's place is rounded at its 53rd bit. -/
def nearest? (num den : Nat) : Option Magnitude :=
  let drop := (num / den).log2 - 52
  let units := Binary64.roundDiv num (den * twoTo drop) * twoTo drop
  if h : Binary64.Fits units then some ⟨units, h⟩ else none

end Magnitude

namespace Binary64

def ofUnits (negative : Bool) (num den : Nat) : Binary64 :=
  match Magnitude.nearest? num den with
  | some m => .finite negative m
  | none => .infinity negative

def ofNat (n : Nat) : Binary64 := ofUnits false (n * unitsPerOne) 1

def ofInt (i : Int) : Binary64 := ofUnits (i < 0) (i.natAbs * unitsPerOne) 1

def zero : Binary64 := .finite false Magnitude.zero

def isFinite : Binary64 → Bool
  | .finite _ _ => true
  | _ => false

/-- Whether the number is below zero. Negative zero is not. -/
def isNegative : Binary64 → Bool
  | .nan => false
  | .infinity negative => negative
  | .finite negative m => negative && m.units != 0

def isPositive : Binary64 → Bool
  | .nan => false
  | .infinity negative => !negative
  | .finite negative m => !negative && m.units != 0

/-- The sum of two numbers that are not negative. -/
def addMagnitudes (a b : Magnitude) : Binary64 := ofUnits false (a.units + b.units) 1

/-- Multiplies by a power of two. Only overflow can lose something, for the significand stays. -/
def scale (x : Binary64) (power : Nat) : Binary64 :=
  match x with
  | .nan => .nan
  | .infinity negative => .infinity negative
  | .finite negative m => ofUnits negative (m.units * twoTo power) 1

def timesMagnitude (negative : Bool) (a b : Magnitude) : Binary64 :=
  ofUnits negative (a.units * b.units) unitsPerOne

def overMagnitude (negative : Bool) (a b : Magnitude) : Binary64 :=
  ofUnits negative (a.units * unitsPerOne) b.units

end Binary64

end EnvBundle
