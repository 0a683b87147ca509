import EnvBundle.Binary64
import EnvBundle.Text.Digits

/-!
The fewest decimal digits that read back as a given magnitude. Of the decimals with a given number
of digits only the two neighbours of the magnitude need a test, and the test is exact.
-/
namespace EnvBundle.Magnitude

/-- How two neighbours at the same distance are told apart. -/
inductive Tie where
  | upward
  | toEven
  deriving DecidableEq, Repr

/-- A decimal `0.d₁d₂… * 10 ^ point`. -/
structure Decimal where
  digits : Text
  point : Int

/-- The place of the last bit. -/
def ulp (m : Magnitude) : Nat := twoTo (m.units.log2 - 52)

/-- Below a power of two the next magnitude is half as far, except among the smallest ones. -/
def isLowest (m : Magnitude) : Bool := m.units = twoTo 52 * m.ulp && m.ulp != 1

/-- Whether `num / den` quarters of a unit round to this magnitude. Half way they do if the
significand is even. -/
def covers (m : Magnitude) (num den : Nat) : Bool :=
  let low := (4 * m.units - (if m.isLowest then m.ulp else 2 * m.ulp)) * den
  let high := (4 * m.units + 2 * m.ulp) * den
  if m.units / m.ulp % 2 = 0 then low ≤ num && num ≤ high else low < num && num < high

/-- The power of ten just above the magnitude. -/
def top (m : Magnitude) : Int :=
  Text.digitCount (m.units * tenTo 330 / Binary64.unitsPerOne) - 330

/-- Multiples of a power of ten, in quarters of a unit, as a fraction. -/
def step (power : Int) : Nat × Nat :=
  if 0 ≤ power then (4 * Binary64.unitsPerOne * tenTo power.toNat, 1)
  else (4 * Binary64.unitsPerOne, tenTo (-power).toNat)

/-- The multiple of the step that reads back, the nearer one if both neighbours do. -/
def onGrid? (tie : Tie) (m : Magnitude) (power : Int) : Option Nat :=
  let (num, den) := step power
  let below := 4 * m.units * den / num
  let beyond := 4 * m.units * den % num
  let lower := m.covers (below * num) den
  let upper := m.covers ((below + 1) * num) den
  if lower && upper then
    if 2 * beyond < num ∨ (2 * beyond = num ∧ tie = .toEven ∧ below % 2 = 0) then some below
    else some (below + 1)
  else if lower then some below
  else if upper then some (below + 1)
  else none

def stripZeros (digits : Text) : Text := (digits.reverse.dropWhile (· = '0')).reverse

/-- A decimal with `n + 1` digits that reads back, if there is one. -/
def attempt? (tie : Tie) (m : Magnitude) (n : Nat) : Option Decimal :=
  let power := m.top - Int.ofNat (n + 1)
  (m.onGrid? tie power).map fun multiple =>
    let digits := Text.ofNat multiple
    ⟨stripZeros digits, digits.length + power⟩

/-- The decimal with the fewest digits among those that read back. Seventeen always do. -/
def shortest (tie : Tie) (m : Magnitude) : Decimal :=
  ((List.range 17).findSome? (m.attempt? tie)).getD ⟨[], 0⟩

end EnvBundle.Magnitude
