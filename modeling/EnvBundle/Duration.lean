import EnvBundle.Binary64

/-! Lengths of time in whole nanoseconds, with a largest one that also stands for every wait that
cannot be expressed. -/
namespace EnvBundle

namespace Duration

def nanosPerSecond : Nat := tenTo 9

/-- Seconds are a 64 bit count. -/
def limit : Nat := twoTo 64 * nanosPerSecond

end Duration

structure Duration where
  nanos : Nat
  bounded : nanos < Duration.limit
  deriving DecidableEq

namespace Duration

def zero : Duration := ⟨0, by decide⟩

def max : Duration := ⟨limit - 1, by decide⟩

/-- The duration of so many nanoseconds, or the largest one. -/
def ofNanos (n : Nat) : Duration := if h : n < limit then ⟨n, h⟩ else max

/-- The nearest nanosecond, a half to the even one. -/
def ofMagnitude (m : Magnitude) : Duration :=
  ofNanos (Binary64.roundDiv (m.units * nanosPerSecond) Binary64.unitsPerOne)

/-- Negative numbers, infinities and NaN have the largest duration; negative zero is zero. -/
def ofSeconds (x : Binary64) : Duration :=
  match x with
  | .finite _ m => if x.isNegative then max else ofMagnitude m
  | _ => max

def wholeSeconds (d : Duration) : Nat := d.nanos / nanosPerSecond

def subsecondNanos (d : Duration) : Nat := d.nanos % nanosPerSecond

/-- Seconds as a floating point number: the whole seconds and the fraction are rounded first and
then added. -/
def toSeconds (d : Duration) : Binary64 :=
  match Binary64.ofNat d.wholeSeconds, Binary64.ofUnits false
      (d.subsecondNanos * Binary64.unitsPerOne) nanosPerSecond with
  | .finite _ whole, .finite _ fraction => Binary64.addMagnitudes whole fraction
  | _, _ => .nan

theorem ofNanos_of_lt {n : Nat} (h : n < limit) : (ofNanos n).nanos = n := by simp [ofNanos, h]

theorem ofNanos_of_le {n : Nat} (h : limit ≤ n) : ofNanos n = max := by
  simp [ofNanos, Nat.not_lt.2 h]

end Duration

end EnvBundle
