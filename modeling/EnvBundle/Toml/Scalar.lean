import EnvBundle.Binary64.Reading
import EnvBundle.Split
import EnvBundle.Toml.Lexeme
import EnvBundle.Toml.Value

/-! Numbers, dates, times and truth values of TOML, as the `toml` library reads them. -/
namespace EnvBundle.Toml

/-- Digits with single underscores between them. -/
def digitGroups (isDigit : Char → Bool) : Nat → Reader Text
  | 0, _ => none
  | n + 1, t =>
    let run := t.takeWhile isDigit
    if run = [] then none
    else
      match t.dropWhile isDigit with
      | '_' :: rest => (digitGroups isDigit n rest).map fun (more, rest) => (run ++ more, rest)
      | rest => some (run, rest)

def digits? (isDigit : Char → Bool) (t : Text) : Option (Text × Text) :=
  digitGroups isDigit t.length t

/-- A whole number in base ten, with its sign. It begins with zero only if it is zero. -/
def whole? (t : Text) : Option ((Bool × Text) × Text) :=
  let (negative, t) := Binary64.signed t
  match t with
  | '0' :: rest => some ((negative, ['0']), rest)
  | t => (digits? Char.isDigit t).map fun (digits, rest) => ((negative, digits), rest)

/-- An integer has 64 bits. -/
def integerOf? (negative : Bool) (n : Nat) : Option Value :=
  if negative then if n ≤ twoTo 63 then some (.integer (-n)) else none
  else if n < twoTo 63 then some (.integer n) else none

def isOctal (c : Char) : Bool := '0' ≤ c && c ≤ '7'

def isBinary (c : Char) : Bool := c = '0' || c = '1'

def basedInteger? (base : Nat) (isDigit : Char → Bool) (t : Text) : Option (Value × Text) :=
  (digits? isDigit t).bind fun (digits, rest) =>
    (integerOf? false (Text.ofDigits base digits)).map fun value => (value, rest)

def integer? : Reader Value
  | '0' :: 'x' :: rest => basedInteger? 16 Text.isHexDigit rest
  | '0' :: 'o' :: rest => basedInteger? 8 isOctal rest
  | '0' :: 'b' :: rest => basedInteger? 2 isBinary rest
  | t =>
    (whole? t).bind fun ((negative, digits), rest) =>
      (integerOf? negative (Text.ofDigits 10 digits)).map fun value => (value, rest)

/-- The digits after a point. -/
def fraction? : Reader Text
  | '.' :: rest => digits? Char.isDigit rest
  | _ => none

/-- An exponent, its mark included. -/
def exponent? : Reader Int
  | mark :: rest =>
    if mark = 'e' ∨ mark = 'E' then
      let (negative, body) := Binary64.signed rest
      (digits? Char.isDigit body).map fun (digits, rest) =>
        let size : Int := Text.ofDigits 10 digits
        (if negative then -size else size, rest)
    else none
  | [] => none

def infinity : Binary64 := .infinity false

/-- A number with a fraction or an exponent. It may not overflow upward. -/
def decimal? (t : Text) : Option (Value × Text) :=
  (whole? t).bind fun ((negative, digits), rest) =>
    let number (fraction : Text) (exponent : Int) (rest : Text) :=
      let x := Binary64.ofDecimal negative (Text.ofDigits 10 (digits ++ fraction))
        (exponent - fraction.length)
      if x = infinity then none else some (Value.real x, rest)
    match rest with
    | '.' :: _ =>
      (fraction? rest).bind fun (fraction, rest) =>
        match rest with
        | 'e' :: _ => (exponent? rest).bind fun (e, rest) => number fraction e rest
        | 'E' :: _ => (exponent? rest).bind fun (e, rest) => number fraction e rest
        | rest => number fraction 0 rest
    | rest => (exponent? rest).bind fun (e, rest) => number [] e rest

/-- Infinity and NaN, with a sign or without. -/
def special? (t : Text) : Option (Value × Text) :=
  let (negative, t) := Binary64.signed t
  match Split.after? "inf".toList t with
  | some rest => some (.real (.infinity negative), rest)
  | none => (Split.after? "nan".toList t).map fun rest => (.real .nan, rest)

def boolean? (t : Text) : Option (Value × Text) :=
  match Split.after? "true".toList t with
  | some rest => some (.boolean true, rest)
  | none => (Split.after? "false".toList t).map fun rest => (.boolean false, rest)

/-- A number of a fixed count of digits, within bounds. -/
def fixed? (size low high : Nat) (t : Text) : Option (Nat × Text) :=
  let digits := t.take size
  let n := Text.ofDigits 10 digits
  if digits.length = size ∧ digits.all Char.isDigit ∧ low ≤ n ∧ n ≤ high then
    some (n, t.drop size)
  else none

def isLeapYear (year : Nat) : Bool := (year % 4 = 0 && year % 100 != 0) || year % 400 = 0

def daysIn (year month : Nat) : Nat :=
  if month = 2 then if isLeapYear year then 29 else 28
  else if month = 4 ∨ month = 6 ∨ month = 9 ∨ month = 11 then 30
  else 31

def date? (t : Text) : Option Text := do
  let (year, t) ← fixed? 4 0 9999 t
  let t ← Split.after? ['-'] t
  let (month, t) ← fixed? 2 1 12 t
  let t ← Split.after? ['-'] t
  let (_, t) ← fixed? 2 1 (daysIn year month) t
  return t

/-- A fraction of a second, if there is one. -/
def skipFraction (t : Text) : Text :=
  match t with
  | '.' :: rest => if (rest.head?.any Char.isDigit) then rest.dropWhile Char.isDigit else t
  | t => t

def time? (t : Text) : Option Text := do
  let (_, t) ← fixed? 2 0 23 t
  let t ← Split.after? [':'] t
  let (_, t) ← fixed? 2 0 59 t
  let t ← Split.after? [':'] t
  let (_, t) ← fixed? 2 0 60 t
  return skipFraction t

def offset? : Text → Option Text
  | 'Z' :: rest => some rest
  | 'z' :: rest => some rest
  | '+' :: rest => do
    let (_, t) ← fixed? 2 0 23 rest
    let t ← Split.after? [':'] t
    let (_, t) ← fixed? 2 0 59 t
    return t
  | '-' :: rest => do
    let (_, t) ← fixed? 2 0 23 rest
    let t ← Split.after? [':'] t
    let (_, t) ← fixed? 2 0 59 t
    return t
  | _ => none

def isTimeMark (c : Char) : Bool := c = 'T' || c = 't' || c = ' '

/-- A date, a time, or a date with a time and perhaps an offset. -/
def datetime? (t : Text) : Option (Value × Text) :=
  match date? t with
  | none => (time? t).map fun rest => (.datetime, rest)
  | some rest =>
    match rest with
    | mark :: more =>
      if isTimeMark mark then
        match time? more with
        | some rest => some (.datetime, (offset? rest).getD rest)
        | none => some (.datetime, rest)
      else some (.datetime, rest)
    | [] => some (.datetime, [])

def number? (t : Text) : Option (Value × Text) :=
  match datetime? t with
  | some read => some read
  | none =>
    match decimal? t with
    | some read => some read
    | none =>
      match integer? t with
      | some read => some read
      | none => special? t

def scalar? (t : Text) : Option (Value × Text) :=
  match string? t with
  | some (value, rest) => some (.text value, rest)
  | none =>
    match number? t with
    | some read => some read
    | none => boolean? t

end EnvBundle.Toml
