import EnvBundle.CommandLine.Fault
import EnvBundle.Text.Utf8

/-! The values of flags, from bytes to what they mean, as `clap` reads them. -/
namespace EnvBundle.CommandLine

def decode (value : Bytes) : Except Fault Text :=
  match Utf8.decode? value with
  | some t => .ok t
  | none => .error .undecodable

/-- The digits of a signed 64 bit number. They are looked at one by one, so the first fault may be
a digit that is none or the one that goes too far. -/
def boundedDigits (negative : Bool) (n : Nat) : Text → Except NumberFault Int
  | [] => .ok (if negative then -n else n)
  | c :: rest =>
    if !c.isDigit then .error .badDigit
    else
      let next := n * 10 + Text.digitValue c
      if negative then
        if twoTo 63 < next then .error .tooSmall else boundedDigits true next rest
      else if twoTo 63 ≤ next then .error .tooLarge
      else boundedDigits false next rest

/-- A signed whole number. A sign alone is no number. -/
def wholeNumber (t : Text) : Except NumberFault Int :=
  match t with
  | [] => .error .empty
  | ['-'] => .error .badDigit
  | ['+'] => .error .badDigit
  | '-' :: digits => boundedDigits true 0 digits
  | '+' :: digits => boundedDigits false 0 digits
  | digits => boundedDigits false 0 digits

def byte (t : Text) : Except NumberFault UInt8 :=
  match wholeNumber t with
  | .error fault => .error fault
  | .ok n => if 0 ≤ n ∧ n < 256 then .ok (UInt8.ofNat n.toNat) else .error (.outside n)

/-- A value that has to be text of some form. -/
def formed {α : Type} (flag : ValueFlag) (read : Text → Except ValueFault α) (value : Bytes) :
    Except Fault α :=
  match decode value with
  | .error fault => .error fault
  | .ok t =>
    match read t with
    | .ok found => .ok found
    | .error reason => .error (.badValue t flag reason)

def floatValue (flag : ValueFlag) (value : Bytes) : Except Fault Binary64 :=
  formed flag (fun t => (Binary64.ofText t).mapError .float) value

def byteValue (flag : ValueFlag) (value : Bytes) : Except Fault UInt8 :=
  formed flag (fun t => (byte t).mapError .number) value

/-- A path holds any bytes, but it holds some. -/
def pathValue (flag : ValueFlag) (value : Bytes) : Except Fault Path :=
  if value = [] then .error (.missingValue flag) else .ok value

/-- Whether a flag has its value already. -/
def isGiven (taken : Invocation) : ValueFlag → Bool
  | .cacheDir => taken.cacheDir.isSome
  | .clientName => taken.clientName.isSome
  | .clientVersion => taken.clientVersion.isSome
  | .timeout => taken.timeout.isSome
  | .retries => taken.retries.isSome
  | .retryBackoff => taken.retryBackoff.isSome
  | .fetchBin => taken.fetchBin.isSome
  | .config => taken.config.isSome

/-- Puts a flag's value into an invocation. -/
def give (taken : Invocation) (flag : ValueFlag) (value : Bytes) : Except Fault Invocation :=
  if isGiven taken flag then .error (.repeated (.valued flag))
  else match flag with
    | .cacheDir => (pathValue flag value).map fun path => { taken with cacheDir := some path }
    | .clientName => (decode value).map fun t => { taken with clientName := some t }
    | .clientVersion => (decode value).map fun t => { taken with clientVersion := some t }
    | .timeout => (floatValue flag value).map fun x => { taken with timeout := some x }
    | .retries => (byteValue flag value).map fun n => { taken with retries := some n }
    | .retryBackoff => (floatValue flag value).map fun x => { taken with retryBackoff := some x }
    | .fetchBin => (pathValue flag value).map fun path => { taken with fetchBin := some path }
    | .config => (pathValue flag value).map fun path => { taken with config := some path }

end EnvBundle.CommandLine
