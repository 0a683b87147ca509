import EnvBundle.Found
import EnvBundle.Text.Utf8

/-!
Why a text is not the JSON object wanted, and where. A fault knows how many bytes are left at its
place; the position follows from the whole text. The messages are those of `serde_json`.
-/
namespace EnvBundle.Json

inductive Wanted where
  | map
  | text
  deriving DecidableEq, Repr

inductive Cause where
  | endInValue
  | endInObject
  | endInString
  | expectedValue
  | expectedWord
  | expectedColon
  | expectedComma
  | expectedKey
  | trailingComma
  | trailingText
  | badNumber
  | hugeNumber
  | badEscape
  | unpairedEscape
  | loneSurrogate
  | controlCharacter
  | unexpected (found : Found) (wanted : Wanted)
  deriving DecidableEq

structure Fault where
  cause : Cause
  /-- The bytes after the place of the fault. -/
  left : Nat
  deriving DecidableEq

/-- The place is before the rest of the text. -/
def Fault.before (cause : Cause) (rest : Text) : Fault := ⟨cause, rest.byteCount⟩

/-- The place takes in the next byte, if there is one. -/
def Fault.at (cause : Cause) (rest : Text) : Fault := ⟨cause, rest.byteCount - 1⟩

structure Position where
  line : Nat
  column : Nat
  deriving DecidableEq, Repr

/-- Lines from one, columns in bytes since the last line feed. -/
def Position.after (seen : Bytes) : Position :=
  ⟨1 + seen.count 10, (seen.reverse.takeWhile (· != 10)).length⟩

def Fault.position (fault : Fault) (whole : Text) : Position :=
  let bytes := Utf8.encode whole
  Position.after (bytes.take (bytes.length - fault.left))

def Wanted.describe : Wanted → Text
  | .map => "a map".toList
  | .text => "a string".toList

def Cause.describe : Cause → Text
  | .endInValue => "EOF while parsing a value".toList
  | .endInObject => "EOF while parsing an object".toList
  | .endInString => "EOF while parsing a string".toList
  | .expectedValue => "expected value".toList
  | .expectedWord => "expected ident".toList
  | .expectedColon => "expected `:`".toList
  | .expectedComma => "expected `,` or `\x7d`".toList
  | .expectedKey => "key must be a string".toList
  | .trailingComma => "trailing comma".toList
  | .trailingText => "trailing characters".toList
  | .badNumber => "invalid number".toList
  | .hugeNumber => "number out of range".toList
  | .badEscape => "invalid escape".toList
  | .unpairedEscape => "unexpected end of hex escape".toList
  | .loneSurrogate => "lone leading surrogate in hex escape".toList
  | .controlCharacter =>
    "control character (\\u0000-\\u001F) found while parsing a string".toList
  | .unexpected found wanted =>
    "invalid type: ".toList ++ found.describe .bundled ++ ", expected ".toList ++ wanted.describe

def Cause.message (cause : Cause) (place : Position) : Text :=
  cause.describe ++ " at line ".toList ++ Text.ofNat place.line ++ " column ".toList ++
    Text.ofNat place.column

end EnvBundle.Json
