import EnvBundle.Fetch.Options
import EnvBundle.Found
import EnvBundle.Text.Utf8
import EnvBundle.Toml.Document
import EnvBundle.World

/-!
Settings: a TOML document that names a backend and changes fetch options. Fields are taken in the
order of the document, and the first one that does not fit is the fault. A table of fields may also
be an array, its values being the fields in their order. The fields, their kinds and their defaults
are the program's own; how they are taken is as in `serde`.
-/
namespace EnvBundle

structure Settings where
  fetchBin : Option Path
  fetch : Fetch.Options
  deriving DecidableEq

namespace Settings

def standard : Settings := ⟨none, Fetch.Options.standard⟩

/-- What a field has to be. -/
inductive Wanted where
  | boolean
  | text
  | path
  | number
  | byte
  | options
  deriving DecidableEq, Repr

inductive Mismatch where
  | unknownField (name : Text) (known : List Text)
  | wrongType (found : Found) (wanted : Wanted)
  | outOfRange (value : Int) (wanted : Wanted)
  deriving DecidableEq

/-- A value as messages name it. A date is the map that stands for it. -/
def foundOf : Toml.Value → Found
  | .text value => .text value
  | .integer value => .integer value
  | .real value => .real value
  | .boolean value => .boolean value
  | .datetime => .map
  | .array _ => .sequence
  | .table _ _ => .map
  | .tables _ => .sequence

def wrong {α : Type} (wanted : Wanted) (value : Toml.Value) : Except Mismatch α :=
  .error (.wrongType (foundOf value) wanted)

def readBool : Toml.Value → Except Mismatch Bool
  | .boolean value => .ok value
  | value => wrong .boolean value

def readText : Toml.Value → Except Mismatch Text
  | .text value => .ok value
  | value => wrong .text value

def readPath : Toml.Value → Except Mismatch Path
  | .text value => .ok (Utf8.encode value)
  | value => wrong .path value

/-- A floating point number; an integer is taken as the nearest one. -/
def readNumber : Toml.Value → Except Mismatch Binary64
  | .real value => .ok value
  | .integer value => .ok (Binary64.ofInt value)
  | value => wrong .number value

def readByte : Toml.Value → Except Mismatch UInt8
  | .integer value =>
    if 0 ≤ value ∧ value < 256 then .ok (UInt8.ofNat value.toNat)
    else .error (.outOfRange value .byte)
  | value => wrong .byte value

/-- The fields of a fetch table, in their order, and what each does. -/
def fetchFields : List (Text × (Toml.Value → Fetch.Options → Except Mismatch Fetch.Options)) :=
  [ ("should_cache".toList, fun value options =>
      (readBool value).map fun b => { options with shouldCache := b }),
    ("cache_dir".toList, fun value options =>
      (readPath value).map fun path => { options with cacheDir := some path }),
    ("client_name".toList, fun value options =>
      (readText value).map fun t => { options with clientName := some t }),
    ("client_version".toList, fun value options =>
      (readText value).map fun t => { options with clientVersion := some t }),
    ("verbose".toList, fun value options =>
      (readBool value).map fun b => { options with verbose := b }),
    ("timeout_secs".toList, fun value options =>
      (readNumber value).map fun x => { options with timeoutSecs := x }),
    ("retries".toList, fun value options =>
      (readByte value).map fun n => { options with retries := n }),
    ("retry_backoff".toList, fun value options =>
      (readNumber value).map fun x => { options with retryBackoff := x }) ]

/-- Takes fields by name, in the order given. -/
def takeNamed {α : Type} (fields : List (Text × (Toml.Value → α → Except Mismatch α))) (start : α)
    (entries : Toml.Entries) : Except Mismatch α :=
  entries.foldlM (fun taken entry =>
    match fields.lookup entry.1 with
    | some take => take entry.2 taken
    | none => .error (.unknownField entry.1 (fields.map Prod.fst))) start

/-- Takes fields by position. Values beyond the last field are passed over. -/
def takeListed {α : Type} (fields : List (Text × (Toml.Value → α → Except Mismatch α))) (start : α)
    (values : List Toml.Value) : Except Mismatch α :=
  (fields.zip values).foldlM (fun taken (field, value) => field.2 value taken) start

/-- The name a date or time has where fields are wanted. -/
def datetimeField : Text := "$__toml_private_datetime".toList

def readOptions : Toml.Value → Except Mismatch Fetch.Options
  | .table _ entries => takeNamed fetchFields Fetch.Options.standard entries
  | .array values => takeListed fetchFields Fetch.Options.standard values
  | .tables all =>
    takeListed fetchFields Fetch.Options.standard (all.map fun entries => .table .header entries)
  | .datetime => .error (.unknownField datetimeField (fetchFields.map Prod.fst))
  | value => wrong .options value

def fields : List (Text × (Toml.Value → Settings → Except Mismatch Settings)) :=
  [ ("fetch_bin".toList, fun value settings =>
      (readPath value).map fun path => { settings with fetchBin := some path }),
    ("fetch".toList, fun value settings =>
      (readOptions value).map fun options => { settings with fetch := options }) ]

inductive Fault where
  | unreadable (cause : SystemFault)
  /-- No TOML document. -/
  | malformed
  | mismatch (mismatch : Mismatch)
  | unusable (fault : Fetch.Options.Fault)
  deriving DecidableEq

/-- The settings a text holds. -/
def parse (t : Text) : Except Fault Settings :=
  match Toml.parse? t with
  | none => .error .malformed
  | some entries =>
    match takeNamed fields standard entries with
    | .error mismatch => .error (.mismatch mismatch)
    | .ok settings =>
      match settings.fetch.validate with
      | .error fault => .error (.unusable fault)
      | .ok () => .ok settings

def Wanted.describe : Wanted → Text
  | .boolean => "a boolean".toList
  | .text => "a string".toList
  | .path => "path string".toList
  | .number => "f64".toList
  | .byte => "u8".toList
  | .options => "struct FetchOptions".toList

/-- The names a field could have. -/
def choice : List Text → Text
  | [a, b] => Found.ticked a ++ " or ".toList ++ Found.ticked b
  | names => "one of ".toList ++ listed names
where
  listed : List Text → Text
    | [] => []
    | [name] => Found.ticked name
    | name :: more => Found.ticked name ++ ", ".toList ++ listed more

def Mismatch.describe : Mismatch → Text
  | .unknownField name known =>
    "unknown field ".toList ++ Found.ticked name ++ ", expected ".toList ++ choice known
  | .wrongType found wanted =>
    "invalid type: ".toList ++ found.describe .configured ++ ", expected ".toList ++ wanted.describe
  | .outOfRange value wanted =>
    "invalid value: ".toList ++ (Found.integer value).describe .configured ++
      ", expected ".toList ++ wanted.describe

/-- The message of a fault. What is wrong with a document is not part of it. -/
def Fault.message : Fault → Text
  | .unreadable cause => "failed to read settings file: ".toList ++ cause.message
  | .malformed => "failed to parse settings file:".toList
  | .mismatch _ => "failed to parse settings file:".toList
  | .unusable fault => fault.message

end Settings

end EnvBundle
