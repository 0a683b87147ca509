import EnvBundle.CommandLine.Value
import EnvBundle.Split

/-!
Reading a command line, argument by argument. A value is looked at only when the next flag or the
next free argument is taken, or at the end; so a fault of a later argument can come first. This is
the order of `clap`, the library that reads command lines; the program's own are the flags and
which of them contradict each other.
-/
namespace EnvBundle.CommandLine

/-- What has been read but not yet taken. -/
inductive Pending where
  /-- A flag whose value has not come yet. -/
  | awaiting (flag : ValueFlag)
  | held (flag : ValueFlag) (value : Bytes)
  | token (value : Bytes)

structure State where
  taken : Invocation
  pending : Option Pending
  /-- Whether the one free argument has been read. -/
  tokenRead : Bool
  /-- Whether flags are over. -/
  onlyFree : Bool

def State.start : State := ⟨Invocation.empty, none, false, false⟩

/-- Takes what is pending. -/
def settle (state : State) : Except Fault State :=
  match state.pending with
  | none => .ok state
  | some (.awaiting flag) => .error (.missingValue flag)
  | some (.held flag value) =>
    (give state.taken flag value).map fun taken => { state with taken := taken, pending := none }
  | some (.token value) =>
    (decode value).map fun t =>
      { state with taken := { state.taken with token := some t }, pending := none }

/-- Adds a switch that has not been given before. -/
def addSwitch (switch : Switch) (state : State) : Except Fault State :=
  if state.taken.has switch then .error (.repeated (.switch switch))
  else .ok { state with
    taken := { state.taken with switches := state.taken.switches ++ [switch] } }

/-- Takes a flag that has no value with it. -/
def takeFlag (long : Bool) (flag : Flag) (state : State) : Except Fault State :=
  match settle state with
  | .error fault => .error fault
  | .ok state =>
    match flag with
    | .switch switch => addSwitch switch state
    | .valued flag => .ok { state with pending := some (.awaiting flag) }
    | .version => .error .version
    | .help => .error (.help long)

/-- Takes a flag with a value attached. -/
def takeAttached (flag : Flag) (value : Bytes) (state : State) : Except Fault State :=
  match flag with
  | .valued flag =>
    match settle state with
    | .error fault => .error fault
    | .ok state => (give state.taken flag value).map fun taken => { state with taken := taken }
  | flag => .error (.surplusValue (Utf8.decodeLossy value) flag)

/-- The byte between a flag and its value. -/
def equalsSign : UInt8 := 61

/-- A flag's name, and its value if it is attached. -/
def cutValue (body : Bytes) : Bytes × Option Bytes :=
  match Split.first? equalsSign body with
  | none => (body, none)
  | some (name, value) => (name, some value)

/-- An argument after two dashes. -/
def takeLong (body : Bytes) (state : State) : Except Fault State :=
  let (name, value) := cutValue body
  match (Utf8.decode? name).bind Flag.named? with
  | none => .error (.unknownArgument ("--".toList ++ Utf8.decodeLossy name))
  | some flag =>
    match value with
    | none => takeFlag true flag state
    | some value => takeAttached flag value state

/-- The letters after one dash. What cannot be decoded ends them. -/
def takeShort (state : State) : List Utf8.Piece → Except Fault State
  | [] => .ok state
  | .char c :: rest =>
    match Flag.short? c with
    | none => .error (.unknownArgument ['-', c])
    | some flag =>
      match takeFlag false flag state with
      | .error fault => .error fault
      | .ok state => takeShort state rest
  | .broken :: rest =>
    .error (.unknownArgument ('-' :: (Utf8.Piece.broken :: rest).map Utf8.Piece.shown))

/-- A free argument. There is room for one. -/
def takeFree (argument : Bytes) (state : State) : Except Fault State :=
  if state.tokenRead then .error (.unknownArgument (Utf8.decodeLossy argument))
  else (settle state).map fun state =>
    { state with pending := some (.token argument), tokenRead := true }

/-- An argument that is no flag: the value of the flag that awaits one, or a free argument. -/
def takeBare (argument : Bytes) (state : State) : Except Fault State :=
  match state.pending with
  | some (.awaiting flag) => .ok { state with pending := some (.held flag argument) }
  | _ => takeFree argument state

/-- What an argument looks like. -/
inductive Shape where
  | bare
  /-- Two dashes alone. -/
  | divider
  | long (body : Bytes)
  | short (body : Bytes)
  deriving DecidableEq, Repr

def dash : UInt8 := 45

/-- A dash alone is no flag. -/
def Shape.of (argument : Bytes) : Shape :=
  match Split.after? [dash] argument with
  | none => .bare
  | some [] => .bare
  | some body =>
    match Split.after? [dash] body with
    | none => .short body
    | some [] => .divider
    | some body => .long body

def takeArgument (state : State) (argument : Bytes) : Except Fault State :=
  if state.onlyFree then takeFree argument state
  else match Shape.of argument with
    | .bare => takeBare argument state
    | .divider => .ok { state with onlyFree := true }
    | .long body => takeLong body state
    | .short body => takeShort state (Utf8.pieces none body)

/-- The first switch, in the order given, that contradicts others is the one at fault. -/
def checkConflicts (switches : List Switch) : Except Fault Unit :=
  match switches.find? fun switch => switches.any switch.excludes with
  | none => .ok ()
  | some switch => .error (.conflict switch (switches.filter switch.excludes))

/-- The invocation a list of arguments stands for. -/
def parse (arguments : List Bytes) : Except Fault Invocation :=
  match arguments.foldlM takeArgument State.start with
  | .error fault => .error fault
  | .ok state =>
    match settle state with
    | .error fault => .error fault
    | .ok state => (checkConflicts state.taken.switches).map fun _ => state.taken

end EnvBundle.CommandLine
