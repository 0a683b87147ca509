import EnvBundle.NameMap
import EnvBundle.Split
import EnvBundle.Text.Utf8

/-!
Stores of variables. A memory store holds texts and takes every write. A process store holds bytes,
gives back only what is decodable, and refuses what no process can hold. In both an empty value
counts as unset.
-/
namespace EnvBundle

inductive Environment where
  | memory (vars : NameMap Text Text)
  | process (vars : NameMap Bytes Bytes)

namespace Environment

/-- A name no process variable can have, or a value it cannot hold. -/
def settable (name value : Text) : Bool :=
  name != [] && !name.contains '=' && !name.contains '\x00' && !value.contains '\x00'

/-- The byte that ends a name. -/
def equalsSign : UInt8 := 61

/-- The bytes a process has for a name. A process holds texts `name=value` and looks for one that
begins with the name and an equals sign, so a name with an equals sign finds a part of a value. -/
def lookupBytes (vars : NameMap Bytes Bytes) (name : Bytes) : Option Bytes :=
  if 0 ∈ name then none
  else match Split.first? equalsSign name with
    | none => vars.get? name
    | some (shorter, rest) => (vars.get? shorter).bind (Split.after? (rest ++ [equalsSign]))

/-- The bytes of a variable. -/
def raw? (env : Environment) (name : Text) : Option Bytes :=
  match env with
  | .memory vars => (vars.get? name).map Utf8.encode
  | .process vars => lookupBytes vars (Utf8.encode name)

/-- The bytes of a variable that is not empty. -/
def filled? (env : Environment) (name : Text) : Option Bytes := (env.raw? name).filter (· != [])

/-- The value of a variable, if it is set and decodable. -/
def get? (env : Environment) (name : Text) : Option Text :=
  match env with
  | .memory vars => vars.get? name
  | .process vars => (lookupBytes vars (Utf8.encode name)).bind Utf8.decode?

/-- Whether a variable has a value that is not empty. The value need not be decodable. -/
def isSet (env : Environment) (name : Text) : Bool :=
  match env with
  | .memory vars => (vars.get? name).any (· != [])
  | .process vars => (lookupBytes vars (Utf8.encode name)).any (· != [])

/-- The store after a write, or none if it refuses. -/
def set? (env : Environment) (name value : Text) : Option Environment :=
  match env with
  | .memory vars => some (.memory (vars.insert name value))
  | .process vars =>
    if settable name value then
      some (.process (vars.insert (Utf8.encode name) (Utf8.encode value)))
    else none

/-- All variables in the order of their names. -/
def entries : Environment → List (Bytes × Bytes)
  | .memory vars => vars.entries.map fun (name, value) => (Utf8.encode name, Utf8.encode value)
  | .process vars => vars.entries

end Environment

/-- The end of an operation on a store. A refused write ends it at once, and the writes before it
stay. -/
inductive Outcome (α : Type) where
  | done (env : Environment) (value : α)
  | refused (env : Environment)

namespace Outcome

def env {α : Type} : Outcome α → Environment
  | .done env _ => env
  | .refused env => env

/-- Goes on from a store that refused nothing. -/
def andThen {α β : Type} (outcome : Outcome α) (next : Environment → α → Outcome β) : Outcome β :=
  match outcome with
  | .done env value => next env value
  | .refused env => .refused env

end Outcome

namespace Environment

/-- Sets, in the order given, each variable that is unset or empty, and counts them. -/
def fill (env : Environment) : List (Text × Text) → Outcome Nat
  | [] => .done env 0
  | (name, value) :: rest =>
    if env.isSet name then env.fill rest
    else match env.set? name value with
      | none => .refused env
      | some env => (env.fill rest).andThen fun env count => .done env (count + 1)

end Environment

end EnvBundle
