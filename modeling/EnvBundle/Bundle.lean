import EnvBundle.Json.Object
import EnvBundle.NameMap
import EnvBundle.Variable

/-!
A bundle: the variables a fetch returns. It arrives as one JSON object of strings; a repeated name
keeps its last value, and then every variable is checked, in the order of the names.
-/
namespace EnvBundle

/-- Variables in ascending order of their names. -/
abbrev Bundle := NameMap Text Text

namespace Bundle

inductive Fault where
  | unreadable (cause : Json.Cause) (place : Json.Position)
  | badVariable (fault : Variable.Fault)
  deriving DecidableEq

/-- Checks the entries in order, each name before its value. -/
def checkAll : List (Text × Text) → Except Variable.Fault Unit
  | [] => .ok ()
  | (name, value) :: rest =>
    match Variable.check name value with
    | .error fault => .error fault
    | .ok () => checkAll rest

/-- The bundle a text holds. -/
def parse (t : Text) : Except Fault Bundle :=
  match Json.object t with
  | .error fault => .error (.unreadable fault.cause (fault.position t))
  | .ok pairs =>
    let bundle := NameMap.ofList pairs
    match checkAll bundle.entries with
    | .error fault => .error (.badVariable fault)
    | .ok () => .ok bundle

def Fault.message : Fault → Text
  | .unreadable cause place => cause.message place
  | .badVariable fault => fault.message

end Bundle

end EnvBundle
