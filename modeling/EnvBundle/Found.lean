import EnvBundle.Binary64.Layout
import EnvBundle.Text.Quoted

/-! A value that stands where one of another kind is wanted, as messages name it. -/
namespace EnvBundle

inductive Found where
  | null
  | boolean (value : Bool)
  | integer (value : Int)
  | real (value : Binary64)
  | text (value : Text)
  | sequence
  | map
  deriving DecidableEq

namespace Found

def ticked (t : Text) : Text := '`' :: t ++ ['`']

def truth (value : Bool) : Text := (if value then "true" else "false").toList

/-- The kind, and the value if it is a simple one. -/
def describe (layout : Binary64.Layout) : Found → Text
  | .null => "null".toList
  | .boolean value => "boolean ".toList ++ ticked (truth value)
  | .integer value => "integer ".toList ++ ticked (Text.ofInt value)
  | .real value => "floating point ".toList ++ ticked (value.toText layout)
  | .text value => "string ".toList ++ Text.quoted value
  | .sequence => "sequence".toList
  | .map => "map".toList

end Found

end EnvBundle
