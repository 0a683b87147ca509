import EnvBundle.Split
import EnvBundle.Text.Utf8
import EnvBundle.World

/-! Questions about paths. -/
namespace EnvBundle

namespace Path

/-- The byte between the parts of a path. -/
def separator : UInt8 := 47

/-- A path below a directory. -/
def join (directory : Path) (name : Path) : Path :=
  if directory = [] ∨ directory.getLast? = some separator then directory ++ name
  else directory ++ separator :: name

/-- A path as text, whatever its bytes. -/
def display (path : Path) : Text := Utf8.decodeLossy path

/-- The parts of a path. -/
def parts (path : Path) : List Bytes := Split.pieces separator path

/-- The longest name of a file, in bytes. -/
def nameLimit : Nat := 255

end Path

namespace World

def exists? (world : World) (path : Path) : Bool :=
  match world.look path with
  | .ok _ => true
  | .error _ => false

/-- Whether there is a plain file. It need not be one that can be read. -/
def isFile (world : World) (path : Path) : Bool :=
  match world.look path with
  | .ok node => node.isPlain
  | .error _ => false

def read (world : World) (path : Path) : Except SystemFault Bytes :=
  match world.look path with
  | .ok node => node.content
  | .error fault => .error fault

/-- The text of a file. -/
def readText (world : World) (path : Path) : Except SystemFault Text :=
  match world.read path with
  | .error fault => .error fault
  | .ok content =>
    match Utf8.decode? content with
    | some t => .ok t
    | none => .error .undecodable

/-- The text of a file that need not be there. -/
def readOptional (world : World) (path : Path) : Except SystemFault (Option Text) :=
  if world.exists? path then (world.readText path).map some else .ok none

end World

end EnvBundle
