import EnvBundle.Environment
import EnvBundle.Fetch.Fault
import EnvBundle.World.Files

/-! Which program fetches: the one named, the one a variable names, or the first of the usual name
in the directories programs are looked for in. The last search, with its tilde and its test, is that
of the `which` library. -/
namespace EnvBundle.Fetch.Backend

/-- The program looked for when none is named. -/
def programName : Text := "envkey-fetch".toList

def programVariable : Text := "ENVKEY_FETCH_BIN".toList

def colon : UInt8 := 58

/-- The directories programs are looked for in. -/
def directories? (env : Environment) : Option (List Path) :=
  (env.raw? "PATH".toList).map (Split.pieces colon)

/-- The directory a tilde stands for. Its name has to be decodable. -/
def home? (env : Environment) : Option Path :=
  ((env.get? "HOME".toList).filter (· != [])).map Utf8.encode

/-- A directory whose first part is a tilde is below the home directory; its other parts are put
together anew. For want of a home directory a tilde stands for itself. -/
def expandHome (env : Environment) (directory : Path) : Path :=
  match Path.parts directory, home? env with
  | [126] :: parts, some home =>
    (parts.filter fun part => part != [] && part != [46]).foldl Path.join home
  | _, _ => directory

/-- Whether there is a plain file that may be run. It is not tried. -/
def runnable (world : World) (path : Path) : Bool :=
  match world.look path with
  | .ok node => node.start?.isSome
  | .error _ => false

def onPath? (world : World) (env : Environment) : Option Path :=
  (directories? env).bind fun directories =>
    (directories.map fun directory =>
      Path.join (expandHome env directory) (Utf8.encode programName)).find? (runnable world)

/-- The program to run: the one named, else the one the variable names, else the one found among
the program directories. -/
def program (world : World) (env : Environment) (named : Option Path) : Except Fault Path :=
  match named with
  | some path => .ok path
  | none =>
    match env.filled? programVariable with
    | some path => .ok path
    | none =>
      match onPath? world env with
      | some path => .ok path
      | none => .error (.backendNotFound programName)

end EnvBundle.Fetch.Backend
