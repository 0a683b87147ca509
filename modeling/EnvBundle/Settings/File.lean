import EnvBundle.Environment
import EnvBundle.Settings
import EnvBundle.Trace
import EnvBundle.World.Files

/-! Which file settings are taken from. Exactly one place counts; a file that is chosen has to be
good. Where the home directory is, the `dirs` library says. -/
namespace EnvBundle.Settings

def fileVariable : Text := "ENVKEY_CONFIG".toList

/-- The settings file below the home directory. -/
def standardFile : Path := Utf8.encode ".envkey/config.toml".toList

/-- The home directory: the one that the variable names, else the one on record. -/
def home? (world : World) (env : Environment) : Option Path :=
  (env.filled? "HOME".toList).or (world.accountHome.filter (· != []))

/-- The settings file looked for when none is named. -/
def defaultPath? (world : World) (env : Environment) : Option Path :=
  (home? world env).map fun home => Path.join home standardFile

def load (world : World) (path : Path) : Except Fault Settings :=
  match world.readText path with
  | .error cause => .error (.unreadable cause)
  | .ok t => parse t

/-- The one file settings are taken from: the one named, else the one the variable names, else the
one in the home directory if there is a plain file, whether or not it can be read. -/
def file? (world : World) (env : Environment) (named : Option Path) : Option Path :=
  match named with
  | some path => some path
  | none =>
    match env.filled? fileVariable with
    | some path => some path
    | none => (defaultPath? world env).filter world.isFile

def discover (world : World) (env : Environment) (named : Option Path) :
    Traced (Except Fault Settings) :=
  match file? world env named with
  | none => Traced.pure (.ok standard)
  | some path =>
    ⟨load world path, [.logged ⟨.debug, "loading settings".toList,
      [("path".toList, Path.display path)]⟩]⟩

end EnvBundle.Settings
