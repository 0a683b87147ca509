import EnvBundle.Program

/-!
The command. It starts no programs of its own: what the backend would print is read from standard
input, and the files a run may look at are read beforehand.
-/
namespace EnvBundle.Main

def faultOf : IO.Error → SystemFault
  | .noFileOrDirectory .. => .absent
  | .permissionDenied .. => .denied
  | .inappropriateType _ code _ => if code = 21 then .isDirectory else .belowFile
  | error => .described (toString error).toList

/-- What is at a path that cannot be read. A path below it tells a directory from a file. -/
def unreadNode (path : String) (fault : SystemFault) : IO (Except SystemFault Node) := do
  try
    let _ ← IO.FS.realPath path
  catch _ => return .error fault
  try
    let _ ← IO.FS.readBinFile (path ++ "/.")
    return .error fault
  catch error =>
    return .ok (if faultOf error = .belowFile then .plain (.error fault) none else .folder fault)

/-- A file or a directory, or why nothing can be told about it. A device is taken for a file. -/
def readNode (path : Path) : IO (Path × Except SystemFault Node) := do
  match Utf8.decode? path with
  | none => return (path, .error .undecodable)
  | some t =>
    try
      let content ← IO.FS.readBinFile (String.ofList t)
      return (path, .ok (.file content.toList none))
    catch error => return (path, ← unreadNode (String.ofList t) (faultOf error))

/-- The variables of this process. -/
def readVariables : IO Environment := do
  let block ← IO.FS.readBinFile "/proc/self/environ"
  return .process (NameMap.ofList
    ((Split.pieces 0 block.toList).filterMap (Split.first? Environment.equalsSign)))

/-- A world without files. -/
def nowhere : World := ⟨fun _ => .error .absent, none⟩

/-- The files a run may look at. -/
def candidates (invocation : Invocation) (env : Environment) : List Path :=
  invocation.config.toList ++ (env.filled? Settings.fileVariable).toList ++
    (Settings.defaultPath? nowhere env).toList ++ [dotEnvPath]

/-- The files read, and at every other path a backend that prints the given bytes. -/
def worldOf (files : List (Path × Except SystemFault Node)) (answer : Bytes) : World where
  look path := (files.lookup path).getD
    (.ok (.file [] (some fun _ => ⟨answer, [], .exited 0⟩)))
  accountHome := none

/-- The world a command line needs. One that cannot be followed needs none. -/
def surroundings (arguments : List Bytes) (env : Environment) : IO World := do
  match CommandLine.parse arguments with
  | .error _ => return nowhere
  | .ok invocation =>
    let files ← (candidates invocation env).mapM readNode
    let answer ← IO.FS.readBinFile "/dev/stdin"
    return worldOf files answer.toList

def run (arguments : List Bytes) : IO UInt32 := do
  let env ← readVariables
  let world ← surroundings arguments env
  let printed := (Program.run arguments world env).value
  (← IO.getStdout).putStr (String.ofList printed.stdout)
  (← IO.getStderr).putStr (String.ofList printed.stderr)
  return UInt32.ofNat printed.status

end EnvBundle.Main

def main (arguments : List String) : IO UInt32 :=
  EnvBundle.Main.run (arguments.map fun argument => EnvBundle.Utf8.encode argument.toList)
