import EnvBundle.Fetch.Backend.Lookup

/-! What starting a program comes to, or why it cannot be started. A name is searched for by the
system's own rules. -/
namespace EnvBundle.Fetch.Backend

/-- What starting a path comes to. -/
def runAt (world : World) (path : Path) : Except SystemFault (List Bytes → Report) :=
  match world.look path with
  | .error fault => .error fault
  | .ok node => node.start?.getD (.error .denied)

/-- The refusals that a search for a program passes over: what is there is no program that this user
can run, or is on a file system that does not answer. After any other one the search is over. -/
def passedOver : SystemFault → Bool
  | .absent | .belowFile | .denied | .staleHandle | .missingDevice | .timedOut => true
  | _ => false

/-- Tries a name in each directory. In the end the last refusal counts, or a permission that was
denied on the way. -/
def runIn (world : World) (name : Path) (last : SystemFault) :
    List Path → Except SystemFault (List Bytes → Report)
  | [] => .error last
  | directory :: rest =>
    match runAt world (Path.join directory name) with
    | .ok run => .ok run
    | .error fault =>
      if passedOver fault then runIn world name (if last = .denied then last else fault) rest
      else .error fault

/-- Where programs are looked for when the variable is not set. -/
def usualDirectories : List Path :=
  [Utf8.encode "/bin".toList, Utf8.encode "/usr/bin".toList]

/-- What a program does, a name without separator being looked for. -/
def behaviour (world : World) (env : Environment) (program : Path) (args : List Bytes) :
    Except SystemFault (List Bytes → Report) :=
  if 0 ∈ program ∨ args.any (·.contains 0) then .error .nulInArgument
  else if Path.separator ∈ program then runAt world program
  else if program = [] then .error .absent
  else if Path.nameLimit < program.length then .error .nameTooLong
  else runIn world program .absent ((directories? env).getD usualDirectories)

end EnvBundle.Fetch.Backend
