import EnvBundle.Run

/-! The program as its user sees it: two streams of text and an exit status. -/
namespace EnvBundle.Program

structure Printed where
  stdout : Text
  stderr : Text
  status : Nat
  deriving DecidableEq, Repr

/-- What may help against a fault. -/
def hint? : Run.Fault → Option Text
  | .fetch (.backendNotFound _) => some "install envkey-fetch or set ENVKEY_FETCH_BIN".toList
  | .fetch .missingToken =>
    some "pass an ENVKEY argument or set the ENVKEY environment variable".toList
  | _ => none

def errorText (fault : Run.Fault) : Text :=
  "error: ".toList ++ fault.message ++ ['\n'] ++
    match hint? fault with
    | some hint => "→ ".toList ++ hint ++ ['\n']
    | none => []

def logVariable : Text := "ENVKEY_SOURCE_LOG".toList

/-- Which lines are written: what the variable says if it says something usable, else warnings, or
everything of use if that is wanted. -/
def threshold (invocation : Invocation) (env : Environment) : Log.Threshold :=
  match (env.get? logVariable).bind Log.threshold? with
  | some threshold => threshold
  | none =>
    if invocation.has .verbose then Log.Level.debug.rank else Log.Level.warn.rank

/-- What is shown for a command line that cannot be followed. -/
def usage (fault : CommandLine.Fault) : Printed :=
  match fault with
  | .version => ⟨fault.streamed ++ ['\n'], [], 0⟩
  | .help _ => ⟨fault.streamed ++ ['\n'], [], 0⟩
  | fault => ⟨[], fault.streamed, 2⟩

/-- What a run prints: its output, and its log lines before its error. -/
def printed (invocation : Invocation) (env : Environment) (run : Traced (Except Run.Fault Text)) :
    Printed :=
  let log := Log.render (threshold invocation env) run.lines
  match run.value with
  | .ok t => ⟨t, log, 0⟩
  | .error fault => ⟨[], log ++ errorText fault, 1⟩

def run (arguments : List Bytes) (world : World) (env : Environment) : Traced Printed :=
  match CommandLine.parse arguments with
  | .error fault => Traced.pure (usage fault)
  | .ok invocation =>
    let run := Run.execute invocation world env
    ⟨printed invocation env run, run.events⟩

end EnvBundle.Program
