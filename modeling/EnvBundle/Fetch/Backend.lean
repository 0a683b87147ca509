import EnvBundle.Fetch.Arguments
import EnvBundle.Fetch.Backend.Launch
import EnvBundle.Fetch.Failure
import EnvBundle.Fetcher

/-!
Fetching with a program: it is started with the token and the options as arguments, and its end is
read as a bundle's text or as a fault. It inherits the variables as they are when it is started.
-/
namespace EnvBundle.Fetch.Backend

def notStarted (program : Path) : SystemFault → Fault
  | .absent => .backendNotFound (Path.display program)
  | fault => .notStarted fault

/-- The bundle's text, or why there is none. -/
def result (report : Report) : Except Fault Text :=
  if report.ending.succeeded then
    match Utf8.decode? report.stdout with
    | some t => .ok (Text.trim t)
    | none => .error .undecodableOutput
  else .error (.rejected (failureReason (Utf8.decodeLossy report.stderr) report.ending))

def statusField : Ending → Text
  | .exited status => "Some(".toList ++ Text.ofNat status ++ [')']
  | .killed => "None".toList

/-- The lines about a finished run: what the backend said, if that is wanted, and its failure. -/
def remarks (options : Options) (report : Report) : List Event :=
  let said := if options.verbose then
      (Utf8.decodeLossy report.stderr).lines.filter fun line => Text.trim line != []
    else []
  said.map (fun line => .logged ⟨.info, line, []⟩) ++
    if report.ending.succeeded then []
    else [.logged ⟨.debug, "fetch backend failed".toList,
      [("status".toList, statusField report.ending)]⟩]

/-- Runs the program for one token. -/
def fetch (world : World) (program : Path) : Fetcher := fun env token options =>
  if token = [] then Traced.pure (.error .missingToken)
  else do
    Traced.log .debug "running fetch backend".toList
      [("program".toList, Path.display program),
        ("timeout_secs".toList, options.timeoutSecs.toText .logged),
        ("retries".toList, Text.ofNat options.retries.toNat)]
    let args := arguments token options
    match behaviour world env program args with
    | .error fault => Traced.pure (.error (notStarted program fault))
    | .ok run =>
      ⟨result (run args), .started program args :: remarks options (run args)⟩

/-- Chooses the program and says which. -/
def choose (world : World) (env : Environment) (named : Option Path) :
    Traced (Except Fault Path) :=
  match program world env named with
  | .error fault => Traced.pure (.error fault)
  | .ok path =>
    ⟨.ok path, [.logged ⟨.debug, "using command fetch backend".toList,
      [("program".toList, Path.display path)]⟩]⟩

end EnvBundle.Fetch.Backend
