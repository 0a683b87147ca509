import EnvBundle.CommandLine.Parse
import EnvBundle.Settings.File
import EnvBundle.Shell.Source
import EnvBundle.Token

/-!
One run of the command: inputs are resolved, a bundle is fetched and printed. In shell mode nothing
is an error; the text printed makes the shell fail instead.
-/
namespace EnvBundle.Run

inductive Fault where
  | fetch (fault : Fetch.Fault)
  | settings (fault : Settings.Fault)
  | options (fault : Fetch.Options.Fault)
  deriving DecidableEq

def Fault.message : Fault → Text
  | .fetch fault => fault.message
  | .settings fault => fault.message
  | .options fault => fault.message

/-- The resolved inputs of a run. -/
structure Context where
  token : Option Text
  options : Fetch.Options
  fetchBin : Option Path

/-- Puts the command line over the settings, and looks for the token. -/
def Context.resolve (invocation : Invocation) (world : World) (env : Environment) :
    Traced (Except Fault Context) := do
  match ← Settings.discover world env invocation.config with
  | .error fault => Traced.pure (.error (.settings fault))
  | .ok settings =>
    let options := invocation.fetchOptions settings.fetch
    match options.validate with
    | .error fault => Traced.pure (.error (.options fault))
    | .ok () =>
      let token ← Token.resolve invocation.token env world dotEnvPath
      Traced.pure (.ok ⟨token, options, invocation.fetchBin.or settings.fetchBin⟩)

/-- A block of output ends in one line feed; no text is no output. -/
def block (t : Text) : Text :=
  if t = [] then [] else if t.getLast? = some '\n' then t else t ++ ['\n']

/-- Prints the bundle as it was fetched. -/
def json (context : Context) (world : World) (env : Environment) : Traced (Except Fault Text) :=
  match context.token with
  | none => Traced.pure (.error (.fetch .missingToken))
  | some token => do
    match ← Fetch.Backend.choose world env context.fetchBin with
    | .error fault => Traced.pure (.error (.fetch fault))
    | .ok program =>
      match ← Fetch.Backend.fetch world program env token context.options with
      | .error fault => Traced.pure (.error (.fetch fault))
      | .ok t => Traced.pure (.ok (block t))

/-- Prints the bundle for a shell. -/
def shell (context : Context) (force : Bool) (format : Shell.Format) (world : World)
    (env : Environment) : Traced Text := do
  match ← Fetch.Backend.choose world env context.fetchBin with
  | .error fault =>
    Traced.log .warn "no fetch backend".toList [("error".toList, fault.message)]
    Traced.pure (block Shell.failureText)
  | .ok program =>
    let t ← Shell.source (Fetch.Backend.fetch world program) env (context.token.getD []) force
      context.options format
    Traced.pure (block t)

/-- What the command prints. -/
def execute (invocation : Invocation) (world : World) (env : Environment) :
    Traced (Except Fault Text) := do
  match ← Context.resolve invocation world env with
  | .error fault =>
    if invocation.has .json then Traced.pure (.error fault)
    else
      Traced.log .warn "cannot fetch ENVKEY config".toList [("error".toList, fault.message)]
      Traced.pure (.ok (block Shell.failureText))
  | .ok context =>
    if invocation.has .json then json context world env
    else do
      let t ← shell context (invocation.has .force) invocation.format world env
      Traced.pure (.ok t)

end EnvBundle.Run
