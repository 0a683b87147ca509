import EnvBundle.Loader
import EnvBundle.Shell.Render

/-! A fetched bundle as text for a shell. Whatever fails, the text makes the shell fail, and the
cause goes to the log. -/
namespace EnvBundle.Shell

def Format.label : Format → Text
  | .standard => "Standard".toList
  | .pamCompatible => "PamCompatible".toList
  | .dotEnv => "DotEnv".toList

/-- The entries to be written: those of variables unset or empty, or all of them. -/
def selected (env : Environment) (overwrite : Bool) (bundle : Bundle) : List (Text × Text) :=
  bundle.entries.filter fun (name, _) => overwrite || !env.isSet name

/-- The lines about entries left out. -/
def skips (env : Environment) (overwrite : Bool) (bundle : Bundle) : List Event :=
  (bundle.entries.filter fun (name, _) => !(overwrite || !env.isSet name)).map fun (name, _) =>
    .logged ⟨.debug, "already set, skipping".toList, [("key".toList, name)]⟩

def boolText (b : Bool) : Text := (if b then "true" else "false").toList

/-- Announces a fetch, if that is wanted. -/
def announce (options : Fetch.Options) : List Event :=
  if options.verbose then
    [.logged ⟨.info, "fetching ENVKEY config".toList,
      [("timeout_secs".toList, options.timeoutSecs.toText .logged),
        ("retries".toList, Text.ofNat options.retries.toNat),
        ("final_backoff_secs".toList, options.finalRetryDelay.toSeconds.toText .logged),
        ("cache".toList, boolText options.shouldCache)]⟩]
  else []

/-- Sums up a fetch, if that is wanted. -/
def summary (options : Fetch.Options) (fetched rendered : Nat) (format : Format) : List Event :=
  if options.verbose then
    [.logged ⟨.info, "fetched ENVKEY config".toList,
      [("fetched".toList, Text.ofNat fetched), ("rendered".toList, Text.ofNat rendered),
        ("format".toList, format.label)]⟩]
  else []

/-- The text for a fetcher's answer. -/
def present (env : Environment) (overwrite : Bool) (options : Fetch.Options) (format : Format)
    (answer : Except Fetch.Fault Text) : Traced Text :=
  match answer with
  | .error fault =>
    ⟨failureText, [.logged ⟨.warn, "fetch failed".toList, [("error".toList, fault.message)]⟩]⟩
  | .ok t =>
    match Bundle.parse t with
    | .error fault =>
      ⟨failureText, [.logged ⟨.warn, "fetch returned an unusable bundle".toList,
        [("error".toList, (Loader.Fault.malformedResponse fault).message)]⟩]⟩
    | .ok bundle =>
      let chosen := selected env overwrite bundle
      ⟨render chosen format,
        skips env overwrite bundle ++ summary options bundle.size chosen.length format⟩

def source (fetcher : Fetcher) (env : Environment) (token : Text) (overwrite : Bool)
    (options : Fetch.Options) (format : Format) : Traced Text := do
  (⟨(), announce options⟩ : Traced Unit)
  let answer ← fetcher env token options
  present env overwrite options format answer

end EnvBundle.Shell
