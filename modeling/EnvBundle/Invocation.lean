import EnvBundle.CommandLine.Flag
import EnvBundle.Fetch.Options
import EnvBundle.Shell.Render

/-! What a command line asks for, and what it changes in the fetch options. -/
namespace EnvBundle

structure Invocation where
  token : Option Text
  /-- The switches, in the order given. -/
  switches : List CommandLine.Switch
  cacheDir : Option Path
  clientName : Option Text
  clientVersion : Option Text
  timeout : Option Binary64
  retries : Option UInt8
  retryBackoff : Option Binary64
  fetchBin : Option Path
  config : Option Path
  deriving DecidableEq

namespace Invocation

def empty : Invocation := ⟨none, [], none, none, none, none, none, none, none, none⟩

def has (invocation : Invocation) (switch : CommandLine.Switch) : Bool :=
  invocation.switches.contains switch

/-- The form of the output. -/
def format (invocation : Invocation) : Shell.Format :=
  if invocation.has .dotEnvCompatible then .dotEnv
  else if invocation.has .pamCompatible then .pamCompatible
  else .standard

/-- The name and version the program gives for itself. -/
def programName : Text := "envkey-source".toList

def programVersion : Text := "0.1.0".toList

/-- The options with everything the command line says put over them. A client without a name or a
version is this program. -/
def fetchOptions (invocation : Invocation) (base : Fetch.Options) : Fetch.Options where
  shouldCache := base.shouldCache || invocation.has .cache
  cacheDir := invocation.cacheDir.or base.cacheDir
  clientName := (invocation.clientName.or base.clientName).or (some programName)
  clientVersion := (invocation.clientVersion.or base.clientVersion).or (some programVersion)
  verbose := base.verbose || invocation.has .verbose
  timeoutSecs := invocation.timeout.getD base.timeoutSecs
  retries := invocation.retries.getD base.retries
  retryBackoff := invocation.retryBackoff.getD base.retryBackoff

end Invocation

end EnvBundle
