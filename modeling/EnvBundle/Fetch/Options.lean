import EnvBundle.Binary64.Layout
import EnvBundle.Duration

/-! How a bundle is fetched: the time limit, the retries and what else a backend is told. -/
namespace EnvBundle.Fetch

structure Options where
  /-- Whether the backend keeps an encrypted local copy. -/
  shouldCache : Bool
  cacheDir : Option Path
  /-- The client library that asks, for diagnostics. -/
  clientName : Option Text
  clientVersion : Option Text
  /-- Whether the fetch and the backend's diagnostics are logged. -/
  verbose : Bool
  /-- The limit of one attempt. -/
  timeoutSecs : Binary64
  /-- The attempts after a first failed one. -/
  retries : UInt8
  retryBackoff : Binary64
  deriving DecidableEq

namespace Options

def standard : Options where
  shouldCache := false
  cacheDir := none
  clientName := none
  clientVersion := none
  verbose := false
  timeoutSecs := Binary64.ofNat 20
  retries := 3
  retryBackoff := Binary64.ofNat 1

/-- What a loader starts from: a shorter limit, and the loader's own name. -/
def loader (shouldCache : Bool) : Options :=
  { standard with
    shouldCache
    clientName := some "envkey-rs".toList
    timeoutSecs := Binary64.ofNat 15 }

def timeout (options : Options) : Duration := Duration.ofSeconds options.timeoutSecs

/-- The wait before a retry doubles from one retry to the next. Attempt zero is the first request,
which waits for nothing. -/
def retryDelay (options : Options) (attempt : Nat) : Duration :=
  match attempt with
  | 0 => Duration.zero
  | n + 1 => Duration.ofSeconds (options.retryBackoff.scale n)

/-- The wait before the last retry. -/
def finalRetryDelay (options : Options) : Duration := options.retryDelay options.retries.toNat

/-- A number no fetch can use. -/
inductive Fault where
  | timeout (given : Binary64)
  | retryBackoff (given : Binary64)
  deriving DecidableEq

/-- The limit has to be positive and finite, the factor finite and not negative. -/
def validate (options : Options) : Except Fault Unit :=
  if !options.timeoutSecs.isFinite || !options.timeoutSecs.isPositive then
    .error (.timeout options.timeoutSecs)
  else if !options.retryBackoff.isFinite || options.retryBackoff.isNegative then
    .error (.retryBackoff options.retryBackoff)
  else .ok ()

def Fault.field : Fault → Text
  | .timeout _ => "timeout".toList
  | .retryBackoff _ => "retryBackoff".toList

def Fault.reason : Fault → Text
  | .timeout given =>
    "must be a positive number of seconds, got ".toList ++ given.toText .plain
  | .retryBackoff given => "must be zero or positive, got ".toList ++ given.toText .plain

def Fault.message (fault : Fault) : Text :=
  "invalid ".toList ++ fault.field ++ ": ".toList ++ fault.reason

end Options

end EnvBundle.Fetch
