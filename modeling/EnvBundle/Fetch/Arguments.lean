import EnvBundle.Fetch.Options
import EnvBundle.Text.Utf8

/-! The command line of a fetch backend. The token comes first; optional flags follow the three
that are always there. -/
namespace EnvBundle.Fetch

/-- A flag with its value, if there is a value. -/
def flagged (flag : Text) : Option Bytes → List Bytes
  | none => []
  | some value => [Utf8.encode flag, value]

/-- A flag that stands alone. -/
def switch (flag : Text) : Bool → List Bytes
  | false => []
  | true => [Utf8.encode flag]

def arguments (token : Text) (options : Options) : List Bytes :=
  [ Utf8.encode token,
    Utf8.encode "--timeout".toList, Utf8.encode (options.timeoutSecs.toText .plain),
    Utf8.encode "--retries".toList, Utf8.encode (Text.ofNat options.retries.toNat),
    Utf8.encode "--retryBackoff".toList, Utf8.encode (options.retryBackoff.toText .plain) ] ++
  switch "--cache".toList options.shouldCache ++
  flagged "--cache-dir".toList options.cacheDir ++
  flagged "--client-name".toList (options.clientName.map Utf8.encode) ++
  flagged "--client-version".toList (options.clientVersion.map Utf8.encode) ++
  switch "--verbose".toList options.verbose

end EnvBundle.Fetch
