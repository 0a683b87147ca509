import EnvBundle.Split
import EnvBundle.Text.Digits
import EnvBundle.World

/-! What a backend that ended without success says about it. -/
namespace EnvBundle.Fetch

def errorMark : Text := "error:".toList

/-- The trimmed lines that are not blank. -/
def spokenLines (stderr : Text) : List Text :=
  (stderr.lines.map Text.trim).filter (· != [])

/-- The last line that begins with the error mark, else the last line. -/
def tellingLine? (stderr : Text) : Option Text :=
  let lines := (spokenLines stderr).reverse
  match lines.find? fun line => (Split.after? errorMark line).isSome with
  | some line => some line
  | none => lines.head?

/-- The telling line without its mark; for want of one, how the backend ended. -/
def failureReason (stderr : Text) (ending : Ending) : Text :=
  match tellingLine? stderr with
  | some line => Text.trim ((Split.after? errorMark line).getD line)
  | none =>
    match ending with
    | .exited status => "fetch backend exited with status ".toList ++ Text.ofNat status
    | .killed => "fetch backend terminated by signal".toList

end EnvBundle.Fetch
