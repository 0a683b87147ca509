import EnvBundle.Environment
import EnvBundle.Fetch.Fault
import EnvBundle.Trace

/-! Where bundles come from, seen from those who ask for them. -/
namespace EnvBundle

/-- A source of bundles. It is asked with the variables of the moment, a token and options. -/
abbrev Fetcher := Environment → Text → Fetch.Options → Traced (Except Fetch.Fault Text)

/-- A fetcher whose answer depends on the token and the options alone. -/
def Fetcher.fixed (answer : Text → Fetch.Options → Except Fetch.Fault Text) : Fetcher :=
  fun _ token options => ⟨answer token options, [.asked token options]⟩

end EnvBundle
