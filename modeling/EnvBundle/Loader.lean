import EnvBundle.Bundle
import EnvBundle.DotEnv
import EnvBundle.Fetch.Backend

/-!
Loading: a bundle is fetched for the token in a store, and fills what the store has unset or empty.
An environment file, if one is named, fills the store first, so the token may come from it.
-/
namespace EnvBundle

/-- The variable that holds the token. -/
def tokenVariable : Text := "ENVKEY".toList

/-- The environment file of the current directory. -/
def dotEnvPath : Path := Utf8.encode ".env".toList

/-- The assignments of a file that need not be there. -/
def DotEnv.read (world : World) (path : Path) : Except SystemFault (Option (List (Text × Text))) :=
  (world.readOptional path).map (Option.map DotEnv.entries)

/-- The token in a store. -/
def Environment.token? (env : Environment) : Option Text :=
  (env.get? tokenVariable).filter (· != [])

structure Loader where
  fetcher : Fetcher
  options : Fetch.Options := Fetch.Options.loader false
  /-- The environment file. It need not be there. -/
  dotEnv : Option Path := none

namespace Loader

inductive Fault where
  | missingToken
  | fetch (fault : Fetch.Fault)
  | malformedResponse (fault : Bundle.Fault)
  deriving DecidableEq

def Fault.message : Fault → Text
  | .missingToken => "missing ENVKEY".toList
  | .fetch fault => fault.message
  | .malformedResponse fault =>
    "problem parsing EnvKey's response: ".toList ++ fault.message

/-- What the environment file assigns, by name. A file that cannot be read assigns nothing. -/
def layer (loader : Loader) (world : World) : NameMap Text Text :=
  match loader.dotEnv with
  | none => NameMap.empty
  | some path =>
    match DotEnv.read world path with
    | .ok (some entries) => NameMap.ofList entries
    | _ => NameMap.empty

/-- Fills the store from the fetcher's answer. Nothing is written unless the whole bundle is
good. -/
def receive (env : Environment) (answer : Except Fetch.Fault Text) :
    Outcome (Except Fault Unit) :=
  match answer with
  | .error fault => .done env (.error (.fetch fault))
  | .ok t =>
    match Bundle.parse t with
    | .error fault => .done env (.error (.malformedResponse fault))
    | .ok bundle => (env.fill bundle.entries).andThen fun env _ => .done env (.ok ())

/-- Asks the fetcher with the token in the store. -/
def fetchInto (loader : Loader) (env : Environment) : Traced (Outcome (Except Fault Unit)) :=
  match env.token? with
  | none => Traced.pure (.done env (.error .missingToken))
  | some token => do
    let answer ← loader.fetcher env token loader.options
    Traced.pure (receive env answer)

def load (loader : Loader) (world : World) (env : Environment) :
    Traced (Outcome (Except Fault Unit)) :=
  match env.fill (loader.layer world).entries with
  | .refused env => Traced.pure (.refused env)
  | .done env _ => loader.fetchInto env

/-- Loads with the program found for the store. A local copy is kept where there is an environment
file. -/
def autoload (world : World) (env : Environment) : Traced (Outcome (Except Fault Unit)) :=
  match Fetch.Backend.program world env none with
  | .error fault => Traced.pure (.done env (.error (.fetch fault)))
  | .ok program =>
    load
      { fetcher := Fetch.Backend.fetch world program
        options := Fetch.Options.loader (world.exists? dotEnvPath)
        dotEnv := some dotEnvPath }
      world env

end Loader

end EnvBundle
