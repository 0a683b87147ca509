import EnvBundle.Loader

/-! Where the program finds its token: in the argument, in the environment, in the environment
file. An empty one is passed over. -/
namespace EnvBundle.Token

/-- The token in an environment file. A file that cannot be read is reported and has none. -/
def inFile? (world : World) (path : Path) : Traced (Option Text) :=
  match DotEnv.read world path with
  | .ok none => Traced.pure none
  | .ok (some entries) =>
    Traced.pure ((DotEnv.get? entries tokenVariable).filter (· != []))
  | .error fault => do
    Traced.log .warn "skipping unreadable .env file".toList
      [("path".toList, Path.display path),
        ("error".toList, "io error: ".toList ++ fault.message)]
    Traced.pure none

def resolve (argument : Option Text) (env : Environment) (world : World) (path : Path) :
    Traced (Option Text) :=
  match argument.filter (· != []) with
  | some token => Traced.pure (some token)
  | none =>
    match env.token? with
    | some token => Traced.pure (some token)
    | none => inFile? world path

end EnvBundle.Token
