import EnvBundle.Shell.Quoting

/-! Variables as text for a shell, for pam_env or for an environment file. -/
namespace EnvBundle.Shell

inductive Format where
  /-- One `export` command on one line. -/
  | standard
  /-- One `export` command a line, values quoted but not escaped. -/
  | pamCompatible
  /-- One assignment a line, each line ended. -/
  | dotEnv
  deriving DecidableEq, Repr

/-- A word that assigns, the name quoted too. -/
def word (name value : Text) : Text := rawQuote name ++ '=' :: escape value

def exportLine (name value : Text) : Text :=
  "export ".toList ++ name ++ '=' :: rawQuote value

def assignmentLine (name value : Text) : Text := name ++ '=' :: escape value ++ ['\n']

/-- The entries in the order given. No entries are no text. -/
def render (entries : List (Text × Text)) (format : Format) : Text :=
  match entries with
  | [] => []
  | entries =>
    match format with
    | .standard =>
      "export ".toList ++ Text.joinWith ' ' (entries.map fun (name, value) => word name value)
    | .pamCompatible =>
      Text.joinWith '\n' (entries.map fun (name, value) => exportLine name value)
    | .dotEnv => entries.flatMap fun (name, value) => assignmentLine name value

theorem render_pamCompatible_single (e : Text × Text) :
    render [e] .pamCompatible = exportLine e.1 e.2 := rfl

theorem render_pamCompatible_cons (e f : Text × Text) (entries : List (Text × Text)) :
    render (e :: f :: entries) .pamCompatible =
      exportLine e.1 e.2 ++ '\n' :: render (f :: entries) .pamCompatible := rfl

/-- What takes the place of the variables when there are none to be had. It prints a diagnostic
and leaves a failure status. -/
def failureText : Text := "echo 'error: ENVKEY invalid'; false".toList

end EnvBundle.Shell
