import EnvBundle.Split
import EnvBundle.Text

/-!
Environment files. Every line stands for itself: blank lines, comments and lines without an
assignment are passed over.
-/
namespace EnvBundle.DotEnv

/-- The escapes of a value between double quotes. A backslash before any other character stands
for itself. -/
def unescape : Text → Text
  | [] => []
  | '\\' :: 'n' :: rest => '\n' :: unescape rest
  | '\\' :: 'r' :: rest => '\r' :: unescape rest
  | '\\' :: '"' :: rest => '"' :: unescape rest
  | '\\' :: '\\' :: rest => '\\' :: unescape rest
  | '\\' :: c :: rest => '\\' :: c :: unescape rest
  | c :: rest => c :: unescape rest

/-- A value as it is written: between double quotes with escapes, between single quotes without,
or bare. -/
def value (raw : Text) : Text :=
  match Text.between? '"' raw with
  | some inner => unescape inner
  | none => (Text.between? '\'' raw).getD raw

/-- A line without blanks at its ends. -/
def assignment? (line : Text) : Option (Text × Text) :=
  if line = [] ∨ line.head? = some '#' then none
  else
    match Split.first? '=' ((Split.after? "export ".toList line).getD line) with
    | none => none
    | some (name, raw) =>
      if Text.trim name = [] then none else some (Text.trim name, value (Text.trim raw))

/-- The assignments of a file, in its order. -/
def entries (t : Text) : List (Text × Text) :=
  t.lines.filterMap fun line => assignment? (Text.trim line)

/-- The last assignment wins. -/
def get? (entries : List (Text × Text)) (name : Text) : Option Text :=
  entries.reverse.lookup name

end EnvBundle.DotEnv
