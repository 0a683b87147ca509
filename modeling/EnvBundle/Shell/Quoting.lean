import EnvBundle.Text

/-! Single quotes around a value, with and without care for the quotes inside it. -/
namespace EnvBundle.Shell

/-- A single quote leaves the quotes, stands between double quotes, and enters the quotes again. -/
def escapeChar (c : Char) : Text := if c = '\'' then "'\"'\"'".toList else [c]

/-- A value as one shell word. -/
def escape (value : Text) : Text := '\'' :: value.flatMap escapeChar ++ ['\'']

/-- A value between quotes, itself unchanged. -/
def rawQuote (value : Text) : Text := '\'' :: value ++ ['\'']

end EnvBundle.Shell
