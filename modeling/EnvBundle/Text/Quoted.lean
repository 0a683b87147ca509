import EnvBundle.Text
import EnvBundle.Text.Printable

/-!
The quoted form in which a diagnostic shows a text: on one line, between double quotes, every
character visible.
-/
namespace EnvBundle.Text

/-- A code point in hexadecimal, without leading zeros. -/
def codePoint (c : Char) : Text := "\\u\x7b".toList ++ Nat.toDigits 16 c.toNat ++ ['\x7d']

def quotedChar (c : Char) : Text :=
  if c = '\x00' then ['\\', '0']
  else if c = '\t' then ['\\', 't']
  else if c = '\n' then ['\\', 'n']
  else if c = '\r' then ['\\', 'r']
  else if c = '"' then ['\\', '"']
  else if c = '\\' then ['\\', '\\']
  else if isPrintable c && !isExtending c then [c]
  else codePoint c

def quoted (t : Text) : Text := '"' :: t.flatMap quotedChar ++ ['"']

end EnvBundle.Text
